import Parsing.Proofs.Greedy
/-!
# Lists — an element, and the delimiters and elements behind it

The loop of `Parser.separated` and a repetition of delimiter-element pairs take the same matches.  They part where the
pairs end: the repetition succeeds there in any case, and the list fails if a delimiter matched and no element did.
`Parser.Lists` says what the list comes to, given what the repetition has come to; the two loops are compared round by
round (`Parser.lists_separatedFrom`).

A list is given one round or more beyond those its repetition needs.  No law of places is asked for: where a cursor is
not at its own place, both loops are endless.
-/
namespace Parsing

open Cursor (Distinct left samePosition TellsApart)

namespace Parser

variable {ι σ κ α β : Type} [Cursor ι σ] {p : Parser ι κ α} {d : Parser ι κ β} {parts : Parts ι α} {others : Parts ι β}
  {start x y : ι} {value : α}

theorem repeatedFrom_any_succ (rounds count : Nat) (x : ι) : repeatedFrom p .any start (rounds + 1) count x =
    match p x with
    | .success value rest =>
      if samePosition rest x then .success [value] rest
      else (repeatedFrom p .any start rounds (count + 1) rest).map (value :: ·)
    | .failure _ _ => .success [] x
    | .aborted why => .aborted why := by
  rw [repeatedFrom]
  cases p x <;> simp [Repetition.any, Repetition.atLeast, Repetition.isFull]

/-- What a list comes to behind an element, given what the repetition of delimiters and elements comes to there.  It is
no list where a delimiter matches and no element behind it, unless the last match stalled. -/
def Lists (p : Parser ι κ α) (d : Parser ι κ β) (start x : ι) : Outcome κ ι (List α) → Outcome κ ι (List α) → Prop
  | .success values rest, o =>
    ((d.skipThen p).Stalled x values rest ∨ d.Fails rest → o = .success values rest) ∧
      (¬ ((d.skipThen p).Stalled x values rest ∨ d.Fails rest) → ∃ between behind fault given,
        d rest = .success between behind ∧ p behind = .failure fault given ∧ o = .failure fault start)
  | .failure _ _, _ => False
  | .aborted why, o => o = .aborted why

/-- **A pair that moves on goes before both.** -/
theorem Lists.cons (h : d.skipThen p x = .success value y) (hplace : samePosition y x = false)
    {o o' : Outcome κ ι (List α)} (ho : Lists p d start y o o') :
    Lists p d start x (o.map (value :: ·)) (o'.map (value :: ·)) := by
  cases o with
  | success values rest =>
    have hstalled : (d.skipThen p).Stalled x (value :: values) rest ↔ (d.skipThen p).Stalled y values rest := by
      simp [stalled_cons_iff h, hplace]
    change (_ → _) ∧ (_ → _)
    rw [hstalled]
    refine ⟨fun hstop => by rw [ho.1 hstop]; rfl, fun hgo => ?_⟩
    obtain ⟨between, behind, fault, given, hd, hp, rfl⟩ := ho.2 hgo
    exact ⟨between, behind, fault, given, hd, hp, rfl⟩
  | failure fault input => exact ho
  | aborted why => exact congrArg (Outcome.map (value :: ·)) ho

/-- **Round by round, a list goes as the repetition of delimiters and elements.** -/
theorem lists_separatedFrom : ∀ (rounds count : Nat) (x : ι),
    Lists p d start x (repeatedFrom (d.skipThen p) .any y rounds count x) (separatedFrom p d start rounds x)
  | 0, _, _ => rfl
  | rounds + 1, count, x => by
    have hpair : d.skipThen p x = (d x).andThen fun _ behind => (p behind).restoring x := rfl
    rw [repeatedFrom_any_succ, separatedFrom]
    cases hd : d x with
    | success between behind =>
      rw [hd, Outcome.andThen_success] at hpair
      cases hp : p behind with
      | success value rest =>
        rw [hp, Outcome.restoring_success] at hpair
        rw [hpair]
        cases hplace : samePosition rest x with
        | true => simp [Lists, hp, hplace, Stalled.last hpair hplace]
        | false => simpa [hp, hplace] using (lists_separatedFrom rounds (count + 1) rest).cons hpair hplace
      | failure fault given =>
        -- The repetition takes the pair for no match and succeeds; the list has its delimiter and fails.
        rw [hp, Outcome.restoring_failure] at hpair
        rw [hpair]
        refine ⟨fun hstop => ?_, fun _ => ⟨between, behind, fault, given, hd, hp, by simp [hp]⟩⟩
        rcases hstop with hstalled | hfails
        · cases hstalled
        · exact absurd hfails (not_fails_of_success hd)
      | aborted why =>
        rw [hp, Outcome.restoring_aborted] at hpair
        simp [Lists, hp, hpair]
    | failure fault given =>
      rw [hd, Outcome.andThen_failure] at hpair
      rw [hpair]
      exact ⟨fun _ => rfl, fun hgo => absurd (.inr ⟨fault, given, hd⟩) hgo⟩
    | aborted why =>
      rw [hd, Outcome.andThen_aborted] at hpair
      rw [hpair]
      rfl

/-- **A list goes on from its first element as the repetition of delimiters and elements.** -/
theorem lists_repeated (hp : p.Orderly parts) (hd : d.Orderly others) {rounds : Nat} (h : left x < rounds) :
    Lists p d start x ((d.skipThen p).repeated .any x) (separatedFrom p d start rounds x) := by
  have hrounds : (d.skipThen p).repeated .any x = repeatedFrom (d.skipThen p) .any x rounds 0 x := by
    have hleast : Repetition.any.least = 0 := rfl
    exact repeatedFrom_congr (hd.skipThen hp) _ _ 0 (fun _ _ => .inr rfl) (by omega) h (by omega) (by omega)
  rw [hrounds]
  exact lists_separatedFrom rounds 0 x

theorem Progresses.not_stalled [Distinct ι] (hp : p.Progresses) (ho : p.Orderly parts) {values : List α} {rest : ι} :
    ¬ p.Stalled x values rest := by
  intro h
  obtain ⟨before, last, -, -, hlast⟩ := h.again ho (Distinct.tellsApart x)
  exact Nat.lt_irrefl _ (hp hlast)

/-- **A list whose pairs progress goes along a row of them**, up to where no delimiter follows, or to a delimiter
without an element. -/
theorem separated_of_row [Distinct ι] (hp : p.Orderly parts) (hd : d.Orderly others)
    (hprogress : (d.skipThen p).Progresses) {first : α} {more : List α} {rest : ι} (hfirst : p x = .success first y)
    (hrow : (d.skipThen p).Row y more rest) :
    (d.Fails rest → p.separated d x = .success (first :: more) rest) ∧
    ∀ between behind fault given, d rest = .success between behind → p behind = .failure fault given →
      p.separated d x = .failure fault x := by
  have hrounds : left y < left x + 2 := Nat.lt_of_le_of_lt (hp.advances hfirst).left_le (by omega)
  have hlist : Lists p d x y _ (separatedFrom p d x (left x + 2) y) := lists_repeated hp hd hrounds
  have hpairs {fault : Fault κ ι} {given : ι} (h : d.skipThen p rest = .failure fault given) :
      (d.skipThen p).repeated .any y = .success more rest :=
    repeated_of_row (hd.skipThen hp) hprogress 0 hrow h
  rw [separated, hfirst, Outcome.andThen_success]
  constructor
  · intro hfails
    obtain ⟨fault, given, hpair⟩ := hfails.skipThen p
    rw [hpairs hpair] at hlist
    rw [hlist.1 (.inr hfails), Outcome.map_success]
  · intro between behind fault given hbetween hmissing
    obtain ⟨_, _, hpair⟩ := fails_skipThen hbetween ⟨fault, given, hmissing⟩
    rw [hpairs hpair] at hlist
    have hgo : ¬ ((d.skipThen p).Stalled y more rest ∨ d.Fails rest) := by
      rintro (hstalled | hfails)
      · exact hprogress.not_stalled (hd.skipThen hp) hstalled
      · exact not_fails_of_success hbetween hfails
    obtain ⟨_, _, _, _, hbetween', hmissing', ho⟩ := hlist.2 hgo
    rw [hbetween] at hbetween'
    cases hbetween'
    rw [hmissing] at hmissing'
    cases hmissing'
    rw [ho, Outcome.map_failure]

end Parser

end Parsing
