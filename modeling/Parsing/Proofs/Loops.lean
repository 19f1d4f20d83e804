import Parsing.Proofs.Success
/-!
# Loops — repetitions and lists without a bound on their rounds

The loops of `Parsing.Parser.Repeat` stop after so many rounds at the latest.  Here are the loops themselves, as
relations that know no such bound and count what a run matches (`Parser.RepeatsFrom`, `Parser.SeparatesFrom`).  Where
matches move forward and a cursor is at its own place, there is a run from every cursor: a match either leaves less, or
it took nothing, and then the loop goes on only up to the least count.  A match that took nothing is the same match over
and over, so the two never add up: every run is within the rounds that the loops are given, and comes to their outcome.

It does not matter whether other cursors can be told apart.  Where all are at one place, the loops stop early.
-/
namespace Parsing

open Cursor (Reaches SelfSame left samePosition)

namespace Parser

variable {ι σ κ ν α β : Type} [Cursor ι σ]

/-- The loop of a repetition, from a cursor on, behind so many matches: how many times it matches and how many times it
fails to, and what it comes to. -/
inductive RepeatsFrom (p : Parser ι κ α) (range : Repetition) (start : ι) :
    Nat → ι → Nat → Nat → Outcome κ ι (List α) → Prop
  | full {count x} (hfull : range.isFull count = true) : RepeatsFrom p range start count x 0 0 (.success [] x)
  | stalled {count x value rest} (hfull : range.isFull count = false) (h : p x = .success value rest)
      (hstop : samePosition rest x = true ∧ range.least ≤ count + 1) :
      RepeatsFrom p range start count x 1 0 (.success [value] rest)
  | matched {count x value rest hits misses o} (hfull : range.isFull count = false) (h : p x = .success value rest)
      (hgo : ¬ (samePosition rest x = true ∧ range.least ≤ count + 1))
      (hmore : RepeatsFrom p range start (count + 1) rest hits misses o) :
      RepeatsFrom p range start count x (hits + 1) misses (o.map (value :: ·))
  | short {count x fault given} (hfull : range.isFull count = false) (h : p x = .failure fault given)
      (hcount : count < range.least) : RepeatsFrom p range start count x 0 1 (.failure fault start)
  | enough {count x fault given} (hfull : range.isFull count = false) (h : p x = .failure fault given)
      (hcount : ¬ count < range.least) : RepeatsFrom p range start count x 0 1 (.success [] x)
  | aborted {count x why} (hfull : range.isFull count = false) (h : p x = .aborted why) :
      RepeatsFrom p range start count x 0 0 (.aborted why)

/-- The loop of a list, behind an element: how many more it collects, and what it comes to. -/
inductive SeparatesFrom (p : Parser ι κ α) (d : Parser ι ν β) (start : ι) :
    ι → Nat → Outcome κ ι (List α) → Prop
  | last {x fault given} (hd : d x = .failure fault given) : SeparatesFrom p d start x 0 (.success [] x)
  | stalled {x between behind value rest} (hd : d x = .success between behind) (h : p behind = .success value rest)
      (hplace : samePosition rest x = true) : SeparatesFrom p d start x 1 (.success [value] rest)
  | matched {x between behind value rest more o} (hd : d x = .success between behind)
      (h : p behind = .success value rest) (hplace : samePosition rest x = false)
      (hmore : SeparatesFrom p d start rest more o) : SeparatesFrom p d start x (more + 1) (o.map (value :: ·))
  | missing {x between behind fault given} (hd : d x = .success between behind) (h : p behind = .failure fault given) :
      SeparatesFrom p d start x 0 (.failure fault start)
  | stopped {x why} (hd : d x = .aborted why) : SeparatesFrom p d start x 0 (.aborted why)
  | aborted {x between behind why} (hd : d x = .success between behind) (h : p behind = .aborted why) :
      SeparatesFrom p d start x 0 (.aborted why)

variable {p : Parser ι κ α} {d : Parser ι ν β} {range : Repetition}
  {start x rest : ι} {value : α} {count hits misses more : Nat} {o : Outcome κ ι (List α)}

theorem Advances.eq_or_left_lt (hp : p.Advances) (h : p x = .success value rest) : rest = x ∨ left rest < left x :=
  (Nat.eq_or_lt_of_le (hp h).left_le).imp_left (hp h).eq_of_left_eq_self

/-! ## Repetitions -/

theorem lt_least_of_idle [SelfSame ι] (hgo : ¬ (samePosition x x = true ∧ range.least ≤ count + 1)) :
    count + 1 < range.least :=
  Nat.lt_of_not_le fun hleast => hgo ⟨SelfSame.samePosition_self x, hleast⟩

/-- **The loop of a repetition ends**: a round leaves less or brings the count nearer to the least one. -/
theorem exists_repeatsFrom [SelfSame ι] (hp : p.Advances) (range : Repetition) (start : ι) (count : Nat) (x : ι) :
    ∃ hits misses o, p.RepeatsFrom range start count x hits misses o := by
  cases hfull : range.isFull count with
  | true => exact ⟨_, _, _, .full hfull⟩
  | false =>
    cases h : p x with
    | success value rest =>
      by_cases hstop : samePosition rest x = true ∧ range.least ≤ count + 1
      · exact ⟨_, _, _, .stalled hfull h hstop⟩
      · obtain ⟨hits, misses, o, hmore⟩ := exists_repeatsFrom hp range start (count + 1) rest
        exact ⟨_, _, _, .matched hfull h hstop hmore⟩
    | failure fault given =>
      by_cases hcount : count < range.least
      · exact ⟨_, _, _, .short hfull h hcount⟩
      · exact ⟨_, _, _, .enough hfull h hcount⟩
    | aborted why => exact ⟨_, _, _, .aborted hfull h⟩
termination_by (left x, range.least - count)
decreasing_by
  rcases hp.eq_or_left_lt h with rfl | hlt
  · have hless := lt_least_of_idle hstop
    exact Prod.Lex.right _ (by omega)
  · exact Prod.Lex.left _ _ hlt

/-- **Where the parser matches nothing, it does so up to the least count**, or once. -/
theorem RepeatsFrom.idle [SelfSame ι] (hrun : p.RepeatsFrom range start count x hits misses o)
    (h : p x = .success value x) : count + hits ≤ max range.least (count + 1) := by
  induction hrun with
  | full _ | aborted _ _ => omega
  | stalled _ _ _ | short _ _ _ | enough _ _ _ => omega
  | matched _ h' hgo _ ih =>
    rw [h] at h'
    cases h'
    have hless := lt_least_of_idle hgo
    have hcount := ih h
    omega

/-- **The matches of a repetition are no more than the least count, or one more than the symbols left**, and it fails to
match once at most. -/
theorem RepeatsFrom.bounds [SelfSame ι] (hp : p.Advances) (hrun : p.RepeatsFrom range start count x hits misses o) :
    count + hits ≤ max range.least (count + left x + 1) ∧ misses ≤ 1 := by
  induction hrun with
  | full _ | aborted _ _ => omega
  | stalled _ _ _ | short _ _ _ | enough _ _ _ => omega
  | matched hfull h hgo hmore ih =>
    rcases hp.eq_or_left_lt h with rfl | hlt
    · have hidle := (RepeatsFrom.matched hfull h hgo hmore).idle h
      omega
    · omega

/-- A run comes to what the repetition does when it is given a round for each match and one more. -/
theorem RepeatsFrom.repeatedFrom_eq (hrun : p.RepeatsFrom range start count x hits misses o) :
    ∀ (rounds : Nat), hits ≤ rounds → repeatedFrom p range start (rounds + 1) count x = o := by
  induction hrun with
  | full hfull =>
    intro rounds _
    rw [repeatedFrom, hfull, if_pos rfl]
  | stalled hfull h hstop =>
    intro rounds _
    simp [repeatedFrom, hfull, h, hstop]
  | matched hfull h hgo _ ih =>
    rintro (_ | rounds) hrounds
    · cases hrounds
    · rw [repeatedFrom, h]
      simp [hfull, hgo, ih rounds (Nat.le_of_succ_le_succ hrounds)]
  | short hfull h hcount | enough hfull h hcount =>
    intro rounds _
    simp [repeatedFrom, hfull, h, hcount]
  | aborted hfull h =>
    intro rounds _
    simp [repeatedFrom, hfull, h]

/-- **A repetition comes to what its loop comes to**: it has rounds enough. -/
theorem RepeatsFrom.repeated_eq [SelfSame ι] (hp : p.Advances) (hrun : p.RepeatsFrom range x 0 x hits misses o) :
    p.repeated range x = o := by
  have hhits := (hrun.bounds hp).1
  exact hrun.repeatedFrom_eq _ (by omega)

/-! ## Lists -/

/-- A delimiter and an element that end elsewhere leave less. -/
theorem left_lt_of_pair [SelfSame ι] (hp : p.Advances) (hd : d.Advances) {between : β} {behind : ι}
    (hbetween : d x = .success between behind) (h : p behind = .success value rest)
    (hplace : samePosition rest x = false) : left rest < left x := by
  have hreach := (hd hbetween).trans (hp h)
  refine Nat.lt_of_le_of_ne hreach.left_le fun hleft => ?_
  rw [hreach.eq_of_left_eq_self hleft, SelfSame.samePosition_self] at hplace
  cases hplace

/-- **The loop of a list ends**: the pairs it goes on behind leave less and less. -/
theorem exists_separatesFrom [SelfSame ι] (hp : p.Advances) (hd : d.Advances) (start : ι) (x : ι) :
    ∃ more o, p.SeparatesFrom d start x more o := by
  cases hbetween : d x with
  | success between behind =>
    cases h : p behind with
    | success value rest =>
      cases hplace : samePosition rest x with
      | true => exact ⟨_, _, .stalled hbetween h hplace⟩
      | false =>
        have hlt := left_lt_of_pair hp hd hbetween h hplace
        obtain ⟨more, o, hmore⟩ := exists_separatesFrom hp hd start rest
        exact ⟨_, _, .matched hbetween h hplace hmore⟩
    | failure fault given => exact ⟨_, _, .missing hbetween h⟩
    | aborted why => exact ⟨_, _, .aborted hbetween h⟩
  | failure fault given => exact ⟨_, _, .last hbetween⟩
  | aborted why => exact ⟨_, _, .stopped hbetween⟩
termination_by left x

theorem SeparatesFrom.le_left [SelfSame ι] (hp : p.Advances) (hd : d.Advances)
    (hrun : p.SeparatesFrom d start x more o) : more ≤ left x + 1 := by
  induction hrun with
  | matched hbetween h hplace _ ih =>
    have hlt := left_lt_of_pair hp hd hbetween h hplace
    omega
  | stalled _ _ _ => omega
  | last _ | missing _ _ | stopped _ | aborted _ _ => exact Nat.zero_le _

theorem SeparatesFrom.length_eq (hrun : p.SeparatesFrom d start x more o) :
    ∀ values rest, o = .success values rest → values.length = more := by
  induction hrun with
  | last _ | stalled _ _ _ =>
    rintro _ _ ⟨⟩
    rfl
  | matched _ _ _ _ ih =>
    intro values rest ho
    obtain ⟨others, hothers, rfl⟩ := Outcome.map_eq_success.1 ho
    rw [List.length_cons, ih others rest hothers]
  | missing _ _ | stopped _ | aborted _ _ => rintro _ _ ⟨⟩

/-- A run comes to what the list does when it is given a round for each element collected and one more. -/
theorem SeparatesFrom.separatedFrom_eq (hrun : p.SeparatesFrom d start x more o) :
    ∀ (rounds : Nat), more ≤ rounds → separatedFrom p d start (rounds + 1) x = o := by
  induction hrun with
  | last hbetween | stopped hbetween =>
    intro rounds _
    rw [separatedFrom, hbetween]
  | stalled hbetween h hplace =>
    intro rounds _
    simp [separatedFrom, hbetween, h, hplace]
  | matched hbetween h hplace _ ih =>
    rintro (_ | rounds) hrounds
    · cases hrounds
    · rw [separatedFrom, hbetween]
      simp [h, hplace, ih rounds (Nat.le_of_succ_le_succ hrounds)]
  | missing hbetween h | aborted hbetween h =>
    intro rounds _
    simp [separatedFrom, hbetween, h]

/-- **A list comes to what its loop behind the first element comes to**: it has rounds enough. -/
theorem SeparatesFrom.separated_eq [SelfSame ι] (hp : p.Advances) (hd : d.Advances) {first : α} {y : ι}
    (hfirst : p x = .success first y) (hrun : p.SeparatesFrom d x y more o) :
    p.separated d x = o.map (first :: ·) := by
  have hmore := hrun.le_left hp hd
  have hle := (hp hfirst).left_le
  rw [separated, hfirst, Outcome.andThen_success, hrun.separatedFrom_eq _ (by omega)]

end Parser
end Parsing
