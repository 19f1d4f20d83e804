import Parsing.Proofs.Sequences
/-!
# Unrolling — repeating is matching, and repeating what is left

The loop of `Parser.repeated` counts its matches and is given a bound on its rounds.  Neither shows: a repetition is one
match followed by the repetition that the range still allows behind it (`Parser.repeated_eq`).  The bound is large
enough wherever a cursor is at its own place, for a match either shortens what is left or takes nothing, and one that
takes nothing is only repeated up to the least count.

From this a repetition unfolds to a sequence: so many matches are nested pairs, and a range from a least count on is
that many matches and then the rest of the range, as long as every match moves on (`repetition_unfolds`).
-/
namespace Parsing

open Cursor (left Reaches TellsApart samePosition)

namespace Repetition

/-- What a range still allows behind so many matches. -/
def behind (count : Nat) (r : Repetition) : Repetition where
  least := r.least - count
  greatest? := r.greatest?.map (· - count)
  least_le := by
    intro _ hg
    obtain ⟨greatest, h, rfl⟩ := Option.map_eq_some_iff.1 hg
    exact Nat.sub_le_sub_right (r.least_le greatest h) count

/-- From a least to a greatest count. -/
def between (least greatest : Nat) (h : least ≤ greatest) : Repetition := ⟨least, some greatest, by simpa using h⟩

theorem behind_behind (j k : Nat) (r : Repetition) : (r.behind j).behind k = r.behind (j + k) := by
  simp [behind, Nat.sub_sub, Function.comp_def]

theorem isFull_behind (j k : Nat) (r : Repetition) : (r.behind j).isFull k = r.isFull (k + j) := by
  cases h : r.greatest? with
  | none => simp [behind, isFull, h]
  | some greatest => simp only [behind, isFull, h, Option.map_some, Option.any_some, Nat.sub_le_iff_le_add]

theorem isFull_eq_false {r : Repetition} {count : Nat} (h : count < r.least) : r.isFull count = false := by
  cases hg : r.greatest? with
  | none => simp [isFull, hg]
  | some greatest =>
    have := r.least_le greatest hg
    simp [isFull, hg]
    omega

end Repetition

namespace Parser

variable {ι σ κ α : Type} {p : Parser ι κ α} {parts : Parts ι α} {range : Repetition} {start x : ι}

/-! ## The loop without its bound -/

section Loop

variable [Cursor ι σ]

theorem repeatedFrom_restoring (input : ι) : ∀ (rounds count : Nat) (x : ι),
    (repeatedFrom p range start rounds count x).restoring input = repeatedFrom p range input rounds count x
  | 0, _, _ => rfl
  | rounds + 1, count, x => by
    unfold repeatedFrom
    split
    · rfl
    · cases p x with
      | success value rest =>
        dsimp only
        split
        · rfl
        · rw [Outcome.restoring_map, repeatedFrom_restoring input rounds]
      | failure fault given =>
        dsimp only
        split <;> rfl
      | aborted why => rfl

/-- **The loop after a match is the loop over what is left of the range.** -/
theorem repeatedFrom_succ : ∀ (rounds count : Nat) (x : ι),
    repeatedFrom p range start rounds (count + 1) x = repeatedFrom p (range.behind 1) start rounds count x
  | 0, _, _ => rfl
  | rounds + 1, count, x => by
    have hstop : (range.least ≤ count + 1 + 1) = ((range.behind 1).least ≤ count + 1) := by
      simp [Repetition.behind]
    have hshort : (count + 1 < range.least) = (count < (range.behind 1).least) := by
      simp only [Repetition.behind, eq_iff_iff]
      omega
    unfold repeatedFrom
    simp only [hstop, hshort, range.isFull_behind, repeatedFrom_succ rounds (count + 1)]

/-- **Where a match takes nothing, the loop repeats it up to the least count.** -/
theorem repeatedFrom_idle {value : α} (h : p x = .success value x) (hx : samePosition x x = true) :
    ∀ (missing rounds count : Nat), range.least = count + missing + 1 → missing < rounds →
      repeatedFrom p range start rounds count x = .success (List.replicate (missing + 1) value) x
  | _, 0, _, _, hrounds => absurd hrounds (Nat.not_lt_zero _)
  | 0, rounds + 1, count, hleast, _ => by
    unfold repeatedFrom
    rw [Repetition.isFull_eq_false (by omega), h]
    simp [hx, hleast]
  | missing + 1, rounds + 1, count, hleast, hrounds => by
    have ih := repeatedFrom_idle h hx missing rounds (count + 1) (by omega) (by omega)
    unfold repeatedFrom
    rw [Repetition.isFull_eq_false (by omega), h]
    simp [hleast, ih, List.replicate_succ]

/-- **Where a match takes nothing and its place does not show it, the loop is endless.** -/
theorem repeatedFrom_endless {value : α} (h : p x = .success value x) (hx : samePosition x x = false)
    (hrange : range.greatest? = none) : ∀ (rounds count : Nat),
      repeatedFrom p range start rounds count x = .aborted .endless
  | 0, _ => rfl
  | rounds + 1, count => by
    have ih := repeatedFrom_endless h hx hrange rounds (count + 1)
    unfold repeatedFrom
    simp [h, hx, Repetition.isFull, hrange, ih]

/-- **Two bounds that are both large enough lead to one outcome**: where a cursor is not at its own place, they need an
open range to do so. -/
theorem repeatedFrom_congr (hp : p.Orderly parts) : ∀ (rounds rounds' count : Nat) {x : ι},
    (∀ y, Reaches x y → samePosition y y = true ∨ range.greatest? = none) → left x < rounds → left x < rounds' →
      range.least < count + rounds → range.least < count + rounds' →
        repeatedFrom p range start rounds count x = repeatedFrom p range start rounds' count x
  | 0, _, _, _, _, h, _, _, _ => absurd h (Nat.not_lt_zero _)
  | _, 0, _, _, _, _, h, _, _ => absurd h (Nat.not_lt_zero _)
  | rounds + 1, rounds' + 1, count, x, hself, hl, hl', hr, hr' => by
    have ho := hp x
    unfold repeatedFrom
    split
    · rfl
    · cases h : p x with
      | success value rest =>
        rw [h] at ho
        have hle := ho.1.left_le
        dsimp only
        split
        · rfl
        · rename_i hgo
          by_cases hlt : left rest < left x
          · rw [repeatedFrom_congr hp rounds rounds' (count + 1) (fun y hy => hself y (ho.1.trans hy)) (by omega)
              (by omega) (by omega) (by omega)]
          · obtain rfl : rest = x := ho.1.eq_of_left_eq_self (by omega)
            cases hplace : samePosition rest rest with
            | true =>
              -- The match took nothing, so the loop goes on only because the count is short.
              have hshort : count + 1 < range.least := by simpa [hplace] using hgo
              obtain ⟨missing, hmissing⟩ := Nat.exists_eq_add_of_lt hshort
              rw [repeatedFrom_idle h hplace missing rounds (count + 1) hmissing (by omega),
                repeatedFrom_idle h hplace missing rounds' (count + 1) hmissing (by omega)]
            | false =>
              have hrange := (hself rest (Reaches.refl rest)).resolve_left (by simp [hplace])
              rw [repeatedFrom_endless h hplace hrange, repeatedFrom_endless h hplace hrange]
      | failure fault input => rfl
      | aborted why => rfl

/-- **A repetition is a match, and the repetition that the range allows behind it.** -/
theorem repeated_eq (hp : p.Orderly parts) (range : Repetition) (hself : ∀ y, Reaches x y → samePosition y y = true) :
    p.repeated range x =
      if range.isFull 0 then .success [] x
      else match p x with
        | .success value rest =>
          if samePosition rest x && range.least ≤ 1 then .success [value] rest
          else ((p.repeated (range.behind 1) rest).restoring x).map (value :: ·)
        | .failure fault _ => if 0 < range.least then .failure fault x else .success [] x
        | .aborted why => .aborted why := by
  have ho := hp x
  unfold repeated
  rw [repeatedFrom]
  split
  · rfl
  · cases h : p x with
    | success value rest =>
      rw [h] at ho
      have hle := ho.1.left_le
      dsimp only
      have hleast : (range.behind 1).least = range.least - 1 := rfl
      have hrest : repeatedFrom p (range.behind 1) x (max range.least (left x + 1)) 0 rest =
          repeatedFrom p (range.behind 1) x (max (range.behind 1).least (left rest + 1) + 1) 0 rest :=
        repeatedFrom_congr hp _ _ 0 (fun y hy => .inl (hself y (ho.1.trans hy))) (by omega) (by omega) (by omega)
          (by omega)
      rw [repeatedFrom_succ, repeatedFrom_restoring, hrest]
    | failure fault input => rfl
    | aborted why => rfl

end Loop

/-! ## So many matches in succession -/

/-- So many matches one after the other: nested pairs, their values put in a list. -/
def inSuccession (p : Parser ι κ α) : Nat → Parser ι κ (List α)
  | 0 => yielding []
  | count + 1 => (p.andThen (p.inSuccession count)).map fun (first, more) => first :: more

theorem inSuccession_succ_of_success {value : α} {rest : ι} (h : p x = .success value rest) (count : Nat) :
    p.inSuccession (count + 1) x = ((p.inSuccession count rest).restoring x).map (value :: ·) := by
  change ((p x).andThen fun first rest => ((p.inSuccession count rest).restoring x).map (first, ·)).map _ = _
  rw [h, Outcome.andThen_success, Outcome.map_map]

theorem inSuccession_succ_of_failure {fault : Fault κ ι} {given : ι} (h : p x = .failure fault given) (count : Nat) :
    p.inSuccession (count + 1) x = .failure fault given := by
  change ((p x).andThen _).map _ = _
  rw [h, Outcome.andThen_failure, Outcome.map_failure]

theorem inSuccession_succ_of_aborted {why : Abort} (h : p x = .aborted why) (count : Nat) :
    p.inSuccession (count + 1) x = .aborted why := by
  change ((p x).andThen _).map _ = _
  rw [h, Outcome.andThen_aborted, Outcome.map_aborted]

variable [Cursor ι σ]

theorem Orderly.inSuccession (hp : p.Orderly parts) : ∀ (count : Nat), (p.inSuccession count).Orderly Parts.none
  | 0 => orderly_yielding fun _ => id
  | count + 1 => (hp.andThen (Orderly.inSuccession hp count)).map fun _ _ => False.elim

/-- **The loop over a range of one count is so many matches**, whether or not they take anything. -/
theorem repeatedFrom_times : ∀ (missing rounds count : Nat) (x : ι), missing < rounds →
    repeatedFrom p (.times (count + missing)) start rounds count x = (p.inSuccession missing x).restoring start
  | _, 0, _, _, h => absurd h (Nat.not_lt_zero _)
  | 0, rounds + 1, count, x, _ => by
    have hfull : (Repetition.times count).isFull count = true := by simp [Repetition.isFull, Repetition.times]
    unfold repeatedFrom
    rw [Nat.add_zero, if_pos hfull]
    rfl
  | missing + 1, rounds + 1, count, x, h => by
    have hshort : count < (Repetition.times (count + (missing + 1))).least := by
      simp only [Repetition.times]
      omega
    unfold repeatedFrom
    rw [Repetition.isFull_eq_false hshort, if_neg Bool.false_ne_true]
    cases ho : p x with
    | success value rest =>
      rw [inSuccession_succ_of_success ho]
      dsimp only
      split
      · -- The least count is met behind this match, so there is none missing.
        rename_i hstop
        obtain rfl : missing = 0 := by
          simp [Repetition.times] at hstop
          omega
        rfl
      · have ih := repeatedFrom_times missing rounds (count + 1) rest (by omega)
        rw [Nat.add_right_comm count 1 missing] at ih
        rw [← Nat.add_assoc, ih, Outcome.restoring_map, Outcome.restoring_restoring]
    | failure fault given => simp [inSuccession_succ_of_failure ho, hshort]
    | aborted why => simp [inSuccession_succ_of_aborted ho]

theorem repeated_times (hp : p.Orderly parts) (count : Nat) (x : ι) :
    p.repeated (.times count) x = p.inSuccession count x := by
  have hrounds : count < max (Repetition.times count).least (left x + 1) + 1 :=
    Nat.lt_succ_of_le (Nat.le_max_left ..)
  have h : repeatedFrom p _ x _ 0 x = _ := repeatedFrom_times count _ 0 x hrounds
  rw [Nat.zero_add] at h
  exact h.trans (hp.inSuccession count x).restoring_eq

omit [Cursor ι σ] in
/-- Matches `p` and then `q`, and puts their lists together. -/
def joined (p q : Parser ι κ (List α)) : Parser ι κ (List α) := (p.andThen q).map fun (first, more) => first ++ more

omit [Cursor ι σ] in
theorem joined_eq (q r : Parser ι κ (List α)) (x : ι) :
    q.joined r x = (q x).andThen fun first rest => ((r rest).restoring x).map (first ++ ·) := by
  change ((q x).andThen fun first rest => ((r rest).restoring x).map (first, ·)).map _ = _
  rw [Outcome.map_andThen]
  simp only [Outcome.map_map]

omit [Cursor ι σ] in
theorem joined_inSuccession_succ {value : α} {rest : ι} (h : p x = .success value rest) (count : Nat)
    (q : Parser ι κ (List α)) : (p.inSuccession (count + 1)).joined q x =
      (((p.inSuccession count).joined q rest).restoring x).map (value :: ·) := by
  rw [joined_eq, joined_eq, inSuccession_succ_of_success h, Outcome.andThen_map, Outcome.restoring_andThen,
    Outcome.map_andThen]
  simp only [Outcome.restoring_map, Outcome.restoring_restoring, Outcome.map_map, List.cons_append]

/-- **A range can be split at its least count**, where every match moves on. -/
theorem repeated_split (hp : p.Orderly parts) (hprogress : p.Progresses) : ∀ (least : Nat) {range : Repetition} {x : ι},
    TellsApart x → range.least = least →
      p.repeated range x = (p.inSuccession least).joined (p.repeated (range.behind least)) x
  | 0, range, x, _, _ => by
    have hrange : range.behind 0 = range := by simp [Repetition.behind]
    rw [joined_eq, hrange]
    change _ = ((p.repeated range x).restoring x).map _
    rw [(hp.repeated range x).restoring_eq]
    exact (Outcome.map_id _).symm
  | least + 1, range, x, hx, hleast => by
    have ho := hp x
    rw [repeated_eq hp range hx.samePosition_self, Repetition.isFull_eq_false (by omega), if_neg Bool.false_ne_true]
    cases h : p x with
    | success value rest =>
      rw [h] at ho
      have hbehind : (range.behind 1).least = least := by simp [Repetition.behind, hleast]
      have ih := repeated_split hp hprogress least (hx.of_reaches ho.1) hbehind
      rw [Repetition.behind_behind, Nat.add_comm 1 least] at ih
      dsimp only
      rw [hx.not_samePosition ho.1 (hprogress h), Bool.false_and, if_neg Bool.false_ne_true, ih,
        joined_inSuccession_succ h]
    | failure fault given =>
      rw [h] at ho
      rw [joined_eq, inSuccession_succ_of_failure h, ho.1]
      exact if_pos (by omega)
    | aborted why =>
      rw [joined_eq, inSuccession_succ_of_aborted h]
      rfl

end Parser

namespace Grammar

variable {ι σ κ ζ : Type} [DecidableEq σ] [Symbol σ] [Cursor ι σ] [Cause κ] [Seed ζ κ]
  {call : String → Parser ι κ (Value (Stretch ι))}

theorem inTurn_replicate (p : Grammar σ ζ) (start : ι) : ∀ (count : Nat) (x : ι),
    inTurn call start (List.replicate count p) x = ((p.run call).inSuccession count x).restoring start
  | 0, _ => rfl
  | count + 1, x => by
    rw [List.replicate_succ, inTurn]
    cases h : p.run call x with
    | success value rest =>
      rw [Parser.inSuccession_succ_of_success h, Outcome.restoring_map, Outcome.restoring_restoring,
        ← inTurn_replicate p start count rest]
      rfl
    | failure fault given => rw [Parser.inSuccession_succ_of_failure h]; rfl
    | aborted why => rw [Parser.inSuccession_succ_of_aborted h]; rfl

/-- **A sequence of one grammar, so many times, is so many matches of its parser.** -/
theorem run_sequence_replicate (hcall : ∀ name, (call name).Composed Value.parts) (p : Grammar σ ζ) (count : Nat)
    (x : ι) : (sequence (List.replicate count p)).run call x = ((p.run call).inSuccession count x).map .tuple := by
  cases count with
  | zero =>
    rw [List.replicate_zero, sequence, balance]
    rfl
  | succ count =>
    have horderly := (composed_run hcall p).orderly.inSuccession (count + 1)
    rw [sequence_eq_inTurn hcall (by simp), inTurn_replicate, (horderly x).restoring_eq]

end Grammar

/-- **Repetition unfolds to sequence.**  Repeating just so many times is the nested pairs of so many matches, and the
sequence of so many copies of a grammar, even where matches take nothing.  Where every match takes something, repeating
from a least count on is repeating just so many times, then as often as the range still allows, and the lists put
together. -/
theorem repetition_unfolds :
    (∀ {ι σ κ α : Type} [Cursor ι σ] {parts : Parts ι α} {p : Parser ι κ α}, p.Composed parts →
      ∀ (count : Nat) (x : ι), p.repeated (.times count) x = p.inSuccession count x) ∧
    (∀ {ι σ κ ζ : Type} [DecidableEq σ] [Symbol σ] [Cursor ι σ] [Cause κ] [Seed ζ κ]
      {call : String → Parser ι κ (Value (Stretch ι))}, (∀ name, (call name).Composed Value.parts) →
        ∀ (p : Grammar σ ζ) (count : Nat) (x : ι), ((p.run call).repeated (.times count) x).map .tuple =
          (Grammar.sequence (List.replicate count p)).run call x) ∧
    ∀ {ι σ κ α : Type} [Cursor ι σ] {parts : Parts ι α} {p : Parser ι κ α}, p.Composed parts → p.Progresses →
      ∀ {x : ι}, TellsApart x →
        (∀ (least greatest : Nat) (h : least ≤ greatest), p.repeated (.between least greatest h) x =
          (p.repeated (.times least)).joined (p.repeated (.atMost (greatest - least))) x) ∧
        ∀ least : Nat, p.repeated (.atLeast least) x = (p.repeated (.times least)).joined (p.repeated .any) x := by
  refine ⟨fun hp => Parser.repeated_times hp.orderly, fun {_ _ _ _ _ _ _ _ _ call} hcall p count x => ?_,
    fun {_ _ _ _ _ _ p} hp hprogress x hx => ?_⟩
  · rw [Parser.repeated_times (Grammar.composed_run hcall p).orderly, Grammar.run_sequence_replicate hcall]
  · have htimes (count : Nat) : p.inSuccession count = p.repeated (.times count) :=
      funext fun y => (Parser.repeated_times hp.orderly count y).symm
    constructor
    · intro least greatest h
      have hbehind : (Repetition.between least greatest h).behind least = .atMost (greatest - least) := by
        simp [Repetition.behind, Repetition.between, Repetition.atMost]
      rw [Parser.repeated_split hp.orderly hprogress least hx rfl, hbehind, htimes]
    · intro least
      have hbehind : (Repetition.atLeast least).behind least = .any := by
        simp [Repetition.behind, Repetition.atLeast, Repetition.any]
      rw [Parser.repeated_split hp.orderly hprogress least hx rfl, hbehind, htimes]

/-- Signs that may be missing, three times over, and two or three letters. -/
theorem repetition_unfolds_of_signs_and_letters :
    let sign : Parser Text TextCause (Option Char) := (Parser.character '-').optional
    let letter : Parser Text TextCause Char := .satisfying Char.isAlpha
    let word : Text := Text.ofString "abcd"
    sign.repeated (.times 3) (Text.ofString "-a") = .success [some '-', none, none] ⟨1, ['a']⟩ ∧
      letter.repeated (.between 2 3 (by decide)) word = .success ['a', 'b', 'c'] ⟨3, ['d']⟩ ∧
      letter.repeated (.atLeast 2) word = .success ['a', 'b', 'c', 'd'] ⟨4, []⟩ := by
  intro sign letter word
  have hsign : sign.Composed Parts.none.found := (Parser.composed_character '-').optional
  have hletter : letter.Composed Parts.none := .satisfying Char.isAlpha
  have hword := repetition_unfolds.2.2 hletter (Parser.progresses_satisfying _) (Cursor.Distinct.tellsApart word)
  exact ⟨(repetition_unfolds.1 hsign 3 _).trans rfl, (hword.1 2 3 (by decide)).trans rfl, (hword.2 2).trans rfl⟩

end Parsing
