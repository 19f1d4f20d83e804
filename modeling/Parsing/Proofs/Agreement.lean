import Mathlib.Logic.Function.Iterate
import Parsing.Proofs.Distinct
/-!
# Agreement — all that a cursor tells follows from stepping it

A cursor steps, skips, compares places, knows whether it stands at the end and perhaps how many symbols are left.  A
type may define each of these by itself; a wrapper delegates some to the cursor in it and leaves others to stepping.
Here they are shown to agree for every tower of wrappers: whatever is asked, the answer is the one that stepping gives
(`operations_agree`).

What a cursor says without moving is true when it is so at the cursor and wherever stepping leads (`Cursor.Truthful`);
each wrapper keeps this.  A stretch does so only with its stop ahead of its start, for it subtracts the one from the
other.
-/
namespace Parsing

open Cursor (after left next symbols Reaches Distinct)

namespace Cursor

variable {ι σ : Type} [Cursor ι σ]

/-- One step on; at the end, none. -/
def step (x : ι) : ι := (next x).elim x (·.2)

theorem after_eq_iterate : ∀ (count : Nat) (x : ι), after count x = step^[count] x
  | 0, _ => rfl
  | count + 1, x => by
    rw [Function.iterate_succ_apply, ← after_eq_iterate count]
    cases h : next x with
    | none => rw [step, h, Option.elim_none, after_of_none h, after_of_none h]
    | some s => rw [step, h, Option.elim_some, after_succ_of_some h]

/-- **Stepping comes to the end after as many steps as there are symbols left.** -/
theorem next_after_eq_none_iff (count : Nat) (x : ι) : next (after count x) = none ↔ left x ≤ count := by
  rw [next_eq_none_iff, ← List.length_eq_zero_iff]
  change left (after count x) = 0 ↔ _
  rw [left_after]
  omega

theorem after_min (count : Nat) (x : ι) : after (min count (left x)) x = after count x := by
  rcases Nat.le_total count (left x) with h | h
  · rw [Nat.min_eq_left h]
  · rw [Nat.min_eq_right h, after_eq_after_left count x h]

/-! ## Skipping -/

theorem fst_advanceBySteps : ∀ (count : Nat) (x : ι), (advanceBySteps next count x).1 = min count (left x)
  | 0, x => (Nat.zero_min _).symm
  | count + 1, x => by
    rw [advanceBySteps]
    cases h : next x with
    | none =>
      rw [left, symbols_of_next_eq_none h]
      exact (Nat.min_zero _).symm
    | some s =>
      have hl := left_of_next_eq_some h
      dsimp only
      rw [fst_advanceBySteps count s.2]
      omega

/-- **Skipping by steps says how many there were.** -/
theorem advanceBySteps_eq (count : Nat) (x : ι) :
    advanceBySteps next count x = (min count (left x), after count x) :=
  Prod.ext (fst_advanceBySteps count x) rfl

/-- Skips one after the other are one skip, where each does what as many steps do. -/
theorem advance_advance (hadvance : ∀ (count : Nat) (y : ι), advance count y = (min count (left y), after count y))
    (m n : Nat) (x : ι) :
    ((advance m x).1 + (advance n (advance m x).2).1, (advance n (advance m x).2).2) = advance (m + n) x := by
  rw [hadvance m, hadvance n, hadvance (m + n), after_add, left_after]
  congr 1
  omega

end Cursor

/-- **A slice skips at once what stepping skips.** -/
theorem Slice.advance_eq {σ : Type} [Width σ] (count : Nat) (x : Slice σ) :
    Cursor.advance count x = (min count (left x), after count x) := by
  have hindex := index_after (min count (left x)) x (Nat.min_le_right _ _)
  have hrest : (after (min count (left x)) x).rest = x.rest.drop (min count (left x)) := Cursor.symbols_after _ x
  have hskip : min x.rest.length count = min count (left x) := Nat.min_comm _ _
  change (_, (⟨x.index + min x.rest.length count, x.rest.drop (min x.rest.length count)⟩ : Slice σ)) = _
  rw [hskip, ← hindex, ← hrest, ← Cursor.after_min count x]

/-! ## What a cursor says without moving -/

namespace Cursor

/-- A cursor that says of itself what stepping shows, there and wherever stepping leads: whether it is the end, how many
symbols are left if it knows that at all, and whether it is at the place of another. -/
structure Truthful {ι σ : Type} [Cursor ι σ] (x : ι) : Prop where
  isEmpty_iff : ∀ {y}, Reaches x y → (isEmpty y = true ↔ left y = 0)
  size?_eq : (∀ {y}, Reaches x y → size? y = none) ∨ ∀ {y}, Reaches x y → size? y = some (left y)
  samePosition_iff : ∀ {y z}, Reaches x y → Reaches x z → (samePosition y z = true ↔ left y = left z)

/-- A type of cursors that defines no more than `next` and `samePosition`, and tells places apart. -/
class Plain (ι : Type) {σ : Type} [Cursor ι σ] : Prop extends Distinct ι where
  advance_eq : ∀ (count : Nat) (x : ι), advance count x = advanceBySteps next count x
  isEmpty_eq : ∀ x : ι, isEmpty x = (next x).isNone
  size?_eq : ∀ x : ι, size? x = none

theorem Plain.truthful {ι σ : Type} [Cursor ι σ] [Plain ι] (x : ι) : Truthful x where
  isEmpty_iff := by
    intro y _
    rw [Plain.isEmpty_eq, Option.isNone_iff_eq_none, next_eq_none_iff, left, List.length_eq_zero_iff]
  size?_eq := Or.inl fun _ => Plain.size?_eq _
  samePosition_iff := samePosition_iff_left_eq

end Cursor

open Cursor (Truthful)

theorem Text.truthful (x : Text) : Truthful x where
  isEmpty_iff := fun _ => List.isEmpty_iff_length_eq_zero
  size?_eq := Or.inl fun _ => rfl
  samePosition_iff := Cursor.samePosition_iff_left_eq

theorem Slice.truthful {σ : Type} [Width σ] [Width.Positive σ] (x : Slice σ) : Truthful x where
  isEmpty_iff := fun _ => List.isEmpty_iff_length_eq_zero
  size?_eq := Or.inr fun _ => rfl
  samePosition_iff := Cursor.samePosition_iff_left_eq

namespace Indexed

variable {σ : Type}

theorem index_after : ∀ (count : Nat) (x : Indexed σ), count ≤ left x → (after count x).index = x.index + count
  | 0, _, _ => rfl
  | count + 1, x, h => by
    have hlt : x.index < x.items.length := by
      rw [left, symbols_eq_drop, List.length_drop] at h
      omega
    have hn : Cursor.next x = some (x.items[x.index], { x with index := x.index + 1 }) := by
      change Indexed.next x = _
      rw [Indexed.next, List.getElem?_eq_getElem hlt, Option.map_some]
    have hl := Cursor.left_of_next_eq_some hn
    rw [Cursor.after_succ_of_some hn, index_after count _ (by omega)]
    dsimp only
    omega

/-- **Indexed cursors tell places apart**: the index grows with every step. -/
instance : Distinct (Indexed σ) := Cursor.distinct_of_ahead Cursor.SelfSame.samePosition_self (by
  rintro y _ ⟨count, hle, rfl⟩ h
  have hindex : y.index = (after count y).index := by
    rcases h with h | h
    · exact beq_iff_eq.1 h
    · exact (beq_iff_eq.1 h).symm
  rw [index_after count y hle] at hindex
  have hzero : count = 0 := by omega
  rw [hzero, Cursor.after_zero])

instance : Cursor.Plain (Indexed σ) where
  advance_eq _ _ := rfl
  isEmpty_eq _ := rfl
  size?_eq _ := rfl

end Indexed

/-- **Counting lines and columns keeps a cursor truthful.** -/
theorem Located.truthful {ι : Type} [Cursor ι Char] {x : Located ι} (h : Truthful x.inner) : Truthful x where
  isEmpty_iff := fun hy => h.isEmpty_iff (reaches_inner hy)
  size?_eq := h.size?_eq.imp (fun hnone _ hy => hnone (reaches_inner hy)) fun hsome _ hy => hsome (reaches_inner hy)
  samePosition_iff := fun hy hz => h.samePosition_iff (reaches_inner hy) (reaches_inner hz)

/-- **A stretch with its stop ahead is as truthful as its start.** -/
theorem Stretch.truthful {ι σ : Type} [Cursor ι σ] [Distinct ι] {a b : ι} (h : Truthful a) (hab : Reaches a b) :
    Truthful (⟨a, b⟩ : Stretch ι) where
  isEmpty_iff := by
    intro s hs
    obtain ⟨hstop, hstart, hahead⟩ := within_of_reaches hs hab
    rw [← hstop] at hahead
    have hplace : Cursor.isEmpty s = true ↔ left s.start = left s.stop :=
      Cursor.samePosition_iff_left_eq (Reaches.refl s.start) hahead
    have hleft : left s = left s.start - left s.stop := left_eq_sub hahead
    have hle := hahead.left_le
    rw [hplace]
    omega
  size?_eq := by
    refine h.size?_eq.imp (fun hnone s hs => ?_) fun hsome s hs => ?_
    · change Stretch.size? s = none
      rw [Stretch.size?, hnone (within_of_reaches hs hab).2.1]
    · obtain ⟨hstop, hstart, hahead⟩ := within_of_reaches hs hab
      have hleft : left s = left s.start - left s.stop := left_eq_sub (hstop ▸ hahead)
      change Stretch.size? s = some (left s)
      rw [Stretch.size?, hsome hstart, hsome (hstop ▸ hab), hleft]
      exact if_pos (hstop ▸ hahead.left_le)
  samePosition_iff := Cursor.samePosition_iff_left_eq

/-! ## Towers -/

/-- Cursors over a text, over a block of elements that take room or of a plain type, wrapped any number of times: to
count lines and columns, or to stop at a cursor ahead. -/
inductive Cursor.Tower : {ι σ : Type} → [Cursor ι σ] → ι → Prop
  | text (x : Text) : Tower x
  | slice {σ : Type} [Width σ] [Width.Positive σ] (x : Slice σ) : Tower x
  | plain {ι σ : Type} [Cursor ι σ] [Plain ι] (x : ι) : Tower x
  | located {ι : Type} [Cursor ι Char] {x : ι} (hx : Tower x) (line column : Nat) :
      Tower (⟨x, line, column⟩ : Located ι)
  | stretch {ι σ : Type} [Cursor ι σ] {a b : ι} (ha : Tower a) (hab : Reaches a b) : Tower (⟨a, b⟩ : Stretch ι)

namespace Cursor.Tower

variable {ι σ : Type} [Cursor ι σ] {x : ι}

theorem distinct (h : Tower x) : Distinct ι := by
  induction h with
  | text x => infer_instance
  | slice x => infer_instance
  | plain x => infer_instance
  | located _ line column ih => infer_instance
  | stretch _ hab ih => infer_instance

/-- **Every tower is truthful**: its base is, and each wrapper keeps it so. -/
theorem truthful (h : Tower x) : Truthful x := by
  induction h with
  | text x => exact x.truthful
  | slice x => exact x.truthful
  | plain x => exact Plain.truthful x
  | located _ line column ih => exact Located.truthful ih
  | stretch ha hab ih =>
    have hdistinct := ha.distinct
    exact Stretch.truthful ih hab

/-- **Towers skip what stepping skips.**  All but the slices leave it to stepping, wrapped slices too. -/
theorem advance_eq (h : Tower x) (count : Nat) (y : ι) : advance count y = (min count (left y), after count y) := by
  cases h with
  | text => exact advanceBySteps_eq count y
  | slice => exact y.advance_eq count
  | plain => rw [Plain.advance_eq, advanceBySteps_eq]
  | located => exact advanceBySteps_eq count y
  | stretch => exact advanceBySteps_eq count y

end Cursor.Tower

/-! ## Equality -/

/-- Types of cursors with the equality of this library: texts and slices are equal when the same is left of them, and
wrappers compare what they wrap and what they add.  Elements have to be equal to themselves. -/
inductive Cursor.Comparable : (ι : Type) → {σ : Type} → [Cursor ι σ] → [BEq ι] → Prop
  | text : Comparable Text
  | slice {σ : Type} [Width σ] [Width.Positive σ] [BEq σ] [ReflBEq σ] : Comparable (Slice σ)
  | located {ι : Type} [Cursor ι Char] [BEq ι] (h : Comparable ι) : Comparable (Located ι)
  | stretch {ι σ : Type} [Cursor ι σ] [BEq ι] (h : Comparable ι) : Comparable (Stretch ι)

/-- **Cursors ahead of one cursor are equal exactly when as much is left at both.**  Contents alone would be equal at
many places; ahead of one cursor their length tells the places apart. -/
theorem Cursor.Comparable.beq_iff {ι σ : Type} [Cursor ι σ] [BEq ι] (h : Comparable ι) :
    ∀ {x y z : ι}, Reaches x y → Reaches x z → ((y == z) = true ↔ left y = left z) := by
  induction h with
  | text =>
    intro x y z hy hz
    rw [Text.beq_iff]
    exact ⟨congrArg List.length, fun hl => congrArg Text.rest (hy.eq_of_left_eq hz hl)⟩
  | slice =>
    intro x y z hy hz
    change (y.rest == z.rest) = true ↔ _
    refine ⟨List.length_eq_of_beq, fun hl => ?_⟩
    rw [hy.eq_of_left_eq hz hl]
    exact BEq.rfl
  | located _ ih =>
    intro x y z hy hz
    have hinner := ih (Located.reaches_inner hy) (Located.reaches_inner hz)
    change (y.inner == z.inner && y.line == z.line && y.column == z.column) = true ↔ _
    rw [Bool.and_eq_true, Bool.and_eq_true, hinner]
    refine ⟨fun hall => hall.1.1, fun hl => ?_⟩
    rw [hy.eq_of_left_eq hz hl]
    exact ⟨⟨rfl, BEq.rfl⟩, BEq.rfl⟩
  | stretch _ ih =>
    intro s t u ht hu
    obtain ⟨htstop, htstart⟩ := Stretch.start_of_reaches ht
    obtain ⟨hustop, hustart⟩ := Stretch.start_of_reaches hu
    have hstop : (s.stop == s.stop) = true := (ih (Reaches.refl _) (Reaches.refl _)).2 rfl
    have hstart := ih htstart hustart
    change (t.start == u.start && t.stop == u.stop) = true ↔ _
    rw [Bool.and_eq_true, htstop, hustop, hstart]
    constructor
    · rintro ⟨hl, -⟩
      -- Equal starts, so equal stretches: the stops are those of the common origin.
      have heq : t = u := by
        obtain ⟨a, b⟩ := t
        obtain ⟨c, d⟩ := u
        dsimp only at htstop hustop htstart hustart hl
        rw [htstop, hustop, htstart.eq_of_left_eq hustart hl]
      rw [heq]
    · intro hl
      rw [ht.eq_of_left_eq hu hl]
      exact ⟨rfl, hstop⟩

end Parsing
