import Parsing.Proofs.Recognized
/-!
# Lengths — counting the elements of a slice, and stepping through them

The length of a stretch over a slice is a difference of sizes, and so is the cut that makes a list of it.  Stepping, and
asking whether the stretch is empty, go by places instead, and a place is an address.  Where elements take room all of
these count the same.  Elements without width all lie at one address: a stretch over them shows nothing and says that it
is empty, however many there are.

Main statement: `stretch_counts_iff`.
-/
namespace Parsing

open Cursor (Reaches after left symbols)

variable {σ : Type} [Width σ] {a b : Slice σ}

/-- All that a stretch over a slice tells of its extent tells that there are so many elements. -/
structure Stretch.Counts (s : Stretch (Slice σ)) (count : Nat) : Prop where
  length_eq : s.length = count
  symbols_eq : (Cursor.symbols s).length = count
  elements_eq : ∃ elements, s.elements? = some elements ∧ elements.length = count
  isEmpty_iff : s.isEmpty = true ↔ count = 0

namespace Slice

/-! ## By subtraction -/

/-- **Sizes are subtracted whatever the elements are.** -/
theorem length_stretch (h : Reaches a b) : (⟨a, b⟩ : Stretch (Slice σ)).length = left a - left b := by
  have hsize : (⟨a, b⟩ : Stretch (Slice σ)).size? = some (left a - left b) := if_pos h.left_le
  rw [Stretch.length, hsize, Option.getD_some]

/-- **What is cut out is what was stepped over**, whatever the elements are. -/
theorem elements?_stretch (h : Reaches a b) :
    (⟨a, b⟩ : Stretch (Slice σ)).elements? = some ((symbols a).take (left a - left b)) :=
  if_pos h.left_le

theorem length_take_symbols (a b : Slice σ) : ((symbols a).take (left a - left b)).length = left a - left b := by
  rw [List.length_take, ← left]
  exact Nat.min_eq_left (Nat.sub_le _ _)

/-! ## By places -/

theorem counts_of_positive [Width.Positive σ] (h : Reaches a b) :
    (⟨a, b⟩ : Stretch (Slice σ)).Counts (left a - left b) where
  length_eq := length_stretch h
  symbols_eq := Stretch.left_eq_sub h
  elements_eq := ⟨_, elements?_stretch h, length_take_symbols a b⟩
  isEmpty_iff := by
    have hle := h.left_le
    rw [Stretch.isEmpty_iff h]
    constructor
    · rintro rfl
      exact Nat.sub_self _
    · intro hzero
      exact h.eq_of_left_eq_self (by omega)

/-- **Elements without width are not stepped through**: the stop is at the place of the start. -/
theorem nothing_of_bytes_eq_zero (hwidth : Width.bytes σ = 0) (a b : Slice σ) :
    symbols (⟨a, b⟩ : Stretch (Slice σ)) = [] ∧ (⟨a, b⟩ : Stretch (Slice σ)).isEmpty = true := by
  have hplace := samePosition_of_bytes_eq_zero hwidth a b
  exact ⟨Cursor.symbols_of_next_eq_none (Stretch.next_eq_none_of_samePosition hplace), hplace⟩

/-- **All counts agree if and only if elements take room or there are none.** -/
theorem counts_iff (h : Reaches a b) :
    (⟨a, b⟩ : Stretch (Slice σ)).Counts (left a - left b) ↔ Width.bytes σ ≠ 0 ∨ left a - left b = 0 := by
  by_cases hwidth : Width.bytes σ = 0
  · obtain ⟨hsymbols, hempty⟩ := nothing_of_bytes_eq_zero hwidth a b
    constructor
    · exact fun hcounts => .inr (hcounts.isEmpty_iff.1 hempty)
    · intro hroom
      have hzero := hroom.resolve_left (not_not_intro hwidth)
      refine ⟨length_stretch h, ?_, ⟨_, elements?_stretch h, length_take_symbols a b⟩, ?_⟩
      · rw [hsymbols, hzero, List.length_nil]
      · exact ⟨fun _ => hzero, fun _ => hempty⟩
  · have : Width.Positive σ := ⟨Nat.pos_of_ne_zero hwidth⟩
    exact ⟨fun _ => .inl hwidth, fun _ => counts_of_positive h⟩

end Slice

/-- **Length and contents of a stretch over a slice agree if and only if elements take room or there are none.**  Of two
cursors that come from one start, the second no earlier than the first, the length is the number of elements advanced
over, and so is that of the list cut out, which holds just these.  Elements without width are neither stepped through
nor noticed. -/
theorem stretch_counts_iff (x : Slice σ) (ha : Reaches x a) (hb : Reaches x b) (hab : left b ≤ left a) :
    let s : Stretch (Slice σ) := ⟨a, b⟩
    let count := left a - left b
    b = after count a ∧ s.length = count ∧ s.elements? = some ((symbols a).take count) ∧
      ((symbols a).take count).length = count ∧
      (s.Counts count ↔ Width.bytes σ ≠ 0 ∨ count = 0) ∧
      (Width.bytes σ = 0 → symbols s = [] ∧ s.isEmpty = true) := by
  intro s count
  have h : Reaches a b := ha.of_left_le hb hab
  have hafter : b = after count a := by
    refine h.eq_of_left_eq (Cursor.reaches_after _ a) ?_
    rw [Cursor.left_after]
    omega
  exact ⟨hafter, Slice.length_stretch h, Slice.elements?_stretch h, Slice.length_take_symbols a b, Slice.counts_iff h,
    fun hwidth => Slice.nothing_of_bytes_eq_zero hwidth a b⟩

theorem stretch_counts_iff_of_bytes :
    let x : Slice UInt8 := .ofList [1, 2, 3, 4]
    let s : Stretch (Slice UInt8) := ⟨after 1 x, after 3 x⟩
    Reaches x s.start ∧ Reaches x s.stop ∧ left s.stop ≤ left s.start ∧ Width.bytes UInt8 ≠ 0 ∧ s.Counts 2 := by
  intro x s
  have ha : Reaches x s.start := Cursor.reaches_after 1 x
  have hb : Reaches x s.stop := Cursor.reaches_after 3 x
  have hle : left s.stop ≤ left s.start := by decide
  have hwidth : Width.bytes UInt8 ≠ 0 := by decide
  exact ⟨ha, hb, hle, hwidth, (stretch_counts_iff x ha hb hle).2.2.2.2.1.2 (.inl hwidth)⟩

/-- Two of three elements without width: the length counts them, stepping does not come to any. -/
theorem units_counted_but_not_stepped_through :
    let x : Slice Unit := .ofList [(), (), ()]
    let s : Stretch (Slice Unit) := ⟨x, after 2 x⟩
    s.length = 2 ∧ s.elements? = some [(), ()] ∧ symbols s = [] ∧ s.isEmpty = true ∧ ¬ s.Counts 2 :=
  ⟨rfl, rfl, rfl, rfl, fun h => absurd h.symbols_eq (by decide)⟩

end Parsing
