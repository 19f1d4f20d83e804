import Parsing.Proofs.Reach
/-!
# Coordinates — line and column as functions of the offset

A located cursor updates its line and its column step by step, with one character of lookahead.  Here both are read off
the whole text: the line counts the breaks before an offset (`lineAt`), the column the characters behind the last of
them (`columnAt`).  Steps and skips from the start of the text come to just these coordinates, which grow strictly with
the offset (`coordinates_of_offset`).
-/
namespace Parsing

open Cursor (after left symbols)

namespace Cursor

variable {ι σ : Type} [Cursor ι σ]

/-- A way to move a cursor: one step, or a skip of so many symbols at once. -/
inductive Move where
  | step
  | skip (count : Nat)

namespace Move

def count : Move → Nat
  | step => 1
  | skip count => count

def apply (x : ι) : Move → ι
  | step => (next x).elim x (·.2)
  | skip count => (advance count x).2

/-- Moves one after the other. -/
def run (moves : List Move) (x : ι) : ι := moves.foldl apply x

/-- How many symbols the moves ask for. -/
def total : List Move → Nat
  | [] => 0
  | m :: moves => m.count + total moves

theorem run_cons (m : Move) (moves : List Move) (x : ι) : run (m :: moves) x = run moves (m.apply x) := rfl

end Move
end Cursor

open Cursor (Move)

/-! ## Counting in the text -/

/-- Whether the character at an index ends its line: LF does, and CR does unless LF comes next. -/
def BreaksAt (s : List Char) (index : Nat) : Prop :=
  s[index]? = some '\n' ∨ s[index]? = some '\r' ∧ s[index + 1]? ≠ some '\n'

instance (s : List Char) (index : Nat) : Decidable (BreaksAt s index) := inferInstanceAs (Decidable (_ ∨ _))

/-- The line of an offset: one more than there are breaks before it. -/
def lineAt (s : List Char) (offset : Nat) : Nat := 1 + (List.range offset).countP fun i => BreaksAt s i

/-- The column of an offset: one more than there are characters between the last break before it and it. -/
def columnAt (s : List Char) (offset : Nat) : Nat :=
  1 + ((List.range offset).reverse.takeWhile fun i => ¬ BreaksAt s i).length

theorem lineAt_succ (s : List Char) (k : Nat) :
    lineAt s (k + 1) = if BreaksAt s k then lineAt s k + 1 else lineAt s k := by
  unfold lineAt
  rw [List.range_succ, List.countP_append, List.countP_singleton]
  by_cases h : BreaksAt s k
  · simp [h]; omega
  · simp [h]

theorem columnAt_succ (s : List Char) (k : Nat) :
    columnAt s (k + 1) = if BreaksAt s k then 1 else columnAt s k + 1 := by
  unfold columnAt
  rw [List.range_succ, List.reverse_append, List.reverse_singleton, List.singleton_append]
  by_cases h : BreaksAt s k
  · simp [h]
  · simp [h]; omega

theorem lineAt_le (s : List Char) (k : Nat) : lineAt s k ≤ k + 1 := by
  have h := List.countP_le_length (p := fun i => decide (BreaksAt s i)) (l := List.range k)
  rw [List.length_range] at h
  unfold lineAt
  omega

theorem columnAt_le (s : List Char) (k : Nat) : columnAt s k ≤ k + 1 := by
  have h := (List.takeWhile_sublist (l := (List.range k).reverse) fun i => decide (¬ BreaksAt s i)).length_le
  rw [List.length_reverse, List.length_range] at h
  unfold columnAt
  omega

/-- **A greater offset has greater coordinates**, lines compared before columns. -/
theorem lex_of_lt (s : List Char) {j : Nat} : ∀ {k : Nat}, j < k →
    Prod.Lex (· < ·) (· < ·) (lineAt s j, columnAt s j) (lineAt s k, columnAt s k)
  | k + 1, h => by
    -- One step breaks the line, which raises the line, or stays on it and raises the column.
    have hstep : Prod.Lex (· < ·) (· < ·) (lineAt s k, columnAt s k) (lineAt s (k + 1), columnAt s (k + 1)) := by
      rw [lineAt_succ, columnAt_succ, Prod.lex_def]
      by_cases hb : BreaksAt s k
      · simp [hb]
      · simp [hb]
    rcases Nat.lt_succ_iff_lt_or_eq.1 h with h | rfl
    · have ih := lex_of_lt s h
      rw [Prod.lex_def] at ih hstep ⊢
      dsimp only at ih hstep ⊢
      omega
    · exact hstep

/-! ## Counting along the way -/

namespace Located

variable {ι : Type} [Cursor ι Char]

/-- Line and column. -/
def coordinates (x : Located ι) : Nat × Nat := (x.line, x.column)

/-- The test a step makes is the one for the index it stands at. -/
theorem breaksLine_iff {s more : List Char} {k : Nat} {c : Char} (h : s.drop k = c :: more) :
    breaksLine c more.head? = true ↔ BreaksAt s k := by
  have hc : s[k]? = some c := by rw [← List.head?_drop, h]; rfl
  have hafter : s[k + 1]? = more.head? := by
    rw [← List.head?_drop, ← List.drop_drop, h]
    rfl
  unfold breaksLine BreaksAt
  rw [hc, hafter]
  simp

/-- **What a step does to the coordinates.** -/
theorem coordinates_next {s : List Char} {k : Nat} {x y : Located ι} {c : Char} (hs : symbols x = s.drop k)
    (h : Cursor.next x = some (c, y)) :
    y.coordinates = if BreaksAt s k then (x.line + 1, 1) else (x.line, x.column + 1) := by
  have hy := Cursor.symbols_of_next_eq_some h
  rw [hs] at hy
  have hbreak := breaksLine_iff hy
  change Located.next x = _ at h
  unfold Located.next at h
  cases hi : Cursor.next x.inner with
  | none => rw [hi] at h; cases h
  | some step =>
    obtain ⟨d, z⟩ := step
    rw [hi] at h
    dsimp only at h
    rw [Cursor.next_map_fst] at h
    by_cases hb : breaksLine d (symbols z).head? = true
    · rw [if_pos hb] at h
      cases h
      have hk : BreaksAt s k := hbreak.1 hb
      rw [if_pos hk]
      rfl
    · rw [if_neg hb] at h
      cases h
      have hk : ¬ BreaksAt s k := fun hk => hb (hbreak.2 hk)
      rw [if_neg hk]
      rfl

/-- **Steps from the start come to the coordinates of their number.** -/
theorem coordinates_after (x : ι) : ∀ (k : Nat), k ≤ left x →
    (after k (ofCursor x)).coordinates = (lineAt (symbols x) k, columnAt (symbols x) k)
  | 0, _ => rfl
  | k + 1, h => by
    have ih := coordinates_after x k (by omega)
    have hs : symbols (after k (ofCursor x)) = (symbols x).drop k := Cursor.symbols_after k _
    cases hn : Cursor.next (after k (ofCursor x)) with
    | none =>
      -- Fewer steps than there are characters do not come to the end.
      have hleft := Cursor.left_after k (ofCursor x)
      rw [left, Cursor.symbols_of_next_eq_none hn] at hleft
      change 0 = left x - k at hleft
      omega
    | some step =>
      obtain ⟨c, y⟩ := step
      have hy : after (k + 1) (ofCursor x) = y := by
        rw [Cursor.after_add, Cursor.after_succ_of_some hn, Cursor.after_zero]
      obtain ⟨hline, hcolumn⟩ := Prod.mk.inj ih
      rw [hy, coordinates_next hs hn, hline, hcolumn, lineAt_succ, columnAt_succ]
      by_cases hb : BreaksAt (symbols x) k
      · simp [hb]
      · simp [hb]

theorem apply_eq_after (x : Located ι) : ∀ (m : Move), m.apply x = after m.count x
  | .step => by
    rw [Move.apply, Move.count]
    cases hn : Cursor.next x with
    | none => rw [Cursor.after_of_none hn]; rfl
    | some step => rw [Cursor.after_succ_of_some hn]; rfl
  | .skip _ => rfl

theorem run_eq_after : ∀ (moves : List Move) (x : Located ι), Move.run moves x = after (Move.total moves) x
  | [], _ => rfl
  | m :: moves, x => by
    rw [Move.run_cons, apply_eq_after, run_eq_after moves, Move.total, Cursor.after_add]

end Located

/-- **Line and column are functions of the offset.**  Steps and skips from the start of a text, in any mixture, come to
the line and the column of the number of characters they pass, and neither outgrows 32 bits.  A greater offset has
greater coordinates, so no two offsets have the same. -/
theorem coordinates_of_offset {ι : Type} [Cursor ι Char] (x : ι) (hsize : (symbols x).length < UInt32.size - 1) :
    (∀ moves : List Move, Move.total moves ≤ (symbols x).length →
      let y := Move.run moves (Located.ofCursor x)
      y.line = lineAt (symbols x) (Move.total moves) ∧ y.column = columnAt (symbols x) (Move.total moves) ∧
        y.line < UInt32.size ∧ y.column < UInt32.size) ∧
    ∀ fewer more : List Move, Move.total fewer < Move.total more → Move.total more ≤ (symbols x).length →
      let y := Move.run fewer (Located.ofCursor x)
      let z := Move.run more (Located.ofCursor x)
      Prod.Lex (· < ·) (· < ·) (y.line, y.column) (z.line, z.column) ∧ (y.line, y.column) ≠ (z.line, z.column) := by
  have hrun : ∀ moves : List Move, Move.total moves ≤ (symbols x).length →
      (Move.run moves (Located.ofCursor x)).coordinates =
        (lineAt (symbols x) (Move.total moves), columnAt (symbols x) (Move.total moves)) := by
    intro moves h
    rw [Located.run_eq_after]
    exact Located.coordinates_after x _ h
  constructor
  · intro moves h y
    obtain ⟨hline, hcolumn⟩ : y.line = lineAt (symbols x) (Move.total moves) ∧
      y.column = columnAt (symbols x) (Move.total moves) := Prod.mk.inj (hrun moves h)
    have hl := lineAt_le (symbols x) (Move.total moves)
    have hc := columnAt_le (symbols x) (Move.total moves)
    have hlargest : UInt32.size = 4294967296 := rfl
    exact ⟨hline, hcolumn, by omega, by omega⟩
  · intro fewer more hlt hle y z
    have hlex : Prod.Lex (· < ·) (· < ·) y.coordinates z.coordinates := by
      rw [hrun fewer (by omega), hrun more hle]
      exact lex_of_lt (symbols x) hlt
    refine ⟨hlex, fun heq => ?_⟩
    obtain ⟨hline, hcolumn⟩ := Prod.mk.inj heq
    rw [Prod.lex_def] at hlex
    dsimp only [Located.coordinates] at hlex
    omega

theorem coordinates_of_offset_of_returns :
    let x := Text.ofString "a\r\r\n\nb"
    let y := Move.run [.step, .skip 3] (Located.ofCursor x)
    let z := Move.run [.skip 5] (Located.ofCursor x)
    (symbols x).length < UInt32.size - 1 ∧ (y.line, y.column) = (3, 1) ∧ (z.line, z.column) = (4, 1) ∧
      Prod.Lex (· < ·) (· < ·) (y.line, y.column) (z.line, z.column) := by
  intro x y z
  have hsize : (symbols x).length < UInt32.size - 1 := by decide
  have h := coordinates_of_offset x hsize
  obtain ⟨hyl, hyc, -⟩ := h.1 [.step, .skip 3] (by decide)
  obtain ⟨hzl, hzc, -⟩ := h.1 [.skip 5] (by decide)
  have hlex := (h.2 [.step, .skip 3] [.skip 5] (by decide) (by decide)).1
  refine ⟨hsize, ?_, ?_, hlex⟩
  · rw [hyl, hyc]
    decide
  · rw [hzl, hzc]
    decide

end Parsing
