/-!
# Cursors — positions in a sequence of symbols

A cursor is a value: stepping it yields the next symbol and another cursor, and the cursor one started from is still
there to go back to.  Everything a parser does is stepping and comparing cursors.

`Cursor.symbols` is the one view of a cursor: the finite list of symbols from it to the end of its input.  The law
`symbols_eq` ties it to `next`, so a cursor always has an end, and `left`, the length of the view, is the measure on
which repetitions rest.  The other operations have definitions by stepping, which a type may replace by faster ones.
-/
namespace Parsing

/-- Skips up to so many symbols by stepping, and says how many there were to skip. -/
def advanceBySteps {ι σ : Type} (next : ι → Option (σ × ι)) : Nat → ι → Nat × ι
  | 0, x => (0, x)
  | count + 1, x =>
    match next x with
    | none => (0, x)
    | some (_, y) => let (skipped, z) := advanceBySteps next count y; (skipped + 1, z)

/-- A position in a sequence of symbols of type `σ`. -/
class Cursor (ι : Type) (σ : outParam Type) where
  /-- The symbol at the cursor and the cursor behind it; nothing at the end. -/
  next : ι → Option (σ × ι)
  /-- Whether two cursors of one input stand at the same place, as far as their type can tell. -/
  samePosition : ι → ι → Bool
  /-- The symbols from the cursor to the end. -/
  symbols : ι → List σ
  /-- The view is what stepping yields. -/
  symbols_eq : ∀ x, symbols x = (next x).elim [] fun step => step.1 :: symbols step.2
  /-- Skips up to so many symbols, and says how many it skipped: fewer only where the input ended. -/
  advance : Nat → ι → Nat × ι := advanceBySteps next
  /-- How many symbols are left, where that is known without walking. -/
  size? : ι → Option Nat := fun _ => none
  /-- Whether the cursor stands at the end. -/
  isEmpty : ι → Bool := fun x => (next x).isNone

namespace Cursor

variable {ι σ : Type} [Cursor ι σ]

/-- The number of symbols left. -/
def left (x : ι) : Nat := (symbols x).length

theorem symbols_of_next_eq_none {x : ι} (h : next x = none) : symbols x = [] := by
  rw [symbols_eq, h]; rfl

theorem symbols_of_next_eq_some {x y : ι} {a : σ} (h : next x = some (a, y)) : symbols x = a :: symbols y := by
  rw [symbols_eq, h]; rfl

/-- **A step shortens what is left by one.** -/
theorem left_of_next_eq_some {x y : ι} {a : σ} (h : next x = some (a, y)) : left x = left y + 1 := by
  simp [left, symbols_of_next_eq_some h]

theorem next_eq_none_iff {x : ι} : next x = none ↔ symbols x = [] := by
  rw [symbols_eq]
  cases next x <;> simp

/-- **The head of the view is the symbol at the cursor.** -/
theorem next_map_fst (x : ι) : (next x).map (·.1) = (symbols x).head? := by
  rw [symbols_eq]
  cases next x <;> rfl

end Cursor
end Parsing
