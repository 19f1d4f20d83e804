import Parsing.Cursor
/-!
# Located cursors — line and column

A located cursor wraps a cursor over characters and counts lines and columns, both from 1, starting where it is made.
A line ends at LF, at CR LF, or at a CR alone; a CR before an LF is the first half of one break and counts as a column.
Columns count characters.
-/
namespace Parsing

/-- A cursor over characters with the line and column it has come to. -/
structure Located (ι : Type) where
  inner : ι
  line : Nat
  column : Nat

namespace Located

variable {ι : Type}

/-- Counting starts at the cursor: line 1, column 1. -/
def ofCursor (x : ι) : Located ι := ⟨x, 1, 1⟩

/-- Whether a character ends its line, given the character after it: LF does, and CR does unless LF follows. -/
def breaksLine (c : Char) (after : Option Char) : Bool :=
  c == '\n' || (c == '\r' && after != some '\n')

variable [Cursor ι Char]

/-- A character that ends its line leads to the start of the next line, any other one column on. -/
def next (x : Located ι) : Option (Char × Located ι) :=
  match Cursor.next x.inner with
  | none => none
  | some (c, y) =>
    if breaksLine c ((Cursor.next y).map (·.1)) then some (c, ⟨y, x.line + 1, 1⟩)
    else some (c, ⟨y, x.line, x.column + 1⟩)

instance : Cursor (Located ι) Char where
  next := next
  samePosition x y := Cursor.samePosition x.inner y.inner
  symbols x := Cursor.symbols x.inner
  symbols_eq x := by
    show Cursor.symbols x.inner = _
    rw [Cursor.symbols_eq]
    cases h : Cursor.next x.inner with
    | none => simp [next, h]
    | some step =>
      obtain ⟨c, y⟩ := step
      cases hb : breaksLine c ((Cursor.next y).map (·.1)) <;> simp [next, h, hb]
  size? x := Cursor.size? x.inner
  isEmpty x := Cursor.isEmpty x.inner

/-- Located cursors are equal when the wrapped cursors, the lines and the columns are. -/
instance {ι : Type} [BEq ι] : BEq (Located ι) :=
  ⟨fun x y => x.inner == y.inner && x.line == y.line && x.column == y.column⟩

@[simp] theorem symbols_eq_inner (x : Located ι) : Cursor.symbols x = Cursor.symbols x.inner := rfl

end Located
end Parsing
