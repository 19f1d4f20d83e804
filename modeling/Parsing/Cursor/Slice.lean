import Parsing.Cursor
/-!
# Slices — a cursor over elements of one width

A slice is what is left of a block of elements laid out one after the other.  Positions are compared by address, the
index times the width of an element.  An element of width zero takes no room, so all positions in a block of those have
one address: there `samePosition` is always true although advancing goes on.
-/
namespace Parsing

/-- The width of an element in memory, in bytes. -/
class Width (σ : Type) where
  bytes : Nat

instance : Width Int := ⟨8⟩
instance : Width UInt8 := ⟨1⟩
instance : Width Unit := ⟨0⟩

/-- A position in a block of elements: the index reached, and the elements still to come. -/
structure Slice (σ : Type) where
  index : Nat
  rest : List σ

namespace Slice

variable {σ : Type}

/-- The start of a block. -/
def ofList (items : List σ) : Slice σ := ⟨0, items⟩

/-- Where the next element lies, in bytes from the start of the block. -/
def address [Width σ] (x : Slice σ) : Nat := Width.bytes σ * x.index

def next (x : Slice σ) : Option (σ × Slice σ) :=
  match x.rest with
  | [] => none
  | a :: as => some (a, ⟨x.index + 1, as⟩)

/-- Skips at once as many elements as there are, up to the count. -/
def advance (count : Nat) (x : Slice σ) : Nat × Slice σ :=
  let skipped := min x.rest.length count
  (skipped, ⟨x.index + skipped, x.rest.drop skipped⟩)

instance [Width σ] : Cursor (Slice σ) σ where
  next := next
  samePosition x y := x.address == y.address
  symbols x := x.rest
  symbols_eq x := by
    obtain ⟨index, rest⟩ := x
    cases rest <;> rfl
  advance := advance
  size? x := some x.rest.length
  isEmpty x := x.rest.isEmpty

/-- Two slices are equal when the same elements are left. -/
instance [BEq σ] : BEq (Slice σ) := ⟨fun x y => x.rest == y.rest⟩

/-- What lies between two slices, cut from the first by the difference of their lengths.  Nothing when the second is
the longer one. -/
def between? (start stop : Slice σ) : Option (List σ) :=
  if stop.rest.length ≤ start.rest.length then some (start.rest.take (start.rest.length - stop.rest.length)) else none

@[simp] theorem symbols_eq_rest [Width σ] (x : Slice σ) : Cursor.symbols x = x.rest := rfl

/-- **Elements without width leave all positions the same.** -/
theorem samePosition_of_bytes_eq_zero [Width σ] (h : Width.bytes σ = 0) (x y : Slice σ) :
    Cursor.samePosition x y = true := by
  simp [Cursor.samePosition, address, h]

end Slice
end Parsing
