import Parsing.Cursor
/-!
# Indexed cursors — a list and an index into it

The plainest cursor: it keeps the whole list, moves an index, and compares positions by the index.  It defines nothing
beyond `next` and `samePosition`, so all else is done by stepping.
-/
namespace Parsing

/-- A position in a list, by its index. -/
structure Indexed (σ : Type) where
  items : List σ
  index : Nat

namespace Indexed

variable {σ : Type}

/-- The start of a list. -/
def ofList (items : List σ) : Indexed σ := ⟨items, 0⟩

def next (x : Indexed σ) : Option (σ × Indexed σ) :=
  x.items[x.index]?.map fun a => (a, { x with index := x.index + 1 })

instance : Cursor (Indexed σ) σ where
  next := next
  samePosition x y := x.index == y.index
  symbols x := x.items.drop x.index
  symbols_eq x := by
    cases h : x.items[x.index]? with
    | none => simp [next, List.getElem?_eq_none_iff.1 h]
    | some a =>
      obtain ⟨hlt, rfl⟩ := List.getElem?_eq_some_iff.1 h
      simp [next, h]

/-- Two indexed cursors are equal when list and index are. -/
instance [BEq σ] : BEq (Indexed σ) := ⟨fun x y => x.items == y.items && x.index == y.index⟩

@[simp] theorem symbols_eq_drop (x : Indexed σ) : Cursor.symbols x = x.items.drop x.index := rfl

end Indexed
end Parsing
