import Parsing.Cursor
/-!
# Text — a cursor over characters

A text cursor is what is left to read and how many bytes lie before it.  Positions are compared by the byte offset, so
two cursors of one source stand at one place exactly when they have read the same characters; equality (`==`) compares
what is left and disregards where that is.
-/
namespace Parsing

/-- A position in a text: the bytes read so far in UTF-8, and the characters still to come. -/
structure Text where
  offset : Nat
  rest : List Char

namespace Text

/-- The start of a text. -/
def ofString (s : String) : Text := ⟨0, s.toList⟩

def next (x : Text) : Option (Char × Text) :=
  match x.rest with
  | [] => none
  | c :: cs => some (c, ⟨x.offset + c.utf8Size, cs⟩)

instance : Cursor Text Char where
  next := next
  samePosition x y := x.offset == y.offset
  symbols x := x.rest
  symbols_eq x := by
    obtain ⟨offset, rest⟩ := x
    cases rest <;> rfl
  isEmpty x := x.rest.isEmpty

/-- Two texts are equal when the same characters are left. -/
instance : BEq Text := ⟨fun x y => x.rest == y.rest⟩

/-- The bytes of a list of characters in UTF-8. -/
def byteCount : List Char → Nat
  | [] => 0
  | c :: cs => c.utf8Size + byteCount cs

/-- The first so many bytes; nothing when they run out or would end inside a character. -/
def takeBytes : Nat → List Char → Option (List Char)
  | 0, _ => some []
  | _ + 1, [] => none
  | count + 1, c :: cs => if c.utf8Size ≤ count + 1 then (takeBytes (count + 1 - c.utf8Size) cs).map (c :: ·) else none

/-- What lies between two cursors, cut from the first by the difference of the bytes left at each.  Nothing when the
second has more left than the first. -/
def between? (start stop : Text) : Option (List Char) :=
  if byteCount stop.rest ≤ byteCount start.rest then
    takeBytes (byteCount start.rest - byteCount stop.rest) start.rest
  else none

@[simp] theorem symbols_eq_rest (x : Text) : Cursor.symbols x = x.rest := rfl

@[simp] theorem samePosition_iff (x y : Text) : Cursor.samePosition x y = true ↔ x.offset = y.offset := by
  simp [Cursor.samePosition]

theorem beq_iff (x y : Text) : (x == y) = true ↔ x.rest = y.rest := by
  show (x.rest == y.rest) = true ↔ _
  simp

end Text
end Parsing
