import Parsing.Cursor.Stretch
/-!
# Fields — padding and cutting of what is printed

A field may ask for a least width, an alignment in it and a precision.  Characters go to the left unless asked
otherwise and are cut to the precision; integers go to the right and have no precision.  A stretch prints its symbols
one after the other, each in a field of its own.
-/
namespace Parsing.Printing

/-- Where the content of a field goes when there is room. -/
inductive Alignment where
  | left
  | right
  | center
deriving DecidableEq, Repr

/-- The room that something is printed in. -/
structure Field where
  width? : Option Nat
  alignment? : Option Alignment
  precision? : Option Nat
deriving DecidableEq, Repr

namespace Field

/-- A field that asks for nothing. -/
def plain : Field := ⟨none, none, none⟩

/-- Fills content with spaces up to a width.  Of an odd number of spaces around the centre one more goes to the
right. -/
def padTo (width : Nat) (alignment : Alignment) (content : List Char) : List Char :=
  let missing := width - content.length
  let spaces (count : Nat) := List.replicate count ' '
  match alignment with
  | .left => content ++ spaces missing
  | .right => spaces missing ++ content
  | .center => spaces (missing / 2) ++ content ++ spaces (missing - missing / 2)

/-- Fills content as a field asks, with an alignment for fields that name none. -/
def pad (field : Field) (usual : Alignment) (content : List Char) : List Char :=
  padTo (field.width?.getD 0) (field.alignment?.getD usual) content

/-- Cuts content to the precision of a field. -/
def cut (field : Field) (content : List Char) : List Char :=
  match field.precision? with
  | none => content
  | some precision => content.take precision

/-- **A plain field changes nothing.** -/
theorem pad_plain (usual : Alignment) (content : List Char) : plain.pad usual content = content := by
  cases usual <;> simp [plain, pad, padTo]

theorem cut_plain (content : List Char) : plain.cut content = content := rfl

end Field

/-- Symbols that can be printed in a field. -/
class Printable (σ : Type) where
  print : Field → σ → List Char

instance : Printable Char := ⟨fun field c => field.pad .left (field.cut [c])⟩
instance : Printable Int := ⟨fun field n => field.pad .right (toString n).toList⟩
instance : Printable UInt8 := ⟨fun field n => field.pad .right (toString n.toNat).toList⟩

end Parsing.Printing

/-- The symbols of a stretch, each printed in the field. -/
def Parsing.Stretch.print {ι σ : Type} [Cursor ι σ] [Printing.Printable σ] (field : Printing.Field) (s : Stretch ι) :
    List Char :=
  s.symbols.flatMap (Printing.Printable.print field)
