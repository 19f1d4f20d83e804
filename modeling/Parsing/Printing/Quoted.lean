import Parsing.Unicode.Property
/-!
# Quoted characters — a character as a message shows it

A character stands between single quotes.  The quote, the backslash and the common controls are written with a
backslash; characters that would not show, or would join the quote before them, by their code in hexadecimal.
-/
namespace Parsing.Printing

open Unicode (Category)

/-- Whether a character shows by itself: neither a control, nor without a meaning, nor a separator other than the
space. -/
def isPrintable (c : Char) : Bool :=
  c == ' ' ||
    match Category.of c with
    | .control | .format | .surrogate | .privateUse | .unassigned => false
    | .lineSeparator | .paragraphSeparator | .spaceSeparator => false
    | _ => true

/-- A character by its code: lower-case hexadecimal without leading zeros. -/
def codeEscape (c : Char) : List Char := ['\\', 'u', '\x7b'] ++ Nat.toDigits 16 c.toNat ++ ['\x7d']

/-- What stands between the quotes. -/
def escaped (c : Char) : List Char :=
  match c with
  | '\x00' => ['\\', '0']
  | '\t' => ['\\', 't']
  | '\r' => ['\\', 'r']
  | '\n' => ['\\', 'n']
  | '\'' => ['\\', '\'']
  | '\\' => ['\\', '\\']
  | c => if Unicode.isGraphemeExtend c || !isPrintable c then codeEscape c else [c]

/-- A character between single quotes. -/
def quoted (c : Char) : List Char := ['\''] ++ escaped c ++ ['\'']

end Parsing.Printing
