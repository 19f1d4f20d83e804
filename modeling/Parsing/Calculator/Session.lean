import Parsing.Calculator.Expression
import Parsing.Printing.Field
/-!
# Sessions — the calculator's dialogue

A session greets, prompts, and answers the lines of its input one by one with another prompt after each, up to a line
that asks to leave.  A blank line has no answer but the prompt.  A value is printed; a fault is shown by a caret under
its column, two columns to the right for the prompt, and named.
-/
namespace Parsing.Calculator

open Printing (Field)

def greeting : List Char := "Enter 'q' to exit.\n".toList

def prompt : List Char := "> ".toList

/-- The line that ends a session. -/
def farewell : List Char := ['q']

/-- Takes the CR off a line that ended in CR LF. -/
def dropReturn (line : List Char) : List Char := if line.getLast? = some '\r' then line.dropLast else line

/-- The lines of a text, after what has been read of the first.  A line ends at LF or CR LF; what stands behind the last
end is a line unless it is empty, and keeps its CR. -/
def linesFrom (read : List Char) : List Char → List (List Char)
  | [] => if read.isEmpty then [] else [read]
  | c :: cs => if c = '\n' then dropReturn read :: linesFrom [] cs else linesFrom (read ++ [c]) cs

/-- The lines of a text. -/
def lines (text : List Char) : List (List Char) := linesFrom [] text

/-- What a line that is not blank is answered with. -/
def answer (line : List Char) : List Char :=
  match evaluate line with
  | .success value _ => (toString value).toList ++ ['\n']
  | .failure fault _ =>
    Field.padTo (fault.position.column + 2) .right ['^'] ++ " column ".toList
      ++ (toString fault.position.column).toList ++ ": ".toList ++ fault.cause.message.toList ++ ['\n']
  | .aborted _ => []

/-- What a line is answered with. -/
def reply (line : List Char) : List Char := if line.all Unicode.isWhiteSpace then [] else answer line

/-- The replies to lines, each with the prompt for the next one. -/
def replies : List (List Char) → List Char
  | [] => []
  | line :: more => if line = farewell then [] else reply line ++ prompt ++ replies more

/-- All that a session prints for its input. -/
def transcript (input : List Char) : List Char := greeting ++ prompt ++ replies (lines input)

end Parsing.Calculator
