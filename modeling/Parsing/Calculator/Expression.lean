import Parsing.Calculator.Arithmetic
import Parsing.Cursor.Located
import Parsing.Parser.Text
/-!
# Expressions — the calculator's language

An expression is a chain of terms joined by plus and minus, a term a chain of operands joined by times, division and
remainder; an operand is a number, an expression in parentheses, or the opposite of an operand.  Blanks may stand before
every token.  A chain is evaluated from left to right once all of it is matched.

Operands nest in expressions and expressions in operands.  Each level takes at least one character, so a line of so many
characters needs no more levels than that and one more.
-/
namespace Parsing.Calculator

variable {ι : Type} [Cursor ι Char]

/-- A character after blanks. -/
def token (c : Char) : Parser ι TextCause Char := Parser.blanks.skipThen (Parser.character c)

/-- The digits of a number. -/
def digits : Parser ι TextCause (Stretch ι) := ((Parser.satisfying Decimal.isDigit).repeated (.atLeast 1)).recognize

/-- A number after blanks. -/
def number : Parser ι TextCause Int := (Parser.blanks.skipThen digits).tryMap fun found => readDigits found.symbols

/-- Operands with operators between them, evaluated from left to right. -/
def chain (operator : Parser ι TextCause Operator) (operand : Parser ι TextCause Int) : Parser ι TextCause Int :=
  (operand.andThen ((operator.andThen operand).repeated .any)).tryMap fun (first, more) => evaluateChain first more

/-- The operators that bind more tightly. -/
def multiplicative : Parser ι TextCause Operator :=
  ((token '*').withValue .times).orElse (((token '/').withValue .divide).orElse ((token '%').withValue .remainder))

/-- The operators that bind less tightly. -/
def additive : Parser ι TextCause Operator :=
  ((token '+').withValue .plus).orElse ((token '-').withValue .minus)

/-- A chain of chains of operands. -/
def sum (operand : Parser ι TextCause Int) : Parser ι TextCause Int := chain additive (chain multiplicative operand)

/-- A number, or an expression in parentheses. -/
def atom (expression : Parser ι TextCause Int) : Parser ι TextCause Int :=
  number.orElse (((token '(').skipThen expression).thenSkip (token ')'))

/-- An operand with so many levels below it. -/
def operand : Nat → Parser ι TextCause Int
  | 0 => fun _ => .aborted .endless
  | depth + 1 => fun x =>
    (((token '-').skipThen (operand depth)).tryMap negate).orElse (atom (sum (operand depth))) x

/-- An expression with so many levels of operands. -/
def expression (depth : Nat) : Parser ι TextCause Int := sum (operand depth)

/-- All that is left as one expression, blanks behind it included. -/
def calculation : Parser ι TextCause Int := fun x =>
  ((expression (Cursor.left x + 1)).thenSkip Parser.blanks).complete x

/-- Evaluates a line; a fault in it has a line and a column. -/
def evaluate (line : List Char) : Outcome TextCause (Located Text) Int := calculation (.ofCursor ⟨0, line⟩)

end Parsing.Calculator
