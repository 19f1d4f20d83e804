import Parsing.Cause.Text
import Parsing.Decimal
/-!
# Arithmetic — checked operations on signed 64-bit integers

Every result is checked: one that is no signed 64-bit integer is an overflow.  Division truncates towards zero and the
remainder has the sign of the dividend; both refuse a zero divisor, and both overflow where the quotient does.
-/
namespace Parsing.Calculator

open Decimal (fitsInt64 digitValue)

/-- Why a value is refused. -/
inductive ArithmeticError where
  | outOfRange
  | divisionByZero
  | overflow
deriving DecidableEq, Repr

def ArithmeticError.message : ArithmeticError → String
  | outOfRange => "number out of range"
  | divisionByZero => "division by zero"
  | overflow => "arithmetic overflow"

/-- A refused value rejects a match with the message. -/
instance : Seed ArithmeticError TextCause := ⟨fun e => .custom e.message⟩

/-- An integer, refused for a given reason unless it is a signed 64-bit one. -/
def checked (reason : ArithmeticError) (n : Int) : Except ArithmeticError Int :=
  if fitsInt64 n then .ok n else .error reason

/-- The operators between two operands. -/
inductive Operator where
  | plus
  | minus
  | times
  | divide
  | remainder
deriving DecidableEq, Repr

/-- The checked result of an operator. -/
def Operator.apply (op : Operator) (m n : Int) : Except ArithmeticError Int :=
  match op with
  | plus => checked .overflow (m + n)
  | minus => checked .overflow (m - n)
  | times => checked .overflow (m * n)
  | divide => if n = 0 then .error .divisionByZero else checked .overflow (m.tdiv n)
  | remainder =>
    if n = 0 then .error .divisionByZero
    else (checked .overflow (m.tdiv n)).map fun _ => m.tmod n

/-- The checked opposite of a value. -/
def negate (n : Int) : Except ArithmeticError Int := checked .overflow (-n)

/-- Applies the operators of a chain from left to right. -/
def evaluateChain (first : Int) : List (Operator × Int) → Except ArithmeticError Int
  | [] => .ok first
  | (op, n) :: more =>
    match op.apply first n with
    | .ok result => evaluateChain result more
    | .error reason => .error reason

/-- Reads further digits behind a number, checking it after each. -/
def readDigitsFrom (before : Int) : List Char → Except ArithmeticError Int
  | [] => .ok before
  | c :: digits =>
    match checked .outOfRange (10 * before + digitValue c) with
    | .ok n => readDigitsFrom n digits
    | .error reason => .error reason

/-- The number that digits write, refused when it is out of range. -/
def readDigits (digits : List Char) : Except ArithmeticError Int := readDigitsFrom 0 digits

end Parsing.Calculator
