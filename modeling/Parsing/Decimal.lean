/-!
# Decimal — digits and the numbers they write
-/
namespace Parsing.Decimal

def isDigit (c : Char) : Bool := '0' ≤ c && c ≤ '9'

def digitValue (c : Char) : Nat := c.toNat - '0'.toNat

/-- The number that digits write, after a number before them. -/
def natFrom (before : Nat) (digits : List Char) : Nat :=
  digits.foldl (fun n c => 10 * n + digitValue c) before

/-- The number that digits write; leading zeros do not matter. -/
def nat (digits : List Char) : Nat := natFrom 0 digits

/-- The number that one or more digits write; nothing for any other text. -/
def nat? (cs : List Char) : Option Nat :=
  if !cs.isEmpty && cs.all isDigit then some (nat cs) else none

/-- The number that digits write with or without a sign before them. -/
def int? : List Char → Option Int
  | '+' :: digits => (nat? digits).map fun n => (n : Int)
  | '-' :: digits => (nat? digits).map fun n => -(n : Int)
  | digits => (nat? digits).map fun n => (n : Int)

def leastInt64 : Int := -9223372036854775808

def greatestInt64 : Int := 9223372036854775807

/-- Whether an integer is a signed 64-bit integer. -/
def fitsInt64 (n : Int) : Bool := leastInt64 ≤ n && n ≤ greatestInt64

/-- The signed 64-bit integer, not above a limit, that a text writes. -/
def int64AtMost? (limit : Int) (cs : List Char) : Option Int :=
  (int? cs).filter fun n => fitsInt64 n && n ≤ limit

end Parsing.Decimal
