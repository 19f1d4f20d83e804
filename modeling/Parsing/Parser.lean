import Parsing.Cause
import Parsing.Cursor.Stretch
import Parsing.Outcome
/-!
# Parsers — functions from cursors to outcomes

A parser is a pure function of the cursor it is given, so it may be run any number of times anywhere.  This module has
the parsers of single symbols and the combinators without loops; `Parsing.Parser.Repeat` has the others.

All of them keep one promise: a failure gives back the cursor the parser was given, and the position of its fault is
where the mismatch was found.
-/
namespace Parsing

/-- A parser over cursors `ι` with values `α` and causes of failure `κ`. -/
def Parser (ι κ α : Type) : Type := ι → Outcome κ ι α

namespace Parser

variable {ι σ κ ν α β ζ : Type}

/-- Matches nothing and yields a value. -/
def yielding (value : α) : Parser ι κ α := fun x => .success value x

/-- Maps the value of a match. -/
def map (p : Parser ι κ α) (f : α → β) : Parser ι κ β := fun x =>
  (p x).map f

/-- Maps the value of a match or rejects it.  The fault of a rejected value is at the end of its match. -/
def tryMap [Seed ζ κ] (p : Parser ι κ α) (f : α → Except ζ β) : Parser ι κ β := fun x =>
  (p x).andThen fun value rest =>
    match f value with
    | .ok result => .success result rest
    | .error seed => .failure ⟨Seed.cause seed, rest⟩ x

/-- Maps the value of a match by a mapping that may find it defective. -/
def mapSoundly (p : Parser ι κ α) (f : α → Except String β) : Parser ι κ β := fun x =>
  (p x).andThen fun value rest =>
    match f value with
    | .ok result => .success result rest
    | .error message => .aborted (.defect message)

/-- Has the value of a match judged.  The fault of a rejected value is at the end of its match. -/
def judged [Seed ζ κ] (p : Parser ι κ α) (f : α → Verdict ζ β) : Parser ι κ β := fun x =>
  (p x).andThen fun value rest =>
    match f value with
    | .accept result => .success result rest
    | .reject seed => .failure ⟨Seed.cause seed, rest⟩ x
    | .defect message => .aborted (.defect message)

/-- Puts a fixed value in the place of the value of a match. -/
def withValue (p : Parser ι κ α) (value : β) : Parser ι κ β := p.map fun _ => value

/-- Matches `p` and then `q`, and yields both values. -/
def andThen (p : Parser ι κ α) (q : Parser ι κ β) : Parser ι κ (α × β) := fun x =>
  (p x).andThen fun first rest => ((q rest).restoring x).map (first, ·)

/-- Matches `p` and then `q`, and yields the value of `q`. -/
def skipThen (p : Parser ι κ α) (q : Parser ι κ β) : Parser ι κ β := fun x =>
  (p x).andThen fun _ rest => (q rest).restoring x

/-- Matches `p` and then `q`, and yields the value of `p`. -/
def thenSkip (p : Parser ι κ α) (q : Parser ι κ β) : Parser ι κ α := fun x =>
  (p x).andThen fun value rest => ((q rest).restoring x).map fun _ => value

/-- Tries `p`, and where it fails `q`. -/
def orElse (p q : Parser ι κ α) : Parser ι κ α := fun x => (p x).recover q

/-- Matches `p` or nothing. -/
def optional (p : Parser ι κ α) : Parser ι κ (Option α) := fun x =>
  match p x with
  | .success value rest => .success (some value) rest
  | .failure _ input => .success none input
  | .aborted why => .aborted why

/-- Yields what `p` yields, and stays where it was. -/
def lookahead (p : Parser ι κ α) : Parser ι κ α := fun x => (p x).andThen fun value _ => .success value x

/-- Yields the stretch that `p` matched. -/
def recognize (p : Parser ι κ α) : Parser ι κ (Stretch ι) := fun x =>
  (p x).andThen fun _ rest => .success ⟨x, rest⟩ rest

section Causes
variable [Cause κ]

/-- Succeeds, matching nothing, where `p` fails. -/
def notFollowedBy (p : Parser ι κ α) : Parser ι κ Unit := fun x =>
  match p x with
  | .success _ _ => .failure ⟨Cause.excluded, x⟩ x
  | .failure _ _ => .success () x
  | .aborted why => .aborted why

/-- Matches `p` only where `excluded` does not match.  The causes of `excluded` may be of any type. -/
def butNot (p : Parser ι κ α) (excluded : Parser ι ν β) : Parser ι κ α := fun x =>
  match excluded x with
  | .success _ _ => .failure ⟨Cause.excluded, x⟩ x
  | .failure _ _ => p x
  | .aborted why => .aborted why

variable [Cursor ι σ]

/-- Matches any one symbol. -/
def anySymbol : Parser ι κ σ := fun x =>
  match Cursor.next x with
  | some (a, rest) => .success a rest
  | none => .failure ⟨Cause.moreNeeded, x⟩ x

/-- Matches one symbol that satisfies a predicate. -/
def satisfying (holds : σ → Bool) : Parser ι κ σ := fun x =>
  match Cursor.next x with
  | some (a, rest) => if holds a then .success a rest else .failure ⟨Cause.invalid, x⟩ x
  | none => .failure ⟨Cause.moreNeeded, x⟩ x

/-- Succeeds, matching nothing, at the end of the input. -/
def endOfInput : Parser ι κ Unit := fun x =>
  if Cursor.isEmpty x then .success () x else .failure ⟨Cause.endExpected, x⟩ x

/-- Matches `p` where it matches all of the input.  The fault of input left over is where `p` stopped. -/
def complete (p : Parser ι κ α) : Parser ι κ α := fun x =>
  (p x).andThen fun value rest =>
    if Cursor.isEmpty rest then .success value rest else .failure ⟨Cause.endExpected, rest⟩ x

end Causes

section Literals
variable [DecidableEq σ] [Cursor ι σ]

/-- Matches one given symbol, and fails for one given cause at any other symbol and at the end. -/
def exactly (expected : σ) (cause : κ) : Parser ι κ σ := fun x =>
  match Cursor.next x with
  | some (a, rest) => if a = expected then .success a rest else .failure ⟨cause, x⟩ x
  | none => .failure ⟨cause, x⟩ x

/-- Walks along a literal, to the first symbol that differs. -/
def literalFrom (cause : σ → κ) (start : ι) : List σ → ι → Outcome κ ι Unit
  | [], x => .success () x
  | a :: more, x =>
    match exactly a (cause a) x with
    | .success _ rest => literalFrom cause start more rest
    | .failure fault _ => .failure fault start
    | .aborted why => .aborted why

/-- Matches a list of symbols in order and yields a value.  The fault of another symbol is at that symbol, for the cause
that the expected one gives. -/
def literal (expected : List σ) (cause : σ → κ) (value : α) : Parser ι κ α := fun x =>
  (literalFrom cause x expected x).map fun _ => value

end Literals

end Parser
end Parsing
