import Parsing.Parser
import Parsing.Repetition
/-!
# Repetition — the combinators with loops

A loop over a parser ends at the first failure, at the upper bound, or at a match that consumed nothing, after which all
further matches would be the same.  So the number of rounds is bounded by what is left of the input, and the loops are
recursions on that bound.  A parser whose rest does not come from its input could outrun it; then the outcome is
`Abort.endless`.
-/
namespace Parsing.Parser

open Cursor (left samePosition)

variable {ι σ κ ν α β : Type} [Cursor ι σ]

/-- Goes on repeating `p` after so many matches, for at most so many rounds.  A failure below the least count fails the
repetition that began at `start`. -/
def repeatedFrom (p : Parser ι κ α) (range : Repetition) (start : ι) : Nat → Nat → ι → Outcome κ ι (List α)
  | 0, _, _ => .aborted .endless
  | rounds + 1, count, x =>
    if range.isFull count then .success [] x
    else match p x with
      | .success value rest =>
        if samePosition rest x && range.least ≤ count + 1 then .success [value] rest
        else (repeatedFrom p range start rounds (count + 1) rest).map (value :: ·)
      | .failure fault _ => if count < range.least then .failure fault start else .success [] x
      | .aborted why => .aborted why

/-- Matches `p` as often as it can within a range of counts, and yields the values in order. -/
def repeated (p : Parser ι κ α) (range : Repetition) : Parser ι κ (List α) := fun x =>
  repeatedFrom p range x (max range.least (left x + 1) + 1) 0 x

/-- Goes on with delimiters and elements behind an element, for at most so many rounds.  A delimiter without an element
behind it fails the list that began at `start`. -/
def separatedFrom (p : Parser ι κ α) (delimiter : Parser ι ν β) (start : ι) : Nat → ι → Outcome κ ι (List α)
  | 0, _ => .aborted .endless
  | rounds + 1, x =>
    match delimiter x with
    | .failure _ _ => .success [] x
    | .aborted why => .aborted why
    | .success _ behind =>
      match p behind with
      | .success value rest =>
        if samePosition rest x then .success [value] rest
        else (separatedFrom p delimiter start rounds rest).map (value :: ·)
      | .failure fault _ => .failure fault start
      | .aborted why => .aborted why

/-- Matches one or more `p` with delimiters between them, and yields the values of `p` in order.  The causes of the
delimiter may be of any type. -/
def separated (p : Parser ι κ α) (delimiter : Parser ι ν β) : Parser ι κ (List α) := fun x =>
  (p x).andThen fun first rest => (separatedFrom p delimiter x (left x + 2) rest).map (first :: ·)

end Parsing.Parser
