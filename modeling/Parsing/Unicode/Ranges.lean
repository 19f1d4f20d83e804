/-!
# Ranges — sets of characters as lists of intervals
-/
namespace Parsing.Unicode

/-- Intervals of code points in rising order, both ends included. -/
abbrev Ranges := List (Nat × Nat)

namespace Ranges

/-- The interval that holds a code point. -/
def find? (ranges : Ranges) (code : Nat) : Option (Nat × Nat) :=
  List.find? (fun (first, last) => first ≤ code && code ≤ last) ranges

/-- Whether a character lies in one of the intervals. -/
def contains (ranges : Ranges) (c : Char) : Bool :=
  ranges.any fun (first, last) => first ≤ c.toNat && c.toNat ≤ last

/-- **Ranges hold what some interval of theirs holds.** -/
theorem contains_iff (ranges : Ranges) (c : Char) :
    ranges.contains c = true ↔ ∃ range ∈ ranges, range.1 ≤ c.toNat ∧ c.toNat ≤ range.2 := by
  simp [contains]

end Ranges
end Parsing.Unicode
