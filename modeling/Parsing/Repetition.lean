/-!
# Repetition ranges — how often a parser may match

A range of counts is given by two bounds over 64-bit counts, each included, excluded or missing, and kept with both ends
included.  An excluded lower bound moves up by one, staying at the largest count when it is there already; an excluded
upper bound moves down by one, and excluding zero leaves zero, which allows no match at all.
-/
namespace Parsing

/-- One end of a range of counts. -/
inductive Bound where
  | included (count : UInt64)
  | excluded (count : UInt64)
  | unbounded
deriving DecidableEq, Repr

/-- The largest 64-bit count. -/
def largestCount : Nat := UInt64.size - 1

/-- The least count a lower bound allows. -/
def Bound.least : Bound → Nat
  | included count => count.toNat
  | excluded count => min (count.toNat + 1) largestCount
  | unbounded => 0

/-- The greatest count an upper bound allows, if it sets one. -/
def Bound.greatest? : Bound → Option Nat
  | included count => some count.toNat
  | excluded count => some (count.toNat - 1)
  | unbounded => none

/-- The counts from a least to a greatest one, both included, or without a greatest one. -/
structure Repetition where
  least : Nat
  greatest? : Option Nat
  least_le : ∀ greatest ∈ greatest?, least ≤ greatest

/-- Two bounds between which there is no count. -/
structure EmptyRange where
  least : Nat
  greatest : Nat
deriving DecidableEq, Repr

def EmptyRange.message (e : EmptyRange) : String := s!"empty repetition range {e.least}..={e.greatest}"

namespace Repetition

/-- The counts between two bounds. -/
def ofBounds (lower upper : Bound) : Except EmptyRange Repetition :=
  match h : upper.greatest? with
  | none => .ok ⟨lower.least, none, by simp⟩
  | some greatest =>
    if hle : lower.least ≤ greatest then .ok ⟨lower.least, some greatest, by simpa using hle⟩
    else .error ⟨lower.least, greatest⟩

/-- So many times or more. -/
def atLeast (count : Nat) : Repetition := ⟨count, none, by simp⟩

/-- Any number of times. -/
def any : Repetition := atLeast 0

/-- At most so many times. -/
def atMost (count : Nat) : Repetition := ⟨0, some count, by simp⟩

/-- Just so many times. -/
def times (count : Nat) : Repetition := ⟨count, some count, by simp⟩

/-- Whether no further match is allowed after so many. -/
def isFull (r : Repetition) (count : Nat) : Bool := r.greatest?.any (· ≤ count)

/-- **A range is refused exactly when its least count is above its greatest.** -/
theorem ofBounds_eq_error_iff {lower upper : Bound} {e : EmptyRange} :
    ofBounds lower upper = .error e ↔
      lower.least = e.least ∧ upper.greatest? = some e.greatest ∧ e.greatest < e.least := by
  obtain ⟨least, greatest⟩ := e
  unfold ofBounds
  split
  · rename_i h
    simp [h]
  · rename_i g h
    split
    · rename_i hle
      simp only [h, reduceCtorEq, false_iff]
      rintro ⟨rfl, hg, hlt⟩
      injection hg with hg
      omega
    · rename_i hle
      simp only [h, Except.error.injEq, EmptyRange.mk.injEq, Option.some.injEq]
      constructor
      · rintro ⟨rfl, rfl⟩
        exact ⟨rfl, rfl, by omega⟩
      · rintro ⟨rfl, rfl, _⟩
        exact ⟨rfl, rfl⟩

end Repetition
end Parsing
