/-!
# Causes — why a parser fails

Combinators that know nothing of a grammar can fail for four reasons, the `Mismatch`es.  A type of causes says how it
expresses each of them (`Cause`), and may have causes of its own beside them.

A seed is a cause still without a position: what a mapping returns to reject a value.  `Seed ζ κ` makes seeds of one
type into causes of another.
-/
namespace Parsing

/-- The reasons for which a parser that knows only symbols and positions fails. -/
inductive Mismatch where
  /-- The input ended where a symbol was needed. -/
  | moreNeeded
  /-- The input went on where its end was needed. -/
  | endExpected
  /-- The symbol at hand is not one of those allowed. -/
  | invalid
  /-- A pattern matched that must not. -/
  | excluded
deriving DecidableEq, Repr

/-- A type of causes has one for each mismatch.  One without a word of its own for an excluded pattern reports it as
invalid input. -/
class Cause (κ : Type) where
  moreNeeded : κ
  endExpected : κ
  invalid : κ
  excluded : κ := invalid

/-- A mismatch in the words of a type of causes. -/
def Mismatch.cause {κ : Type} [Cause κ] : Mismatch → κ
  | moreNeeded => Cause.moreNeeded
  | endExpected => Cause.endExpected
  | invalid => Cause.invalid
  | excluded => Cause.excluded

/-- Seeds of one type stand for causes of another. -/
class Seed (ζ κ : Type) where
  cause : ζ → κ

instance {κ : Type} [Cause κ] : Seed Mismatch κ := ⟨Mismatch.cause⟩

/-- A mapping that never rejects has no seeds. -/
instance {κ : Type} : Seed Empty κ := ⟨Empty.elim⟩

/-- The smallest type of causes. -/
inductive PlainCause where
  | moreNeeded
  | endExpected
  | invalid
deriving DecidableEq, Repr

instance : Cause PlainCause where
  moreNeeded := .moreNeeded
  endExpected := .endExpected
  invalid := .invalid

/-- **A plain cause reports an excluded pattern as invalid input.** -/
theorem PlainCause.excluded_eq_invalid : (Cause.excluded : PlainCause) = .invalid := rfl

end Parsing
