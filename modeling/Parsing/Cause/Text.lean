import Parsing.Cause
import Parsing.Printing.Quoted
/-!
# Causes over text — mismatches, an expected character, or a message
-/
namespace Parsing

/-- Why a parser of text fails. -/
inductive TextCause where
  | general (mismatch : Mismatch)
  | expected (c : Char)
  | custom (text : String)
deriving DecidableEq, Repr

namespace TextCause

instance : Cause TextCause where
  moreNeeded := .general .moreNeeded
  endExpected := .general .endExpected
  invalid := .general .invalid
  excluded := .general .excluded

instance : Seed TextCause TextCause := ⟨id⟩

/-- A string rejects with itself as the message. -/
instance : Seed String TextCause := ⟨custom⟩

/-- The wording of a cause. -/
def message : TextCause → String
  | general .moreNeeded => "unexpected end of input"
  | general .endExpected => "expected end of input"
  | general .invalid => "invalid input"
  | general .excluded => "matched an excluded pattern"
  | expected c => "expected " ++ String.ofList (Printing.quoted c)
  | custom text => text

/-- **Over text every mismatch keeps its name.** -/
theorem cause_eq_general (m : Mismatch) : (m.cause : TextCause) = .general m := by
  cases m <;> rfl

end TextCause
end Parsing
