import Parsing.Unicode.Category
import Parsing.Unicode.Contributory
/-!
# Properties — sets of characters and what is composed of them

A `Trait` is a set of characters that the tables give: a property that each character has or has not, or a general
category.  A `Property` is composed of members of any such family by complement, intersection and union.
-/
namespace Parsing.Unicode

/-- Small letters, and the characters used as such. -/
def isLowercase (c : Char) : Bool := Category.of c == .lowercaseLetter || lowercaseOthers.contains c

/-- Capital letters, and the characters used as such. -/
def isUppercase (c : Char) : Bool := Category.of c == .uppercaseLetter || uppercaseOthers.contains c

/-- Letters, letterlike numbers, and what is written as part of words. -/
def isAlphabetic (c : Char) : Bool := (Category.of c).isLetterlike || alphabeticOthers.contains c

/-- Alphabetic characters and numbers of all kinds. -/
def isAlphanumeric (c : Char) : Bool := isAlphabetic c || (Category.of c).isNumber

def isWhiteSpace (c : Char) : Bool := whiteSpace.contains c

def isMath (c : Char) : Bool := Category.of c == .mathSymbol || mathOthers.contains c

def isDash (c : Char) : Bool := Category.of c == .dashPunctuation || dashOthers.contains c

/-- Whether a character extends the grapheme it follows. -/
def isGraphemeExtend (c : Char) : Bool :=
  match Category.of c with
  | .nonspacingMark | .enclosingMark => true
  | _ => graphemeExtendOthers.contains c

/-- Whether a character is kept for syntax, and so has no place in an identifier. -/
def isReserved (c : Char) : Bool := patternSyntax.contains c || patternWhiteSpace.contains c

/-- Characters that may start an identifier. -/
def isIdStart (c : Char) : Bool :=
  ((Category.of c).isLetterlike || identifierStartOthers.contains c) && !isReserved c

/-- Characters that may continue an identifier. -/
def isIdContinue (c : Char) : Bool :=
  isIdStart c ||
    (match Category.of c with
      | .nonspacingMark | .spacingMark | .decimalNumber | .connectorPunctuation => true
      | _ => identifierContinueOthers.contains c) && !isReserved c

/-- Characters that may start an identifier and still do after normalization. -/
def isXidStart (c : Char) : Bool := isIdStart c && !unstableStarts.contains c

/-- Characters that may continue an identifier and still do after normalization. -/
def isXidContinue (c : Char) : Bool := isIdContinue c && !unstableContinues.contains c

/-- A set of characters that the tables give. -/
inductive Trait where
  | alphabetic
  | asciiHexDigit
  | dash
  | emoji
  | hexDigit
  | idContinue
  | idStart
  | ideographic
  | lowercase
  | math
  | patternSyntax
  | patternWhiteSpace
  | quotationMark
  | uppercase
  | whiteSpace
  | xidContinue
  | xidStart
  | category (category : Category)
deriving DecidableEq, Repr

/-- Whether a character has a trait. -/
def Trait.holds : Trait → Char → Bool
  | alphabetic, c => isAlphabetic c
  | asciiHexDigit, c => asciiHexDigits.contains c
  | dash, c => isDash c
  | emoji, c => Unicode.emoji.contains c
  | hexDigit, c => hexDigits.contains c
  | idContinue, c => isIdContinue c
  | idStart, c => isIdStart c
  | ideographic, c => ideographs.contains c
  | lowercase, c => isLowercase c
  | math, c => isMath c
  | patternSyntax, c => Unicode.patternSyntax.contains c
  | patternWhiteSpace, c => Unicode.patternWhiteSpace.contains c
  | quotationMark, c => quotationMarks.contains c
  | uppercase, c => isUppercase c
  | whiteSpace, c => isWhiteSpace c
  | xidContinue, c => isXidContinue c
  | xidStart, c => isXidStart c
  | category kind, c => Category.of c == kind

/-- A set of characters composed of the members of a family. -/
inductive Property (τ : Type) where
  | leaf (member : τ)
  | complement (p : Property τ)
  | intersection (p q : Property τ)
  | union (p q : Property τ)
deriving DecidableEq, Repr

namespace Property

/-- Whether a composed set holds a character, given which characters the members of the family hold. -/
def contains {τ : Type} (holds : τ → Char → Bool) : Property τ → Char → Bool
  | leaf member, c => holds member c
  | complement p, c => !p.contains holds c
  | intersection p q, c => p.contains holds c && q.contains holds c
  | union p q, c => p.contains holds c || q.contains holds c

/-- The union of categories, each joined to those after it. -/
def ofCategories : Category → List Category → Property Trait
  | first, [] => .leaf (.category first)
  | first, second :: more => .union (.leaf (.category first)) (ofCategories second more)

def letter : Property Trait :=
  ofCategories .uppercaseLetter [.lowercaseLetter, .titlecaseLetter, .modifierLetter, .otherLetter]

def mark : Property Trait := ofCategories .nonspacingMark [.spacingMark, .enclosingMark]

def number : Property Trait := ofCategories .decimalNumber [.letterNumber, .otherNumber]

def separator : Property Trait := ofCategories .spaceSeparator [.lineSeparator, .paragraphSeparator]

end Property
end Parsing.Unicode
