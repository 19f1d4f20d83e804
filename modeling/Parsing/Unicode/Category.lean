import Parsing.Unicode.Letters
import Parsing.Unicode.Marks
import Parsing.Unicode.Signs
/-!
# General categories — the one class that each character has

Every code point belongs to one category; the tables give it for the assigned ones (as of Unicode 15.1), and all others
are unassigned.
-/
namespace Parsing.Unicode

/-- The general categories of characters. -/
inductive Category where
  | unassigned
  | uppercaseLetter
  | lowercaseLetter
  | titlecaseLetter
  | modifierLetter
  | otherLetter
  | nonspacingMark
  | spacingMark
  | enclosingMark
  | decimalNumber
  | letterNumber
  | otherNumber
  | spaceSeparator
  | lineSeparator
  | paragraphSeparator
  | control
  | format
  | privateUse
  | surrogate
  | dashPunctuation
  | openPunctuation
  | closePunctuation
  | connectorPunctuation
  | initialPunctuation
  | finalPunctuation
  | otherPunctuation
  | mathSymbol
  | currencySymbol
  | modifierSymbol
  | otherSymbol
deriving DecidableEq, Repr

namespace Category

/-- The tables of the categories, apart from the ranges in which capitals and small letters take turns. -/
def tables : List (Category × Ranges) :=
  [(uppercaseLetter, uppercaseLetters), (lowercaseLetter, lowercaseLetters), (titlecaseLetter, titlecaseLetters),
   (modifierLetter, modifierLetters), (otherLetter, otherLetters), (nonspacingMark, nonspacingMarks),
   (spacingMark, spacingMarks), (enclosingMark, enclosingMarks), (decimalNumber, decimalNumbers),
   (letterNumber, letterNumbers), (otherNumber, otherNumbers), (spaceSeparator, spaceSeparators),
   (lineSeparator, lineSeparators), (paragraphSeparator, paragraphSeparators), (control, controls),
   (format, formats), (privateUse, Unicode.privateUse), (surrogate, surrogates),
   (dashPunctuation, Unicode.dashPunctuation), (openPunctuation, Unicode.openPunctuation),
   (closePunctuation, Unicode.closePunctuation), (connectorPunctuation, Unicode.connectorPunctuation),
   (initialPunctuation, Unicode.initialPunctuation), (finalPunctuation, Unicode.finalPunctuation),
   (otherPunctuation, Unicode.otherPunctuation), (mathSymbol, mathSymbols), (currencySymbol, currencySymbols),
   (modifierSymbol, modifierSymbols), (otherSymbol, otherSymbols)]

/-- The category of a character. -/
def of (c : Char) : Category :=
  match capitalsAndSmalls.find? c.toNat with
  | some (first, _) => if (c.toNat - first) % 2 = 0 then uppercaseLetter else lowercaseLetter
  | none => ((tables.find? fun table => table.2.contains c).map (·.1)).getD unassigned

def isLetter : Category → Bool
  | uppercaseLetter | lowercaseLetter | titlecaseLetter | modifierLetter | otherLetter => true
  | _ => false

def isNumber : Category → Bool
  | decimalNumber | letterNumber | otherNumber => true
  | _ => false

/-- Letters and the numbers that look like letters. -/
def isLetterlike (category : Category) : Bool := category.isLetter || category == letterNumber

end Category
end Parsing.Unicode
