import Parsing.Parser.Repeat
import Parsing.Cause.Text
/-!
# Parsers of text — characters, literals, line breaks, blanks
-/
namespace Parsing.Parser

variable {ι : Type} [Cursor ι Char]

/-- Matches one given character. -/
def character (c : Char) : Parser ι TextCause Char := exactly c (.expected c)

/-- Matches a string, character by character. -/
def string (s : String) : Parser ι TextCause String := literal s.toList .expected s

/-- Matches one line break: CR LF, LF, or CR. -/
def newline : Parser ι TextCause Unit :=
  ((character '\r').andThen (character '\n')).withValue ()
    |>.orElse ((character '\n').withValue () |>.orElse ((character '\r').withValue ()))

/-- Matches any number of blank characters. -/
def blanks : Parser ι TextCause Unit :=
  ((satisfying Unicode.isWhiteSpace).repeated .any).withValue ()

end Parsing.Parser
