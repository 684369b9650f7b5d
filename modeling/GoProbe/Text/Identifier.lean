import GoProbe.Text.Alphabetic
import GoProbe.Text.Numeric

/-!
# Go identifiers
-/

namespace GoProbe.Text

/-- Whether a character may start an identifier. -/
def startsIdentifier (c : Char) : Bool :=
  c == '_' || isAlphabetic c

/-- Whether a character may stand in an identifier after its start. -/
def continuesIdentifier (c : Char) : Bool :=
  c == '_' || isAlphabetic c || isNumeric c

/-- Whether a text is an identifier: a letter or underscore, then letters, digits or underscores. -/
def isIdentifier (text : String) : Bool :=
  match text.toList with
  | [] => false
  | first :: rest => startsIdentifier first && rest.all continuesIdentifier

end GoProbe.Text
