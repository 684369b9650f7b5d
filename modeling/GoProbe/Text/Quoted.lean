import GoProbe.Text.Extender
import GoProbe.Text.Unprintable

/-!
# Quoted texts in messages

A text in double quotes on one line, so that a reader of a message sees every character: quotes,
backslashes, common control characters and NUL have short escapes, and whatever does not print by
itself is written by its code.
-/

namespace GoProbe.Text

/-- The lower-case hexadecimal digits of a number. -/
def hex (n : Nat) : String :=
  String.ofList (Nat.toDigits 16 n)

/-- A character as it stands in a quoted text. -/
def shown (c : Char) : String :=
  match c with
  | '"' => "\\\""
  | '\\' => "\\\\"
  | '\n' => "\\n"
  | '\r' => "\\r"
  | '\t' => "\\t"
  | '\x00' => "\\0"
  | c =>
    if isExtender c || isUnprintable c then "\\u\x7b" ++ hex c.toNat ++ "\x7d"
    else String.singleton c

/-- The text with its quotes. -/
def quoted (text : String) : String :=
  "\"" ++ String.join (text.toList.map shown) ++ "\""

end GoProbe.Text
