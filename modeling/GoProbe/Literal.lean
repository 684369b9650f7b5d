/-!
# Interpreted string literals of Go

`quote` writes a text as a double-quoted literal on one line. A control character below U+0080 is
written as its byte (`\x1b`), one above as its code point (`\u0085`), since `\x` denotes a single
byte; everything else but quotes and backslashes stands for itself.
-/

namespace GoProbe.Literal

/-- The Unicode category of control characters. -/
def isControl (c : Char) : Bool :=
  c.toNat < 0x20 || (0x7f ≤ c.toNat && c.toNat < 0xa0)

/-- The low `width` hexadecimal digits of a number, in lower case. -/
def hexDigits : (width : Nat) → Nat → List Char
  | 0, _ => []
  | width + 1, n => hexDigits width (n / 16) ++ [Nat.digitChar (n % 16)]

/-- A character inside an interpreted literal. -/
def escape (c : Char) : List Char :=
  match c with
  | '"' => ['\\', '"']
  | '\\' => ['\\', '\\']
  | '\n' => ['\\', 'n']
  | '\r' => ['\\', 'r']
  | '\t' => ['\\', 't']
  | c =>
    if isControl c then
      if c.toNat < 0x80 then '\\' :: 'x' :: hexDigits 2 c.toNat
      else '\\' :: 'u' :: hexDigits 4 c.toNat
    else [c]

/-- The literal that denotes `text`. -/
def quote (text : String) : String :=
  String.ofList ('"' :: text.toList.flatMap escape ++ ['"'])

end GoProbe.Literal
