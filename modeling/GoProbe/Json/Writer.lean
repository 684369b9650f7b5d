import GoProbe.Json.Basic

/-!
# Writing JSON

Two layouts of a value: `compact` on one line without blanks, and `pretty` with one item a line,
two blanks of indentation a level and empty containers closed at once. Strings are written with
the shortest escape of quotes, backslashes and control characters; every other character stands
for itself.
-/

namespace GoProbe.Json

/-- The hexadecimal digit of a number below sixteen, in lower case. -/
def hexDigit (n : Nat) : Char :=
  (Nat.digitChar (n % 16))

/-- A character as it stands inside a string literal. -/
def escape (c : Char) : List Char :=
  match c with
  | '"' => ['\\', '"']
  | '\\' => ['\\', '\\']
  | '\x08' => ['\\', 'b']
  | '\x0c' => ['\\', 'f']
  | '\n' => ['\\', 'n']
  | '\r' => ['\\', 'r']
  | '\t' => ['\\', 't']
  | c =>
    if c.toNat < 0x20 then ['\\', 'u', '0', '0', hexDigit (c.toNat / 16), hexDigit c.toNat]
    else [c]

/-- A string literal with its quotes. -/
def quoted (text : String) : List Char :=
  '"' :: text.toList.flatMap escape ++ ['"']

/-- A value that holds no other values. A garbled value is written as the empty string: no
reader hands one to a writer. -/
def scalarChars : Json → List Char
  | .bool true => "true".toList
  | .bool false => "false".toList
  | .int value => (toString value).toList
  | .decimal text => text.toList
  | .string value => quoted value
  | .garbled => quoted ""
  | _ => "null".toList

/-! ## One line -/

mutual

def compactChars : Json → List Char
  | .array items => '[' :: compactItems items ++ [']']
  | .object members => '{' :: compactMembers members ++ ['}']
  | value => scalarChars value

def compactItems : List Json → List Char
  | [] => []
  | [item] => compactChars item
  | item :: rest => compactChars item ++ ',' :: compactItems rest

def compactMembers : List (String × Json) → List Char
  | [] => []
  | [(name, value)] => quoted name ++ ':' :: compactChars value
  | (name, value) :: rest => quoted name ++ ':' :: compactChars value ++ ',' :: compactMembers rest

end

/-- The value on one line. -/
def compact (value : Json) : String :=
  String.ofList (compactChars value)

/-! ## One item a line -/

/-- A line break and the blanks of `level` levels. -/
def breakTo (level : Nat) : List Char :=
  '\n' :: List.replicate (2 * level) ' '

mutual

def prettyChars (level : Nat) : Json → List Char
  | .array [] => ['[', ']']
  | .array items => '[' :: prettyItems (level + 1) items ++ breakTo level ++ [']']
  | .object [] => ['{', '}']
  | .object members => '{' :: prettyMembers (level + 1) members ++ breakTo level ++ ['}']
  | value => scalarChars value

def prettyItems (level : Nat) : List Json → List Char
  | [] => []
  | [item] => breakTo level ++ prettyChars level item
  | item :: rest => breakTo level ++ prettyChars level item ++ ',' :: prettyItems level rest

def prettyMembers (level : Nat) : List (String × Json) → List Char
  | [] => []
  | [(name, value)] => breakTo level ++ quoted name ++ ':' :: ' ' :: prettyChars level value
  | (name, value) :: rest =>
    breakTo level ++ quoted name ++ ':' :: ' ' :: prettyChars level value ++
      ',' :: prettyMembers level rest

end

/-- The value with one item a line. -/
def pretty (value : Json) : String :=
  String.ofList (prettyChars 0 value)

end GoProbe.Json
