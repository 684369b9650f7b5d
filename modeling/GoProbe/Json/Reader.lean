import GoProbe.Json.Basic

/-!
# Reading JSON

`parse` reads one value with blanks around it and nothing else. The grammar is strict: no trailing
comma, no comment, no leading zero, no raw control character in a string, no byte order mark.

Every reader takes the text that is left and returns what it read together with the rest. The
readers of values call one another, so they take a bound on the number of calls; `parse` passes
one that the length of the text cannot exceed.
-/

namespace GoProbe.Json

/-- Blank, tab, line feed and carriage return. -/
def isBlank (c : Char) : Bool :=
  c == ' ' || c == '\n' || c == '\t' || c == '\r'

/-- The text after its leading blanks. -/
def skipBlanks (text : List Char) : List Char :=
  text.dropWhile isBlank

/-! ## Strings -/

/-- The value of a hexadecimal digit of either case. -/
def hexValue? (c : Char) : Option Nat :=
  if '0' ≤ c ∧ c ≤ '9' then some (c.toNat - '0'.toNat)
  else if 'a' ≤ c ∧ c ≤ 'f' then some (c.toNat - 'a'.toNat + 10)
  else if 'A' ≤ c ∧ c ≤ 'F' then some (c.toNat - 'A'.toNat + 10)
  else none

/-- The number that four hexadecimal digits spell. -/
def hexCode? (a b c d : Char) : Option Nat := do
  return (((← hexValue? a) * 16 + (← hexValue? b)) * 16 + (← hexValue? c)) * 16 + (← hexValue? d)

/-- The character of an escape of one letter. -/
def shortEscape? : Char → Option Char
  | '"' => some '"'
  | '\\' => some '\\'
  | '/' => some '/'
  | 'b' => some '\x08'
  | 'f' => some '\x0c'
  | 'n' => some '\n'
  | 'r' => some '\r'
  | 't' => some '\t'
  | _ => none

/-- Whether a code is the first half of a surrogate pair. -/
def isHighHalf (code : Nat) : Bool :=
  0xd800 ≤ code && code < 0xdc00

/-- Whether a code is the second half of a surrogate pair. -/
def isLowHalf (code : Nat) : Bool :=
  0xdc00 ≤ code && code < 0xe000

/-- The character of a surrogate pair. -/
def pairChar (high low : Nat) : Char :=
  Char.ofNat (0x10000 + (high - 0xd800) * 0x400 + (low - 0xdc00))

/-- What one item of a string literal denotes: a character, or half of a surrogate pair. -/
inductive Glyph where
  | char (c : Char)
  | half (code : Nat)
deriving DecidableEq

/-- The item that an escape of four hexadecimal digits denotes. -/
def Glyph.ofCode (code : Nat) : Glyph :=
  if isHighHalf code || isLowHalf code then .half code else .char (Char.ofNat code)

/-- Reads the items up to the closing quote. -/
def stringBody : List Char → Option (List Glyph × List Char)
  | '"' :: rest => some ([], rest)
  | '\\' :: 'u' :: a :: b :: c :: d :: rest => do
    let code ← hexCode? a b c d
    let (glyphs, rest) ← stringBody rest
    return (.ofCode code :: glyphs, rest)
  | '\\' :: e :: rest => do
    let c ← shortEscape? e
    let (glyphs, rest) ← stringBody rest
    return (.char c :: glyphs, rest)
  | c :: rest =>
    if c.toNat < 0x20 || c == '\\' then none
    else do
      let (glyphs, rest) ← stringBody rest
      return (.char c :: glyphs, rest)
  | [] => none

/-- The text of the items, or `none` if a half stands without its other half. -/
def assemble : List Glyph → Option (List Char)
  | [] => some []
  | .char c :: rest => (assemble rest).map (c :: ·)
  | .half high :: .half low :: rest =>
    if isHighHalf high && isLowHalf low then (assemble rest).map (pairChar high low :: ·) else none
  | .half _ :: _ => none

/-- The text of a string literal whose opening quote has been read; `none` inside if the literal
names no text. -/
def stringLiteral (text : List Char) : Option (Option String × List Char) := do
  let (glyphs, rest) ← stringBody text
  return ((assemble glyphs).map String.ofList, rest)

/-! ## Numerals -/

/-- The leading decimal digits and what follows them. -/
def digits (text : List Char) : List Char × List Char :=
  text.span Char.isDigit

/-- The number that decimal digits spell. -/
def digitsValue (ds : List Char) : Nat :=
  ds.foldl (fun n d => n * 10 + (d.toNat - '0'.toNat)) 0

/-- An integer part: a lone zero, or digits that do not start with zero. -/
def integerPart : List Char → Option (List Char × List Char)
  | '0' :: rest => some (['0'], rest)
  | text =>
    match digits text with
    | ([], _) => none
    | found => some found

/-- A point with at least one digit, or nothing. -/
def fractionPart : List Char → Option (List Char × List Char)
  | '.' :: rest =>
    match digits rest with
    | ([], _) => none
    | (ds, rest) => some ('.' :: ds, rest)
  | rest => some ([], rest)

/-- The digits of an exponent after its sign. -/
def exponentDigits (mark : List Char) (rest : List Char) : Option (List Char × List Char) :=
  match digits rest with
  | ([], _) => none
  | (ds, rest) => some (mark ++ ds, rest)

/-- An exponent with at least one digit, or nothing. -/
def exponentPart : List Char → Option (List Char × List Char)
  | e :: sign :: rest =>
    if e == 'e' || e == 'E' then
      if sign == '+' || sign == '-' then exponentDigits [e, sign] rest
      else exponentDigits [e] (sign :: rest)
    else some ([], e :: sign :: rest)
  | [e] => if e == 'e' || e == 'E' then none else some ([], [e])
  | [] => some ([], [])

/-- A numeral without its sign. -/
def numeral (negative : Bool) (text : List Char) : Option (Json × List Char) := do
  let (whole, rest) ← integerPart text
  let (fraction, rest) ← fractionPart rest
  let (exponent, rest) ← exponentPart rest
  let value := digitsValue whole
  if fraction.isEmpty && exponent.isEmpty && !(negative && value == 0) then
    return (.int (if negative then -(value : Int) else value), rest)
  else
    let sign := if negative then ['-'] else []
    return (.decimal (String.ofList (sign ++ whole ++ fraction ++ exponent)), rest)

/-! ## Values -/

/-- The name of a member together with its value, or `none` for a name that is no text. -/
abbrev Member := Option String × Json

/-- An object, garbled if one of its names is. -/
def ofMembers (members : List Member) : Json :=
  match members.mapM fun m => m.1.map (·, m.2) with
  | some members => .object members
  | none => .garbled

mutual

def value : Nat → List Char → Option (Json × List Char)
  | 0, _ => none
  | calls + 1, text =>
    match skipBlanks text with
    | 'n' :: 'u' :: 'l' :: 'l' :: rest => some (.null, rest)
    | 't' :: 'r' :: 'u' :: 'e' :: rest => some (.bool true, rest)
    | 'f' :: 'a' :: 'l' :: 's' :: 'e' :: rest => some (.bool false, rest)
    | '"' :: rest => do
      let (content, rest) ← stringLiteral rest
      return (match content with | some text => .string text | none => .garbled, rest)
    | '[' :: rest =>
      match skipBlanks rest with
      | ']' :: rest => some (.array [], rest)
      | rest => do
        let (items, rest) ← items calls rest
        return (.array items, rest)
    | '{' :: rest =>
      match skipBlanks rest with
      | '}' :: rest => some (.object [], rest)
      | rest => do
        let (members, rest) ← members calls rest
        return (ofMembers members, rest)
    | '-' :: rest => numeral true rest
    | rest => numeral false rest

/-- One or more items and the closing bracket. -/
def items : Nat → List Char → Option (List Json × List Char)
  | 0, _ => none
  | calls + 1, text => do
    let (item, rest) ← value calls text
    match skipBlanks rest with
    | ',' :: rest =>
      let (more, rest) ← items calls rest
      return (item :: more, rest)
    | ']' :: rest => return ([item], rest)
    | _ => none

/-- One or more members and the closing brace. -/
def members : Nat → List Char → Option (List Member × List Char)
  | 0, _ => none
  | calls + 1, text =>
    match skipBlanks text with
    | '"' :: rest => do
      let (name, rest) ← stringLiteral rest
      match skipBlanks rest with
      | ':' :: rest =>
        let (item, rest) ← value calls rest
        let member : Member := (name, item)
        match skipBlanks rest with
        | ',' :: rest =>
          let (more, rest) ← members calls rest
          return (member :: more, rest)
        | '}' :: rest => return ([member], rest)
        | _ => none
      | _ => none
    | _ => none

end

/-! ## Blanks and brackets -/

theorem skipBlanks_cons {c : Char} (h : isBlank c = false) (text : List Char) :
    skipBlanks (c :: text) = c :: text := by
  simp [skipBlanks, h]

/-- Blanks before a value do not matter. -/
theorem value_congr {text other : List Char} (h : skipBlanks text = skipBlanks other)
    (calls : Nat) : value calls text = value calls other := by
  cases calls with
  | zero => rw [value, value]
  | succ calls => rw [value, value, h]

theorem items_congr {text other : List Char} (h : skipBlanks text = skipBlanks other)
    (calls : Nat) : items calls text = items calls other := by
  cases calls with
  | zero => rw [items, items]
  | succ calls => rw [items, items, value_congr h]

theorem members_congr {text other : List Char} (h : skipBlanks text = skipBlanks other)
    (calls : Nat) : members calls text = members calls other := by
  cases calls with
  | zero => rw [members, members]
  | succ calls => rw [members, members, h]

/-- A list of items does not start with the bracket that closes it. -/
theorem items_closeBracket (calls : Nat) (rest : List Char) : items calls (']' :: rest) = none := by
  have hdigits : digits (']' :: rest) = ([], ']' :: rest) := rfl
  rcases calls with - | - | calls
  · rw [items]
  · rw [items, value]
    rfl
  · simp [items, value, skipBlanks_cons, isBlank, numeral, integerPart, hdigits]

theorem members_closeBrace (calls : Nat) (rest : List Char) :
    members calls ('}' :: rest) = none := by
  cases calls with
  | zero => rw [members]
  | succ calls => simp [members, skipBlanks_cons, isBlank]

/-! ## Whole texts -/

/-- The value that a text spells, or `none` if the text is not JSON. -/
def parse (text : String) : Option Json :=
  let chars := text.toList
  match value (2 * chars.length + 2) chars with
  | some (result, rest) => if (skipBlanks rest).isEmpty then some result else none
  | none => none

end GoProbe.Json
