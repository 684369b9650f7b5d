import GoProbe.Json.Reader

/-!
# TOML strings

A string stands in double quotes with escapes or in single quotes without, on one line between
single delimiters or on several between triple ones. All readers start behind the opening
delimiter and end behind the closing one.
-/

namespace GoProbe.Toml

open Json (hexValue? hexCode?)

/-- Control characters other than the tab. -/
def isControl (c : Char) : Bool :=
  (c.toNat < 0x20 && c != '\t') || c.toNat == 0x7f

def isBlank (c : Char) : Bool :=
  c == ' ' || c == '\t'

/-- The character of a code, unless the code is half of a surrogate pair or too large. -/
def scalarChar? (code : Nat) : Option Char :=
  if code < 0xd800 || (0xdfff < code && code < 0x110000) then some (Char.ofNat code) else none

/-- The character of an escape of one letter. -/
def shortEscape? : Char → Option Char
  | 'b' => some '\x08'
  | 't' => some '\t'
  | 'n' => some '\n'
  | 'f' => some '\x0c'
  | 'r' => some '\r'
  | 'e' => some '\x1b'
  | '"' => some '"'
  | '\\' => some '\\'
  | _ => none

/-! ## One line -/

/-- The rest of a string in double quotes. -/
def basicBody : List Char → Option (List Char × List Char)
  | '"' :: rest => some ([], rest)
  | '\\' :: 'x' :: a :: b :: rest => do
    let char ← scalarChar? (← hexCode? '0' '0' a b)
    let (text, rest) ← basicBody rest
    return (char :: text, rest)
  | '\\' :: 'u' :: a :: b :: c :: d :: rest => do
    let char ← scalarChar? (← hexCode? a b c d)
    let (text, rest) ← basicBody rest
    return (char :: text, rest)
  | '\\' :: 'U' :: a :: b :: c :: d :: e :: f :: g :: h :: rest => do
    let char ← scalarChar? ((← hexCode? a b c d) * 0x10000 + (← hexCode? e f g h))
    let (text, rest) ← basicBody rest
    return (char :: text, rest)
  | '\\' :: e :: rest => do
    let char ← shortEscape? e
    let (text, rest) ← basicBody rest
    return (char :: text, rest)
  | c :: rest =>
    if isControl c || c == '\\' then none
    else do
      let (text, rest) ← basicBody rest
      return (c :: text, rest)
  | [] => none

/-- The rest of a string in single quotes. -/
def literalBody : List Char → Option (List Char × List Char)
  | '\x27' :: rest => some ([], rest)
  | c :: rest =>
    if isControl c then none
    else do
      let (text, rest) ← literalBody rest
      return (c :: text, rest)
  | [] => none

/-! ## Several lines -/

/-- A text without a line break at its start. -/
def dropBreak : List Char → List Char
  | '\n' :: rest => rest
  | '\r' :: '\n' :: rest => rest
  | text => text

/-- Whether only blanks stand before the next line break. -/
def breaksLine (text : List Char) : Bool :=
  match text.dropWhile isBlank with
  | '\n' :: _ => true
  | '\r' :: '\n' :: _ => true
  | _ => false

/-- The quotes before the closing delimiter and the text behind it, if the text starts with a run of
at least three quotes: two quotes at most can stand before the delimiter. -/
def closing? (quote : Char) : List Char → Option (List Char × List Char)
  | a :: b :: c :: rest =>
    if a == quote && b == quote && c == quote then
      match rest with
      | d :: e :: rest =>
        if d == quote && e == quote then some ([quote, quote], rest)
        else if d == quote then some ([quote], e :: rest)
        else some ([], d :: e :: rest)
      | [d] => if d == quote then some ([quote], []) else some ([], [d])
      | [] => some ([], [])
    else none
  | _ => none

/-- The rest of a string in triple double quotes. Behind a backslash that ends a line, `joining`
skips blanks and line breaks. -/
def basicLines (joining : Bool) : List Char → Option (List Char × List Char)
  | [] => none
  | c :: rest =>
    match closing? '"' (c :: rest) with
    | some found => some found
    | none =>
      if joining && (isBlank c || c == '\n') then basicLines true rest
      else
        match c, rest with
        | '\r', '\n' :: rest => do
          if joining then basicLines true rest
          else
            let (text, rest) ← basicLines false rest
            return ('\r' :: '\n' :: text, rest)
        | '\\', 'x' :: a :: b :: rest => do
          let char ← scalarChar? (← hexCode? '0' '0' a b)
          let (text, rest) ← basicLines false rest
          return (char :: text, rest)
        | '\\', 'u' :: a :: b :: c :: d :: rest => do
          let char ← scalarChar? (← hexCode? a b c d)
          let (text, rest) ← basicLines false rest
          return (char :: text, rest)
        | '\\', 'U' :: a :: b :: c :: d :: e :: f :: g :: h :: rest => do
          let char ← scalarChar? ((← hexCode? a b c d) * 0x10000 + (← hexCode? e f g h))
          let (text, rest) ← basicLines false rest
          return (char :: text, rest)
        | '\\', e :: more => do
          if breaksLine (e :: more) then basicLines true (e :: more)
          else
            let char ← shortEscape? e
            let (text, rest) ← basicLines false more
            return (char :: text, rest)
        | c, rest => do
          if (isControl c && c != '\n') || c == '\\' then none
          else
            let (text, rest) ← basicLines false rest
            return (c :: text, rest)

/-- The rest of a string in triple single quotes. -/
def literalLines : List Char → Option (List Char × List Char)
  | [] => none
  | '\r' :: '\n' :: rest => do
    let (text, rest) ← literalLines rest
    return ('\r' :: '\n' :: text, rest)
  | c :: rest =>
    match closing? '\x27' (c :: rest) with
    | some found => some found
    | none =>
      if isControl c && c != '\n' then none
      else do
        let (text, rest) ← literalLines rest
        return (c :: text, rest)

/-- A string of any form. -/
def string? : List Char → Option (String × List Char)
  | '"' :: '"' :: '"' :: rest => (basicLines false (dropBreak rest)).map toText
  | '"' :: rest => (basicBody rest).map toText
  | '\x27' :: '\x27' :: '\x27' :: rest => (literalLines (dropBreak rest)).map toText
  | '\x27' :: rest => (literalBody rest).map toText
  | _ => none
where
  toText (found : List Char × List Char) : String × List Char := (String.ofList found.1, found.2)

end GoProbe.Toml
