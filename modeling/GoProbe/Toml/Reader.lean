import GoProbe.Toml.Scalar
import GoProbe.Toml.Text
import GoProbe.Toml.Value

/-!
# Reading TOML

`parse` reads a document into one table. Readers take the text that is left and return what they
read together with the rest. Values nest, so their readers take a bound on the number of calls,
and a count of the arrays and braces that may still be opened.
-/

namespace GoProbe.Toml

/-! ## Between the tokens -/

def skipBlanks (text : List Char) : List Char :=
  text.dropWhile isBlank

/-- Skips blanks, line breaks and comments; `none` for a comment with a control character. -/
def skipLines (inComment : Bool) : List Char → Option (List Char)
  | [] => some []
  | '\r' :: '\n' :: rest => skipLines false rest
  | '\n' :: rest => skipLines false rest
  | c :: rest =>
    if inComment then
      if isControl c then none else skipLines true rest
    else if isBlank c then skipLines false rest
    else if c == '#' then skipLines true rest
    else some (c :: rest)

/-- Skips blanks and a comment up to and including the end of the line; `none` if anything else
stands there. -/
def endLine (inComment : Bool) : List Char → Option (List Char)
  | [] => some []
  | '\r' :: '\n' :: rest => some rest
  | '\n' :: rest => some rest
  | c :: rest =>
    if inComment then
      if isControl c then none else endLine true rest
    else if isBlank c then endLine false rest
    else if c == '#' then endLine true rest
    else none

/-! ## Keys -/

/-- Whether a character can stand in a key without quotes. -/
def isKeyChar (c : Char) : Bool :=
  c.isAlphanum || c == '_' || c == '-'

/-- One part of a key. -/
def keyPart (text : List Char) : Option (String × List Char) :=
  match text with
  | '"' :: '"' :: '"' :: _ => none
  | '"' :: rest => (basicBody rest).map fun (name, rest) => (String.ofList name, rest)
  | '\x27' :: '\x27' :: '\x27' :: _ => none
  | '\x27' :: rest => (literalBody rest).map fun (name, rest) => (String.ofList name, rest)
  | text =>
    match text.span isKeyChar with
    | ([], _) => none
    | (name, rest) => some (String.ofList name, rest)

/-- How many parts a key may have. -/
def maxParts : Nat := 80

/-- The parts of a key and the text behind it without blanks. -/
def keyParts : Nat → List Char → Option (List String × List Char)
  | 0, _ => none
  | calls + 1, text => do
    let (name, rest) ← keyPart (skipBlanks text)
    match skipBlanks rest with
    | '.' :: rest =>
      let (names, rest) ← keyParts calls rest
      return (name :: names, rest)
    | rest => return ([name], rest)

/-- A key and the text behind it without blanks. -/
def key (calls : Nat) (text : List Char) : Option (List String × List Char) :=
  (keyParts calls text).filter fun (names, _) => names.length ≤ maxParts

/-! ## Values -/

/-- How deep arrays and braces may nest. -/
def maxNesting : Nat := 80

mutual

/-- A value; `room` is how many more levels may be opened. -/
def value : Nat → Nat → List Char → Option (Value × List Char)
  | 0, _, _ => none
  | calls + 1, room, text =>
    match text, room with
    | '[' :: _, 0 => none
    | '{' :: _, 0 => none
    | '[' :: rest, room + 1 => do
      let (items, rest) ← items calls room rest
      return (.array items, rest)
    | '{' :: rest, room + 1 => do
      let (entries, rest) ← members calls room [] rest
      return (.table .inline entries, rest)
    | '"' :: _, _ => (string? text).map fun (content, rest) => (.string content, rest)
    | '\x27' :: _, _ => (string? text).map fun (content, rest) => (.string content, rest)
    | _, _ => do
      let (run, rest) := scalarRun text
      return (← scalar? run, rest)

/-- The items of an array and its closing bracket; a comma may follow the last item. -/
def items : Nat → Nat → List Char → Option (List Value × List Char)
  | 0, _, _ => none
  | calls + 1, room, text => do
    match ← skipLines false text with
    | ']' :: rest => return ([], rest)
    | rest =>
      let (item, rest) ← value calls room rest
      match ← skipLines false rest with
      | ',' :: rest =>
        let (more, rest) ← items calls room rest
        return (item :: more, rest)
      | ']' :: rest => return ([item], rest)
      | _ => none

/-- The entries in braces that follow those in `entries`, and the closing brace. A comma may follow
the last entry, and lines may end anywhere but inside a key or a scalar. -/
def members : Nat → Nat → Entries → List Char → Option (Entries × List Char)
  | 0, _, _, _ => none
  | calls + 1, room, entries, text => do
    match ← skipLines false text with
    | '}' :: rest => return (entries, rest)
    | rest =>
      let (name, rest) ← key calls rest
      match ← skipLines false rest with
      | '=' :: rest =>
        let (item, rest) ← value calls room (← skipLines false rest)
        let entries ← Entries.bind .inline false entries item name
        match ← skipLines false rest with
        | ',' :: rest => members calls room entries rest
        | '}' :: rest => return (entries, rest)
        | _ => none
      | _ => none

end

/-! ## Documents -/

/-- What has been read: the whole table, and the header that the next keys stand under. -/
structure Document where
  entries : Entries := []
  header : List String := []

/-- A header behind its opening brackets; `isArray` if there are two of them. -/
def headerLine (calls : Nat) (isArray : Bool) (text : List Char) (document : Document) :
    Option (Document × List Char) := do
  let (name, rest) ← key calls text
  let rest ← match isArray, rest with
    | true, ']' :: ']' :: rest => some rest
    | false, ']' :: rest => some rest
    | _, _ => none
  let rest ← endLine false rest
  let entries ← document.entries.openHeader isArray name
  return ({ entries, header := name }, rest)

/-- A key with its value. -/
def keyLine (calls : Nat) (text : List Char) (document : Document) :
    Option (Document × List Char) := do
  let (name, rest) ← key calls text
  match rest with
  | '=' :: rest =>
    let (item, rest) ← value calls maxNesting (skipBlanks rest)
    let rest ← endLine false rest
    let entries ← document.entries.bindAt name item document.header
    return ({ document with entries }, rest)
  | _ => none

/-- The lines of a document. -/
def lines (calls : Nat) : Nat → List Char → Document → Option Document
  | 0, _, _ => none
  | count + 1, text, document => do
    match ← skipLines false text with
    | [] => return document
    | '[' :: '[' :: rest =>
      let (document, rest) ← headerLine calls true rest document
      lines calls count rest document
    | '[' :: rest =>
      let (document, rest) ← headerLine calls false rest document
      lines calls count rest document
    | rest =>
      let (document, rest) ← keyLine calls rest document
      lines calls count rest document

/-- A text without a byte order mark at its start. -/
def dropMark : List Char → List Char
  | '\ufeff' :: rest => rest
  | text => text

/-- The table that a text spells, or `none` if the text is not TOML. -/
def parse (text : String) : Option Entries :=
  let chars := dropMark text.toList
  let bound := 2 * chars.length + 2
  (lines bound bound chars {}).map (·.entries)

end GoProbe.Toml

namespace GoProbe.Standard

/-- Settings are written in the dialect of this reader. -/
scoped instance dialect : Toml.Dialect := ⟨Toml.parse⟩

end GoProbe.Standard
