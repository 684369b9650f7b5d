/-!
# Shell scripts

The form of a simple shell script: commands with words and redirections, joined by `;`, line
breaks, `&&`, `||` and `|`. Words are built from plain, quoted and substituted parts. Compound
commands, command substitution and patterns are not part of it.
-/

namespace GoProbe.Shell

/-- A part of a word. -/
inductive Part where
  | text (content : String) (quoted : Bool)
  /-- A parameter by name. -/
  | param (name : String) (quoted : Bool)
deriving DecidableEq, Repr, Inhabited

/-- A word before its parameters are put in. -/
abbrev Word := List Part

/-- What a descriptor is turned to. -/
inductive Turn where
  | descriptor (number : Nat)
  | file (name : Word)
  | input (name : Word)
deriving DecidableEq, Repr, Inhabited

structure Redirect where
  descriptor : Nat
  turn : Turn
deriving DecidableEq, Repr, Inhabited

structure Simple where
  line : Nat
  words : List Word
  redirects : List Redirect
deriving DecidableEq, Repr, Inhabited

/-- When a command runs, given how the one before it ended. -/
inductive Joint where
  | always
  | onSuccess
  | onFailure
deriving DecidableEq, Repr, Inhabited

/-- Commands whose outputs are the inputs of those behind them. -/
structure Pipeline where
  joint : Joint
  commands : List Simple
deriving DecidableEq, Repr, Inhabited

/-! ## Words -/

def isWordEnd (c : Char) : Bool :=
  c == ' ' || c == '\t' || c == '\n' || c == ';' || c == '&' || c == '|' || c == '<' || c == '>'

def isNameChar (c : Char) : Bool :=
  c.isAlphanum || c == '_'

/-- A parameter behind its dollar sign; a lone dollar sign stands for itself. -/
def parameter (quoted : Bool) : List Char → Part × List Char
  | '\x7b' :: rest =>
    let (name, rest) := rest.span (· != '\x7d')
    (.param (String.ofList name) quoted, rest.drop 1)
  | c :: rest =>
    if c.isDigit || c == '@' || c == '*' || c == '#' || c == '?' || c == '$' || c == '!' then
      (.param (String.singleton c) quoted, rest)
    else if isNameChar c then
      let (name, rest) := (c :: rest).span isNameChar
      (.param (String.ofList name) quoted, rest)
    else (.text "$" quoted, c :: rest)
  | [] => (.text "$" quoted, [])

/-- The parts in double quotes behind the opening quote; `count` bounds their number. -/
def doubleQuoted : Nat → List Char → Word × List Char
  | 0, text => ([], text)
  | _, [] => ([], [])
  | _, '"' :: rest => ([], rest)
  | count + 1, '\\' :: '\n' :: rest => doubleQuoted count rest
  | count + 1, '\\' :: c :: rest =>
    let (parts, left) := doubleQuoted count rest
    let content := if c == '$' || c == '"' || c == '\\' || c == '\x60' then String.singleton c
      else String.ofList ['\\', c]
    (.text content true :: parts, left)
  | count + 1, '$' :: rest =>
    let (part, rest) := parameter true rest
    let (parts, left) := doubleQuoted count rest
    (part :: parts, left)
  | count + 1, c :: rest =>
    let (parts, left) := doubleQuoted count rest
    (.text (String.singleton c) true :: parts, left)

/-- A word; `count` bounds the number of its parts. -/
def word : Nat → List Char → Word × List Char
  | 0, text => ([], text)
  | _, [] => ([], [])
  | count + 1, '\x27' :: rest =>
    let (content, rest) := rest.span (· != '\x27')
    let (parts, left) := word count (rest.drop 1)
    (.text (String.ofList content) true :: parts, left)
  | count + 1, '"' :: rest =>
    let (inner, rest) := doubleQuoted (rest.length + 1) rest
    let (parts, left) := word count rest
    (.text "" true :: inner ++ parts, left)
  | count + 1, '\\' :: '\n' :: rest => word count rest
  | count + 1, '\\' :: c :: rest =>
    let (parts, left) := word count rest
    (.text (String.singleton c) true :: parts, left)
  | count + 1, '$' :: rest =>
    let (part, rest) := parameter false rest
    let (parts, left) := word count rest
    (part :: parts, left)
  | count + 1, c :: rest =>
    if isWordEnd c then ([], c :: rest)
    else
      let (parts, left) := word count rest
      (.text (String.singleton c) false :: parts, left)

/-! ## Commands -/

/-- What has been read of a script. -/
structure Draft where
  /-- Whole pipelines, last one first. -/
  pipelines : List Pipeline := []
  /-- The commands of the current pipeline, last one first. -/
  commands : List Simple := []
  joint : Joint := .always
  words : List Word := []
  redirects : List Redirect := []
  line : Nat := 1

namespace Draft

/-- Ends the current command. -/
def endCommand (draft : Draft) : Draft :=
  if draft.words.isEmpty && draft.redirects.isEmpty then draft
  else
    { draft with
      commands := ⟨draft.line, draft.words.reverse, draft.redirects.reverse⟩ :: draft.commands
      words := []
      redirects := [] }

/-- Ends the current pipeline; the next one is joined by `joint`. -/
def endPipeline (draft : Draft) (joint : Joint) : Draft :=
  let draft := draft.endCommand
  if draft.commands.isEmpty then draft
  else
    { draft with
      pipelines := ⟨draft.joint, draft.commands.reverse⟩ :: draft.pipelines
      commands := []
      joint }

end Draft

/-- A redirection behind its arrow. -/
def redirect (descriptor : Nat) (text : List Char) : Redirect × List Char :=
  match text with
  | '&' :: c :: rest => (⟨descriptor, .descriptor (c.toNat - '0'.toNat)⟩, rest)
  | '>' :: rest =>
    let rest := rest.dropWhile (· == ' ')
    let (name, left) := word (rest.length + 1) rest
    (⟨descriptor, .file name⟩, left)
  | rest =>
    let rest := rest.dropWhile (· == ' ')
    let (name, left) := word (rest.length + 1) rest
    (⟨descriptor, .file name⟩, left)

/-- Reads a script; `count` bounds the number of tokens. -/
def script : Nat → List Char → Draft → List Pipeline
  | 0, _, draft => (draft.endPipeline .always).pipelines.reverse
  | _, [], draft => (draft.endPipeline .always).pipelines.reverse
  | count + 1, '\n' :: rest, draft =>
    let draft := draft.endPipeline .always
    script count rest { draft with line := draft.line + 1 }
  | count + 1, '#' :: rest, draft => script count (rest.dropWhile (· != '\n')) draft
  | count + 1, ';' :: rest, draft => script count rest (draft.endPipeline .always)
  | count + 1, '&' :: '&' :: rest, draft => script count rest (draft.endPipeline .onSuccess)
  | count + 1, '|' :: '|' :: rest, draft => script count rest (draft.endPipeline .onFailure)
  | count + 1, '&' :: rest, draft => script count rest (draft.endPipeline .always)
  | count + 1, '|' :: rest, draft => script count rest draft.endCommand
  | count + 1, '\\' :: '\n' :: rest, draft =>
    script count rest { draft with line := draft.line + 1 }
  | count + 1, '1' :: '>' :: rest, draft =>
    let (found, rest) := redirect 1 rest
    script count rest { draft with redirects := found :: draft.redirects }
  | count + 1, '2' :: '>' :: rest, draft =>
    let (found, rest) := redirect 2 rest
    script count rest { draft with redirects := found :: draft.redirects }
  | count + 1, '>' :: rest, draft =>
    let (found, rest) := redirect 1 rest
    script count rest { draft with redirects := found :: draft.redirects }
  | count + 1, '<' :: rest, draft =>
    let rest := rest.dropWhile (· == ' ')
    let (name, rest) := word (rest.length + 1) rest
    script count rest { draft with redirects := ⟨0, .input name⟩ :: draft.redirects }
  | count + 1, c :: rest, draft =>
    if c == ' ' || c == '\t' then script count rest draft
    else
      let (found, rest) := word (rest.length + 2) (c :: rest)
      script count rest { draft with words := found :: draft.words }

/-- The commands of a script. -/
def ofText (text : String) : List Pipeline :=
  script (text.length + 1) text.toList {}

end GoProbe.Shell
