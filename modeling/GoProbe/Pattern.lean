/-!
# Name patterns

Shell-style patterns: `?` is any character, `*` any text, `[…]` one character of a set and `[!…]`
one character outside it. `**` as a whole part of a path is any number of directories; with the
slash after it, it matches nothing or a text that ends in a slash, and at the end of a pattern it
matches everything. Case counts, and nothing is special about a dot or a slash in the text.
-/

namespace GoProbe

/-- The characters from `low` to `high`. -/
structure CharSpan where
  low : Char
  high : Char
deriving DecidableEq, Repr

namespace CharSpan

def contains (span : CharSpan) (c : Char) : Bool :=
  span.low ≤ c && c ≤ span.high

/-- The spans of a set as it is written: `a-c` is a span, and other characters are themselves. -/
def ofChars : List Char → List CharSpan
  | a :: '-' :: b :: rest => ⟨a, b⟩ :: ofChars rest
  | a :: rest => ⟨a, a⟩ :: ofChars rest
  | [] => []

end CharSpan

/-- A part of a pattern. -/
inductive PatternItem where
  | char (c : Char)
  | anyChar
  | anyText
  | anyDirs
  | oneOf (spans : List CharSpan)
  | noneOf (spans : List CharSpan)
deriving DecidableEq, Repr

/-- Why a text is no pattern. -/
inductive PatternCause where
  | wildcards
  | recursive
  | range
deriving DecidableEq, Repr, Inhabited

structure PatternError where
  /-- Counted in characters from zero. -/
  position : Nat
  cause : PatternCause
deriving DecidableEq, Repr, Inhabited

namespace PatternError

def message (err : PatternError) : String :=
  let cause := match err.cause with
    | .wildcards => "wildcards are either regular `*` or recursive `**`"
    | .recursive => "recursive wildcards must form a single path component"
    | .range => "invalid range pattern"
  s!"Pattern syntax error near position {err.position}: {cause}"

end PatternError

structure Pattern where
  items : List PatternItem
deriving DecidableEq, Repr

namespace Pattern

/-! ## Reading -/

/-- Whether `**` may start here, given the character before. -/
def startsPart (before : Option Char) : Bool :=
  before == none || before == some '/'

mutual

/-- Reads items; `before` is the character before the text, which starts at `position`. -/
def scan (position : Nat) (before : Option Char) :
    List Char → Except PatternError (List PatternItem)
  | [] => .ok []
  | '?' :: rest => do return .anyChar :: (← scan (position + 1) (some '?') rest)
  | '*' :: '*' :: '*' :: _ => .error ⟨position + 2, .wildcards⟩
  | ['*', '*'] =>
    if startsPart before then .ok [.anyDirs] else .error ⟨position - 1, .recursive⟩
  | '*' :: '*' :: c :: rest =>
    if !startsPart before then .error ⟨position - 1, .recursive⟩
    else if c == '/' then do return .anyDirs :: (← scan (position + 3) (some '/') rest)
    else .error ⟨position + 2, .recursive⟩
  | '*' :: rest => do return .anyText :: (← scan (position + 1) (some '*') rest)
  | '[' :: '!' :: rest => scanSet position true [] (position + 2) rest
  | '[' :: rest => scanSet position false [] (position + 1) rest
  | c :: rest => do return .char c :: (← scan (position + 1) (some c) rest)

/-- Reads a set that was opened at `opened`, after the characters `found`. -/
def scanSet (opened : Nat) (negated : Bool) (found : List Char) (position : Nat) :
    List Char → Except PatternError (List PatternItem)
  | [] => .error ⟨opened, .range⟩
  | c :: rest =>
    if c == ']' && !found.isEmpty then do
      let spans := CharSpan.ofChars found
      let item := if negated then PatternItem.noneOf spans else .oneOf spans
      return item :: (← scan (position + 1) (some c) rest)
    else scanSet opened negated (found ++ [c]) (position + 1) rest

end

/-- The pattern that a text spells. -/
def ofText (text : String) : Except PatternError Pattern := do
  return ⟨← scan 0 none text.toList⟩

/-! ## Matching -/

/-- Whether an item that stands for one character stands for this one. -/
def fitsChar : PatternItem → Char → Bool
  | .char c, d => c == d
  | .anyChar, _ => true
  | .oneOf spans, d => spans.any (·.contains d)
  | .noneOf spans, d => !spans.any (·.contains d)
  | .anyText, _ => false
  | .anyDirs, _ => false

/-- Whether `here` holds of the text or of one of its ends. -/
def atSomeEnd (here : List Char → Bool) : List Char → Bool
  | [] => here []
  | c :: rest => here (c :: rest) || atSomeEnd here rest

/-- Whether `here` holds after some slash of the text, or at its end. -/
def afterSomeSlash (here : List Char → Bool) : List Char → Bool
  | [] => here []
  | c :: rest => (c == '/' && here rest) || afterSomeSlash here rest

/-- Whether the items match the whole text. -/
def matchItems : List PatternItem → List Char → Bool
  | [], text => text.isEmpty
  | .anyText :: items, text => atSomeEnd (matchItems items) text
  | .anyDirs :: items, text => matchItems items text || afterSomeSlash (matchItems items) text
  | item :: items, c :: rest => fitsChar item c && matchItems items rest
  | _ :: _, [] => false

/-- Whether the pattern matches the whole text. -/
def matchesText (pattern : Pattern) (text : String) : Bool :=
  matchItems pattern.items text.toList

end Pattern

end GoProbe
