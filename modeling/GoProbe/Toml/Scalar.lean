import GoProbe.Json.Numeral
import GoProbe.Toml.Value
import GoProbe.Word

/-!
# TOML scalars without quotes

Booleans, integers, floats, dates and times are read from one run of letters, digits and the marks
that can stand among them; a date and a time may also be divided by one blank.
-/

namespace GoProbe.Toml

open Json (digitsValue hexValue?)

/-! ## Numbers -/

/-- The digits of a run in which single underscores may stand between digits. -/
def digitRun (isDigit : Char → Bool) : List Char → Option (List Char)
  | [] => none
  | [c] => if isDigit c then some [c] else none
  | c :: '_' :: rest => if isDigit c then (digitRun isDigit rest).map (c :: ·) else none
  | c :: rest => if isDigit c then (digitRun isDigit rest).map (c :: ·) else none

/-- The number that digits of a base spell. -/
def baseValue (base : Nat) (ds : List Char) : Nat :=
  ds.foldl (fun n d => n * base + (hexValue? d).getD 0) 0

/-- Whether a character is a digit of the base. -/
def isBaseDigit (base : Nat) (c : Char) : Bool :=
  match hexValue? c with
  | some n => n < base
  | none => false

/-- Digits without a leading zero, or a lone zero. -/
def plainDigits (text : List Char) : Option (List Char) :=
  match digitRun Char.isDigit text with
  | some ('0' :: _ :: _) => none
  | found => found

/-- A sign and the text after it. -/
def sign : List Char → Bool × List Char
  | '-' :: rest => (true, rest)
  | '+' :: rest => (false, rest)
  | text => (false, text)

/-- Integers that fit in 128 bits, with or without a sign bit. -/
def integerInRange (value : Int) : Option Value :=
  if -(wordCount 127 : Int) ≤ value ∧ value < wordCount 128 then some (.integer value) else none

def integer? (text : List Char) : Option Value :=
  match text with
  | '0' :: 'x' :: rest => do
    integerInRange (baseValue 16 (← digitRun (isBaseDigit 16) rest))
  | '0' :: 'o' :: rest => do
    integerInRange (baseValue 8 (← digitRun (isBaseDigit 8) rest))
  | '0' :: 'b' :: rest => do
    integerInRange (baseValue 2 (← digitRun (isBaseDigit 2) rest))
  | text => do
    let (negative, rest) := sign text
    let value : Int := digitsValue (← plainDigits rest)
    integerInRange (if negative then -value else value)

/-- The text before the first character of a kind, and the text after it. -/
def cutAt (isMark : Char → Bool) : List Char → List Char × Option (List Char)
  | [] => ([], none)
  | c :: rest =>
    if isMark c then ([], some rest)
    else
      let (before, found) := cutAt isMark rest
      (c :: before, found)

/-- A float: an integer part with a fraction, an exponent or both. It must be finite. -/
def float? (text : List Char) : Option Value := do
  let (_, unsigned) := sign text
  if unsigned == "inf".toList || unsigned == "nan".toList then
    return .float (String.ofList text)
  let (mantissa, exponent) := cutAt (fun c => c == 'e' || c == 'E') unsigned
  let (whole, fraction) := cutAt (· == '.') mantissa
  if exponent.isNone && fraction.isNone then none
  let whole ← plainDigits whole
  let fraction ← match fraction with
    | some ds => digitRun Char.isDigit ds
    | none => some ['0']
  let (negative, exponent) := match exponent with
    | some ds => sign ds
    | none => (false, ['0'])
  let power : Int := digitsValue (← digitRun Char.isDigit exponent)
  let numeral : Json.Numeral := { whole, fraction, exponent := if negative then -power else power }
  if numeral.isFinite then return .float (String.ofList text) else none

/-! ## Dates and times -/

/-- The number that exactly the given digits spell. -/
def number? (ds : List Char) : Option Nat :=
  if ds.all Char.isDigit && !ds.isEmpty then some (digitsValue ds) else none

def isLeapYear (year : Nat) : Bool :=
  year % 4 == 0 && (year % 100 != 0 || year % 400 == 0)

def daysIn (year month : Nat) : Nat :=
  if month == 2 then (if isLeapYear year then 29 else 28)
  else if month == 4 || month == 6 || month == 9 || month == 11 then 30
  else 31

/-- `YYYY-MM-DD` at the start of a text, and the text after it. -/
def date? : List Char → Option (List Char)
  | a :: b :: c :: d :: '-' :: e :: f :: '-' :: g :: h :: rest => do
    let year ← number? [a, b, c, d]
    let month ← number? [e, f]
    let day ← number? [g, h]
    if 1 ≤ month ∧ month ≤ 12 ∧ 1 ≤ day ∧ day ≤ daysIn year month then some rest else none
  | _ => none

/-- `SS` with an optional fraction at the start of a text, and the text after it. -/
def seconds? : List Char → Option (List Char)
  | a :: b :: rest => do
    let second ← number? [a, b]
    if second ≤ 60 then
      match rest with
      | '.' :: rest =>
        match rest.span Char.isDigit with
        | ([], _) => none
        | (_, rest) => some rest
      | rest => some rest
    else none
  | _ => none

/-- `HH:MM`, or `HH:MM:SS` with an optional fraction, at the start of a text, and the text after
it. -/
def time? : List Char → Option (List Char)
  | a :: b :: ':' :: c :: d :: rest => do
    let hour ← number? [a, b]
    let minute ← number? [c, d]
    if hour ≤ 23 ∧ minute ≤ 59 then
      match rest with
      | ':' :: rest => seconds? rest
      | rest => some rest
    else none
  | _ => none

/-- Whether a text is nothing or an offset from universal time. -/
def isOffset : List Char → Bool
  | [] => true
  | [c] => c == 'Z' || c == 'z'
  | [s, a, b, ':', c, d] =>
    (s == '+' || s == '-') &&
      match number? [a, b], number? [c, d] with
      | some hour, some minute => hour ≤ 23 && minute ≤ 59
      | _, _ => false
  | _ => false

/-- A local time, a date, or a date with a time and perhaps an offset. -/
def isDatetime (text : List Char) : Bool :=
  match date? text with
  | some [] => true
  | some (c :: rest) =>
    (c == 'T' || c == 't' || c == ' ') &&
      match time? rest with
      | some rest => isOffset rest
      | none => false
  | none => time? text == some []

/-! ## Runs -/

/-- Whether a character can stand in a scalar without quotes. -/
def isScalarChar (c : Char) : Bool :=
  c.isAlphanum || c == '_' || c == '+' || c == '-' || c == '.' || c == ':'

/-- The scalar that a whole run spells. -/
def scalar? (run : List Char) : Option Value :=
  if run == "true".toList then some (.boolean true)
  else if run == "false".toList then some (.boolean false)
  else if isDatetime run then some (.datetime (String.ofList run))
  else (integer? run).or (float? run)

/-- The run at the start of a text; a date takes a time along that follows after a blank. -/
def scalarRun (text : List Char) : List Char × List Char :=
  let (run, rest) := text.span isScalarChar
  match date? run, rest with
  | some [], ' ' :: c :: more =>
    if c.isDigit then
      let (time, rest) := (c :: more).span isScalarChar
      (run ++ ' ' :: time, rest)
    else (run, rest)
  | _, _ => (run, rest)

end GoProbe.Toml
