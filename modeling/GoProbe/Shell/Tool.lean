import GoProbe.Resolver.Program

/-!
# Small programs

What the programs `echo`, `printf`, `cat`, `true` and `false` write and how they end. A host has
no processes of its own; a resolver that is one of these, or a script that uses them, is run by
these rules. Programs look at the disk and never change it.
-/

namespace GoProbe.Shell

/-! ## Escapes -/

/-- The byte of an escape of one letter. -/
def letterEscape? : Char → Option UInt8
  | '\\' => some 0x5c
  | 'a' => some 0x07
  | 'b' => some 0x08
  | 'f' => some 0x0c
  | 'n' => some 0x0a
  | 'r' => some 0x0d
  | 't' => some 0x09
  | 'v' => some 0x0b
  | _ => none

def octalValue? (c : Char) : Option Nat :=
  if '0' ≤ c ∧ c ≤ '7' then some (c.toNat - '0'.toNat) else none

/-- Reads at most `count` octal digits behind those that spell `value`. -/
def octal (value : Nat) : Nat → List Char → UInt8 × List Char
  | 0, text => (value.toUInt8, text)
  | _ + 1, [] => (value.toUInt8, [])
  | count + 1, c :: rest =>
    match octalValue? c with
    | some digit => octal (value * 8 + digit) count rest
    | none => (value.toUInt8, c :: rest)

/-- One piece of an escaped text. -/
inductive Unescaped where
  | byte (value : UInt8)
  | char (c : Char)
  /-- The mark that nothing more is written. -/
  | stop

/-- The piece at the start of a text behind a backslash. With `zero`, octal digits stand behind a
zero. -/
def unescape (zero : Bool) : List Char → List Unescaped × List Char
  | [] => ([.char '\\'], [])
  | 'c' :: rest => if zero then ([.stop], rest) else ([.char '\\', .char 'c'], rest)
  | c :: rest =>
    match letterEscape? c, octalValue? c with
    | some value, _ => ([.byte value], rest)
    | none, some digit =>
      let (value, rest) :=
        if zero && digit == 0 then octal 0 3 rest else octal digit 2 rest
      ([.byte value], rest)
    | none, none =>
      if !zero && c == '"' then ([.char '"'], rest) else ([.char '\\', .char c], rest)

/-- The pieces of a text with escapes; `count` bounds their number. -/
def unescapeAll (zero : Bool) : Nat → List Char → List Unescaped
  | 0, _ => []
  | _, [] => []
  | count + 1, '\\' :: rest =>
    let (pieces, rest) := unescape zero rest
    pieces ++ unescapeAll zero count rest
  | count + 1, c :: rest => .char c :: unescapeAll zero count rest

/-- What is written of some pieces, and whether they end the writing. -/
def written : List Unescaped → ByteArray × Bool
  | [] => (.empty, false)
  | .stop :: _ => (.empty, true)
  | .byte value :: rest =>
    let (more, stopped) := written rest
    (ByteArray.mk #[value] ++ more, stopped)
  | .char c :: rest =>
    let (more, stopped) := written rest
    ((String.singleton c).toUTF8 ++ more, stopped)

/-- A text with its escapes carried out. -/
def unescaped (zero : Bool) (text : String) : ByteArray × Bool :=
  written (unescapeAll zero (text.length + 1) text.toList)

/-! ## Writing texts -/

/-- The options at the start of the arguments of `echo`. -/
def echoOptions (newline escapes : Bool) : List String → Bool × Bool × List String
  | [] => (newline, escapes, [])
  | arg :: rest =>
    match arg.toList with
    | '-' :: c :: letters =>
      if (c :: letters).all fun l => l == 'n' || l == 'e' || l == 'E' then
        let escapes := (c :: letters).foldl
          (fun on l => if l == 'e' then true else if l == 'E' then false else on) escapes
        echoOptions (newline && !(c :: letters).contains 'n') escapes rest
      else (newline, escapes, arg :: rest)
    | _ => (newline, escapes, arg :: rest)

/-- Writes the arguments with blanks between them; options may drop the line break at the end or
turn escapes on. -/
def echo (args : List String) : Outcome :=
  let (newline, escapes, words) := echoOptions true false args
  let text := " ".intercalate words
  let (body, stopped) := if escapes then unescaped true text else (text.toUTF8, false)
  { output := if newline && !stopped then body ++ "\n".toUTF8 else body }

/-- Writes the arguments with blanks between them, always with escapes. -/
def plainEcho (args : List String) : Outcome :=
  let (newline, words) := match args with
    | "-n" :: rest => (false, rest)
    | _ => (true, args)
  let (body, stopped) := unescaped true (" ".intercalate words)
  { output := if newline && !stopped then body ++ "\n".toUTF8 else body }

/-! ## Formats -/

/-- A piece of a format. -/
inductive FormatItem where
  | piece (piece : Unescaped)
  /-- A conversion with what stands between the percent sign and its letter. -/
  | convert (options : List Char) (letter : Char)

/-- The items of a format; `count` bounds their number. -/
def formatItems : Nat → List Char → List FormatItem
  | 0, _ => []
  | _, [] => []
  | count + 1, '\\' :: rest =>
    let (pieces, rest) := unescape false rest
    pieces.map .piece ++ formatItems count rest
  | count + 1, '%' :: '%' :: rest => .piece (.char '%') :: formatItems count rest
  | count + 1, '%' :: rest =>
    let (options, rest) := rest.span fun c =>
      c.isDigit || c == '-' || c == '.' || c == '+' || c == ' '
    match rest with
    | letter :: rest => .convert options letter :: formatItems count rest
    | [] => []
  | count + 1, c :: rest => .piece (.char c) :: formatItems count rest

/-- Fills a text up to a width. -/
def padded (options : List Char) (text : String) : String :=
  let (left, options) := match options with
    | '-' :: rest => (true, rest)
    | rest => (false, rest)
  let (width, rest) := options.span Char.isDigit
  let text := match rest with
    | '.' :: precision => String.ofList (text.toList.take ((String.ofList precision).toNat?.getD 0))
    | _ => text
  let fill := "".pushn ' ' ((String.ofList width).toNat?.getD 0 - text.length)
  if left then text ++ fill else fill ++ text

/-- The integer at the start of a text. -/
def leadingInteger (text : String) : Int :=
  match text.toList with
  | '-' :: rest => -(digitsOf rest : Int)
  | '+' :: rest => digitsOf rest
  | rest => digitsOf rest
where
  digitsOf (chars : List Char) : Nat :=
    (String.ofList (chars.takeWhile Char.isDigit)).toNat?.getD 0

/-- What a conversion writes for an argument, and whether it ends the writing. -/
def converted (options : List Char) (letter : Char) (arg : String) : ByteArray × Bool :=
  match letter with
  | 'b' => unescaped true arg
  | 'c' => ((padded options (String.ofList (arg.toList.take 1))).toUTF8, false)
  | 's' => ((padded options arg).toUTF8, false)
  | _ => ((padded options (toString (leadingInteger arg))).toUTF8, false)

/-- Writes a format once: what is written, the arguments left, and whether the writing has ended. -/
def formatOnce : List FormatItem → List String → ByteArray × List String × Bool
  | [], args => (.empty, args, false)
  | .piece p :: items, args =>
    match written [p] with
    | (bytes, true) => (bytes, args, true)
    | (bytes, false) =>
      let (more, args, stopped) := formatOnce items args
      (bytes ++ more, args, stopped)
  | .convert options letter :: items, args =>
    match converted options letter (args.head?.getD "") with
    | (bytes, true) => (bytes, args, true)
    | (bytes, false) =>
      let (more, args, stopped) := formatOnce items args.tail
      (bytes ++ more, args, stopped)

/-- Writes a format as often as there are arguments for it; `count` bounds the repetitions. -/
def formatAll (items : List FormatItem) : Nat → List String → ByteArray
  | 0, _ => .empty
  | count + 1, args =>
    let (bytes, rest, stopped) := formatOnce items args
    if stopped || rest.isEmpty || rest.length == args.length then bytes
    else bytes ++ formatAll items count rest

def printf : List String → Outcome
  | [] => { status := .code 1, errors := "printf: missing operand\n".toUTF8 }
  | format :: args =>
    { output := formatAll (formatItems (format.length + 1) format.toList) (args.length + 1) args }

/-! ## Reading files -/

variable [Faults]

/-- Writes files one after another; `-` is the input. -/
def cat (host : Host) (input : ByteArray) : List String → Outcome
  | [] => { output := input }
  | args => args.foldl (addFile host input) {}
where
  addFile (host : Host) (input : ByteArray) (outcome : Outcome) (path : String) : Outcome :=
    if path == "-" then { outcome with output := outcome.output ++ input }
    else
      match host.read path with
      | .ok content => { outcome with output := outcome.output ++ content }
      | .error err =>
        let reason := match err with
          | .notDirectory => "Not a directory"
          | .isDirectory => "Is a directory"
          | .tooManyLinks => "Too many levels of symbolic links"
          | _ => "No such file or directory"
        { outcome with
          status := .code 1
          errors := outcome.errors ++ s!"cat: {path}: {reason}\n".toUTF8 }

/-- Runs a program by its name. -/
def runTool? (host : Host) (input : ByteArray) (name : String) (args : List String) :
    Option Outcome :=
  match name with
  | "echo" => some (echo args)
  | "printf" => some (printf args)
  | "cat" => some (cat host input args)
  | "true" => some {}
  | "false" => some { status := .code 1 }
  | _ => none

end GoProbe.Shell
