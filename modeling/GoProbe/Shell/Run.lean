import GoProbe.Shell.Script
import GoProbe.Shell.Tool

/-!
# Running shell scripts

Commands run in order. Each writes to the output and to the errors of the script, unless it is
redirected; the script ends with the status of its last command, or at `exit` or at a signal that
it sends to itself.
-/

namespace GoProbe.Shell

/-- A script at work. -/
structure Session where
  name : String
  args : List String
  bindings : List (String × String) := []
  status : Nat := 0
  /-- Whether the script ends at a command that fails. -/
  strict : Bool := false
  output : ByteArray := .empty
  errors : ByteArray := .empty
  /-- Set when the script has ended. -/
  ended : Option ExitStatus := none

/-- The number by which a script knows itself. -/
def ownNumber : String := "4242"

/-! ## Words -/

/-- The fields of a word: those finished, last one first, and the one that is being built. -/
structure Fields where
  finished : List String := []
  current : Option String := none

namespace Fields

def add (fields : Fields) (text : String) : Fields :=
  { fields with current := some (fields.current.getD "" ++ text) }

def close (fields : Fields) : Fields :=
  match fields.current with
  | some text => { finished := text :: fields.finished, current := none }
  | none => fields

/-- Adds a text whose blanks divide fields. -/
def addSplit (fields : Fields) : List Char → Fields
  | [] => fields
  | c :: rest =>
    if c == ' ' || c == '\t' || c == '\n' then fields.close.addSplit rest
    else (fields.add (String.singleton c)).addSplit rest

/-- Adds several texts as fields of their own; the first goes on with the field being built. -/
def addEach (fields : Fields) : List String → Fields
  | [] => fields
  | [text] => fields.add text
  | text :: rest => (fields.add text).close.addEach rest

end Fields

namespace Session

/-- The value of a parameter. -/
def value (session : Session) (name : String) : String :=
  match name with
  | "#" => toString session.args.length
  | "?" => toString session.status
  | "$" => ownNumber
  | "0" => session.name
  | "@" => " ".intercalate session.args
  | "*" => " ".intercalate session.args
  | name =>
    match name.toNat? with
    | some number => session.args[number - 1]?.getD ""
    | none => (session.bindings.lookup name).getD ""

/-- Adds a part of a word to the fields. -/
def addPart (session : Session) (fields : Fields) : Part → Fields
  | .text content _ => fields.add content
  | .param "@" true => fields.addEach session.args
  | .param name true => fields.add (session.value name)
  | .param name false => fields.addSplit (session.value name).toList

/-- The fields that words give. -/
def expand (session : Session) (words : List Word) : List String :=
  words.flatMap fun word =>
    (word.foldl session.addPart {}).close.finished.reverse

/-- A word as one text. -/
def expandWhole (session : Session) (word : Word) : String :=
  String.join (word.map fun
    | .text content _ => content
    | .param name _ => session.value name)

end Session

/-! ## Commands -/

/-- The name and the value of an assignment. -/
def assignment? (session : Session) (word : Word) : Option (String × String) :=
  let plain := word.takeWhile fun
    | .text _ quoted => !quoted
    | .param _ _ => false
  let head := String.join (plain.map fun
    | .text content _ => content
    | .param _ _ => "")
  match head.toList.span isNameChar with
  | (c :: name, '=' :: _) =>
    if c.isDigit then none
    else
      some (String.ofList (c :: name),
        String.ofList ((session.expandWhole word).toList.drop (name.length + 2)))
  | _ => none

/-- The number of a signal by name or number. -/
def signalNumber (text : String) : Nat :=
  match text with
  | "HUP" => 1
  | "INT" => 2
  | "QUIT" => 3
  | "ABRT" => 6
  | "KILL" => 9
  | "SEGV" => 11
  | "PIPE" => 13
  | "ALRM" => 14
  | "TERM" => 15
  | text => text.toNat?.getD 15

variable [Faults]

/-- Whether a test holds. -/
def testHolds (host : Host) : List String → Bool
  | [] => false
  | [text] => text != ""
  | ["-n", text] => text != ""
  | ["-z", text] => text == ""
  | ["-e", path] => host.pathExists path
  | ["-f", path] => host.isFile path
  | ["-d", path] => host.isDir path
  | ["!", text] => text == ""
  | [a, "=", b] => a == b
  | [a, "!=", b] => a != b
  | [a, "-eq", b] => a.toNat? == b.toNat?
  | [a, "-ne", b] => a.toNat? != b.toNat?
  | _ => false

/-- What a command does: the session after it and what it leaves behind. -/
def command (host : Host) (session : Session) (line : Nat) (input : ByteArray) :
    List String → Session × Outcome
  | [] => (session, {})
  | ":" :: _ => (session, {})
  | ["exit"] => ({ session with ended := some (.code session.status) }, {})
  | "exit" :: code :: _ =>
    ({ session with ended := some (.code ((code.toNat?.getD 2) % 256)) }, {})
  | ["set", "-e"] => ({ session with strict := true }, {})
  | ["set", "+e"] => ({ session with strict := false }, {})
  | "set" :: _ => (session, {})
  | ["pwd"] => (session, { output := (host.workDir.path ++ "\n").toUTF8 })
  | "shift" :: _ => ({ session with args := session.args.drop 1 }, {})
  | "kill" :: "-s" :: name :: _ =>
    ({ session with ended := some (.signal (signalNumber name)) }, {})
  | "kill" :: first :: _ =>
    let number := if first.startsWith "-" then signalNumber (first.drop 1).toString else 15
    ({ session with ended := some (.signal number) }, {})
  | "echo" :: args => (session, plainEcho args)
  | "test" :: args => (session, { status := .code (if testHolds host args then 0 else 1) })
  | "[" :: args => (session, { status := .code (if testHolds host args.dropLast then 0 else 1) })
  | "exec" :: name :: args =>
    match runTool? host input name args with
    | some outcome => ({ session with ended := some outcome.status }, outcome)
    | none =>
      ({ session with ended := some (.code 127) },
        { status := .code 127
          errors := s!"{session.name}: {line}: exec: {name}: not found\n".toUTF8 })
  | name :: args =>
    match runTool? host input name args with
    | some outcome => (session, outcome)
    | none =>
      (session,
        { status := .code 127
          errors := s!"{session.name}: {line}: {name}: not found\n".toUTF8 })

/-- Where a descriptor leads. -/
inductive Sink where
  | pipe
  | output
  | errors
  | nowhere
deriving DecidableEq

/-- The sinks of the output and the errors after the redirections. -/
def sinks (out err : Sink) : List Redirect → Sink × Sink
  | [] => (out, err)
  | ⟨descriptor, turn⟩ :: rest =>
    let sink := match turn with
      | .descriptor 1 => out
      | .descriptor 2 => err
      | _ => .nowhere
    match descriptor, turn with
    | _, .input _ => sinks out err rest
    | 1, _ => sinks sink err rest
    | 2, _ => sinks out sink rest
    | _, _ => sinks out err rest

/-- Sends bytes to a sink; those for the pipe are returned. -/
def Session.send (session : Session) (sink : Sink) (bytes : ByteArray) : Session × ByteArray :=
  match sink with
  | .pipe => (session, bytes)
  | .output => ({ session with output := session.output ++ bytes }, .empty)
  | .errors => ({ session with errors := session.errors ++ bytes }, .empty)
  | .nowhere => (session, .empty)

/-- The input that a command reads. -/
def inputOf (host : Host) (session : Session) (input : ByteArray) : List Redirect → ByteArray
  | [] => input
  | ⟨_, .input name⟩ :: rest =>
    let content := match host.read (session.expandWhole name) with
      | .ok content => content
      | .error _ => .empty
    inputOf host session content rest
  | _ :: rest => inputOf host session input rest

/-- Runs a command whose output goes to `out`; the bytes for the pipe are returned. -/
def runSimple (host : Host) (session : Session) (out : Sink) (input : ByteArray) (simple : Simple) :
    Session × ByteArray :=
  let assigned := simple.words.takeWhile fun word => (assignment? session word).isSome
  let words := session.expand (simple.words.drop assigned.length)
  let bound := assigned.filterMap (assignment? session)
  if words.isEmpty then
    ({ session with bindings := bound.reverse ++ session.bindings, status := 0 }, .empty)
  else
    let input := inputOf host session input simple.redirects
    let (session, outcome) := command host session simple.line input words
    let (outSink, errSink) := sinks out .errors simple.redirects
    let (session, piped) := session.send outSink outcome.output
    let (session, morePiped) := session.send errSink outcome.errors
    let status := match outcome.status with
      | .code value => value
      | .signal number => 128 + number
    ({ session with status }, piped ++ morePiped)

/-- Runs the commands of a pipeline. -/
def runPipeline (host : Host) (session : Session) (input : ByteArray) : List Simple → Session
  | [] => session
  | [last] => (runSimple host session .output input last).1
  | first :: rest =>
    let (session, piped) := runSimple host session .pipe input first
    runPipeline host session piped rest

/-- Runs pipelines until the script ends. -/
def runAll (host : Host) (session : Session) : List Pipeline → Session
  | [] => session
  | pipeline :: rest =>
    if session.ended.isSome then session
    else
      let runs := match pipeline.joint with
        | .always => true
        | .onSuccess => session.status == 0
        | .onFailure => session.status != 0
      if !runs then runAll host session rest
      else
        let session := runPipeline host session .empty pipeline.commands
        let isLast := rest.head?.all (·.joint == .always)
        if session.strict && isLast && session.status != 0 then
          { session with ended := some (session.ended.getD (.code session.status)) }
        else runAll host session rest

/-- Runs a script under a name with arguments. -/
def runScript (host : Host) (strict : Bool) (name text : String) (args : List String) : Outcome :=
  let session := runAll host { name, args, strict } (ofText text)
  { status := session.ended.getD (.code session.status)
    output := session.output
    errors := session.errors }

/-- Runs the shell with the arguments behind its options. -/
def runArgs (host : Host) (strict : Bool) : List String → Outcome
  | "-c" :: text :: name :: args => runScript host strict name text args
  | ["-c", text] => runScript host strict "sh" text []
  | path :: args =>
    match host.readText path with
    | .ok text => runScript host strict path text args
    | .error _ =>
      { status := .code 2, errors := s!"sh: 0: cannot open {path}: No such file\n".toUTF8 }
  | [] => {}

/-- Runs the shell as a program. -/
def runShell (host : Host) : List String → Outcome
  | "-e" :: args => runArgs host true args
  | "-ec" :: args => runArgs host true ("-c" :: args)
  | args => runArgs host false args

end GoProbe.Shell
