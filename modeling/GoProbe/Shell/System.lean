import GoProbe.Shell.Run
import GoProbe.Text.Lossy

/-!
# The programs of a host

Every host has some small programs and a shell. Its other programs are scripts, told by the program
that their first line names.
-/

namespace GoProbe

/-- The programs that every host has. -/
def systemPrograms : List String := ["bash", "cat", "echo", "false", "printf", "sh", "true"]

/-- Where the programs of the system stand; they are found by name in the first of these. -/
def systemDirs : List String := ["/usr/bin/", "/bin/"]

/-- The name of the system's program at a path. -/
def systemProgram? (path : String) : Option String :=
  systemPrograms.find? fun name => systemDirs.any fun dir => path == dir ++ name

namespace Host

/-- Whether a path leads to a file that can be run. -/
def isProgram (host : Host) (path : String) : Bool :=
  match host.node? path with
  | some (.file _ executable) => executable
  | _ => (systemProgram? path).isSome

/-- The path of a system's program with this name. -/
def findByName? (name : String) : Option String :=
  if systemPrograms.contains name then some ("/usr/bin/" ++ name) else none

/-- The path of a program. A name alone is searched for; anything longer is taken from the working
directory. -/
def findProgram? (host : Host) (program : String) : Option String :=
  if (Path.components program).length ≤ 1 then
    findByName? program
  else
    let path := if Path.isAbsolute program then program
      else ((Path.components program).dropWhile (· == ".")).foldl Path.join host.workDir.path
    if host.isProgram path then some path else none

/-- The program that a script names in its first line, and the arguments it is to have first. -/
def interpreter? (text : String) : Option (String × List String) :=
  match text.toList with
  | '#' :: '!' :: rest =>
    let line := (rest.takeWhile (· != '\n')).dropWhile (· == ' ')
    let argument := Text.trim (String.ofList (line.dropWhile (· != ' ')))
    let program := String.ofList (line.takeWhile (· != ' '))
    match program, findByName? argument with
    | "/usr/bin/env", some path => some (path, [])
    | _, _ => some (program, if argument == "" then [] else [argument])
  | _ => none

/-- How many scripts may name one another as interpreters. -/
def maxInterpreters : Nat := 4

variable [Faults]

/-- Runs a program with arguments; `depth` bounds the interpreters behind one another. -/
def runAt (host : Host) : Nat → String → List String → Except DiskError Outcome
  | 0, _, _ => .error .tooManyLinks
  | depth + 1, path, args =>
    match systemProgram? path with
    | some "sh" => .ok (Shell.runShell host args)
    | some "bash" => .ok (Shell.runShell host args)
    | some name => .ok ((Shell.runTool? host .empty name args).getD {})
    | none => do
      match interpreter? (Text.lossy (← host.read path)) with
      | none => throw (.other "Exec format error (os error 8)")
      | some (program, first) =>
        if host.isProgram program then runAt host depth program (first ++ path :: args)
        else throw .notFound

/-- Runs a program with arguments. -/
def run (host : Host) (path : String) (args : List String) : Except DiskError Outcome :=
  host.runAt (maxInterpreters + 1) path args

end Host

namespace Standard

/-- A host with the programs of the system and its own scripts. -/
scoped instance programs [Faults] : Programs := ⟨Host.findProgram?, Host.run⟩

end Standard

end GoProbe
