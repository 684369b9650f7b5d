import GoProbe.Disk.Locate

/-!
# Working on a disk

A host is a disk with a working directory and a directory for temporary files. Paths are taken as
they are given; relative ones start at the working directory. What an operation has done before it
fails stays done.

Whether an operation can succeed shows in the nodes of the disk, up to what they do not tell:
permissions, space, the device. `Faults` stands for all of that.
-/

namespace GoProbe

structure Host where
  disk : Disk := {}
  workDir : Place := []
  tempDir : String := "/tmp"
  /-- How many temporary names have been handed out. -/
  serial : Nat := 0
deriving Inhabited

/-! ## Faults -/

/-- What can be asked of a disk. -/
inductive DiskAction where
  /-- What a path leads to. -/
  | look (path : String)
  | read (path : String)
  /-- The names in a directory. -/
  | list (dir : Place)
  /-- The kind of a node that was listed. -/
  | visit (place : Place)
  | makeDir (path : String)
  | makeTemp (dir : Place)
  | write (path : String)
  | copy (source target : String)
deriving DecidableEq, Repr, Inhabited

/-- How an action is broken off. -/
structure Fault where
  cause : DiskError
  /-- How much of a file is written before, if it is opened at all. -/
  written : Option Nat := none
deriving DecidableEq, Repr, Inhabited

/-- What goes wrong on a host although its nodes are in order. -/
class Faults where
  fault? : Host → DiskAction → Option Fault

namespace Standard

/-- A host on which all goes well if its nodes are in order. -/
scoped instance faults : Faults := ⟨fun _ _ => none⟩

end Standard

variable [Faults]

namespace Host

/-- Asks whether an action goes well. -/
def allow (host : Host) (action : DiskAction) : Except DiskError Unit :=
  match Faults.fault? host action with
  | some fault => .error fault.cause
  | none => .ok ()

/-! ## Looking -/

/-- Where a path leads. -/
def locate (host : Host) (follow : Bool) (path : String) : Except DiskError Found :=
  host.disk.locate host.workDir follow path

/-- The node that a path leads to. -/
def node? (host : Host) (path : String) : Option DiskNode :=
  match host.locate true path with
  | .ok (.node _ node) => some node
  | _ => none

/-- The node that a path is seen to lead to. -/
def seen? (host : Host) (path : String) : Option DiskNode :=
  match host.allow (.look path) with
  | .ok () => host.node? path
  | .error _ => none

def isFile (host : Host) (path : String) : Bool :=
  (host.seen? path).any DiskNode.isFile

def isDir (host : Host) (path : String) : Bool :=
  (host.seen? path).any DiskNode.isDir

def pathExists (host : Host) (path : String) : Bool :=
  (host.seen? path).isSome

/-- The place of an existing node. -/
def place (host : Host) (path : String) : Except DiskError Place := do
  host.allow (.look path)
  match ← host.locate true path with
  | .node place _ => return place
  | .absent _ => throw .notFound

/-- The bytes of a file. -/
def read (host : Host) (path : String) : Except DiskError ByteArray := do
  host.allow (.read path)
  match ← host.locate true path with
  | .node _ (.file content _) => return content
  | .node _ .dir => throw .isDirectory
  | .node _ (.link _) => throw .tooManyLinks
  | .absent _ => throw .notFound

/-- The text of a file. -/
def readText (host : Host) (path : String) : Except DiskError String := do
  match String.fromUTF8? (← host.read path) with
  | some text => return text
  | none => throw .notText

end Host

/-! ## Changing -/

/-- A computation on the host; the host outlives a failure. -/
abbrev OnDisk := ExceptT DiskError (StateM Host)

namespace OnDisk

/-- Puts a node to a place. -/
def put (place : Place) (node : DiskNode) : OnDisk Unit :=
  modify fun host => { host with disk := host.disk.put place node }

/-- Fills a file, with all of its content or up to where the action is broken off. -/
def fill (action : DiskAction) (place : Place) (content : ByteArray) (executable : Bool) :
    OnDisk Unit := do
  match Faults.fault? (← get) action with
  | none => put place (.file content executable)
  | some ⟨cause, none⟩ => throw cause
  | some ⟨cause, some written⟩ =>
    put place (.file (content.extract 0 written) executable)
    throw cause

/-- Writes a file, which keeps its mode if it exists. -/
def write (path : String) (content : ByteArray) : OnDisk Unit := do
  match ← (← get).locate true path with
  | .node place (.file _ executable) => fill (.write path) place content executable
  | .node _ .dir => throw .isDirectory
  | .node _ (.link _) => throw .tooManyLinks
  | .absent place => fill (.write path) place content false

/-- A path without slashes at its end. -/
def trimSlashes (path : String) : String :=
  match path.toList.reverse.dropWhile (· == '/') with
  | [] => path
  | chars => String.ofList chars.reverse

/-- Makes one directory. -/
def makeDir (path : String) : OnDisk Unit := do
  (← get).allow (.makeDir path)
  match ← (← get).locate false (trimSlashes path) with
  | .node _ _ => throw .alreadyThere
  | .absent place => put place .dir

/-- Makes the directories of a list that starts with the innermost, those that exist apart. -/
def makeMissing : List String → OnDisk Unit
  | [] => return
  | "" :: _ => return
  | path :: above => do
    try makeDir path
    catch
      | .notFound => do
        makeMissing above
        try makeDir path
        catch err => if !(← get).isDir path then throw err
      | err => if !(← get).isDir path then throw err

/-- Makes a directory and whatever is missing above it. -/
def makeDirs (path : String) : OnDisk Unit :=
  makeMissing (Path.ancestors (path.length + 1) path)

/-- Copies a file with its mode; the source may be a link to one. -/
def copyFile (source target : String) : OnDisk Unit := do
  match ← (← get).locate true source with
  | .node _ (.file content executable) =>
    match ← (← get).locate true target with
    | .node place (.file _ _) => fill (.copy source target) place content executable
    | .node _ .dir => throw .isDirectory
    | .node _ (.link _) => throw .tooManyLinks
    | .absent place => fill (.copy source target) place content executable
  | .node _ _ => throw .invalid
  | .absent _ => throw .notFound

/-- Removes a place and everything below it. -/
def removeTree (place : Place) : OnDisk Unit :=
  modify fun host => { host with disk := host.disk.remove place }

/-! ## Temporary directories -/

/-- The six characters that set one temporary name off from the others. -/
def suffix (number : Nat) : String :=
  let digits := toString number
  "".pushn '0' (6 - digits.length) ++ digits

/-- The first number from `number` on whose name is free; `tries` bounds the search. -/
def freeNumber (disk : Disk) (dir : Place) (stem : String) : Nat → Nat → Nat
  | 0, number => number
  | tries + 1, number =>
    if (disk.node? (dir ++ [stem ++ suffix number])).isSome then
      freeNumber disk dir stem tries (number + 1)
    else number

/-- Makes a directory with a new name that starts with `stem`. -/
def makeTemp (dir : Place) (stem : String) : OnDisk Place := do
  let host ← get
  host.allow (.makeTemp dir)
  let number := freeNumber host.disk dir stem (host.disk.nodes.length + 1) (host.serial + 1)
  let place := dir ++ [stem ++ suffix number]
  set { host with serial := number, disk := host.disk.put place .dir }
  return place

end OnDisk

end GoProbe
