import GoProbe.Module.Files

/-!
# Copies of modules

A module is never changed. Probed files go to a copy of it: a new directory that holds the files
and directories of the module, version control apart. A link is copied as the file that it leads
to. A copy that cannot be finished is removed again.
-/

namespace GoProbe

structure ModuleCopy where
  place : Place
  files : Nat
deriving DecidableEq, Repr, Inhabited

/-- How the names of copies start. -/
def copyStem : String := "seedprobe-"

/-- The name of the version control directory. -/
def versionControlName : String := ".git"

/-- Whether the copy at `copy` of the module at `root` takes what stands at a place. -/
def isCopied (root copy place : Place) : Bool :=
  root.isPrefixOf place && !copy.isPrefixOf place &&
    root.getLast? != some versionControlName &&
    (place.drop root.length).all (· != versionControlName)

/-- The order of places by their names; a directory comes before what stands in it. -/
def Place.le : Place → Place → Bool
  | [], _ => true
  | _ :: _, [] => false
  | a :: place, b :: other => decide (a < b) || (a == b && Place.le place other)

/-- What a copy of the module at `root` takes, each directory before what stands in it. -/
def Disk.copied (disk : Disk) (root copy : Place) : List (Place × DiskNode) :=
  (disk.entries.filter fun entry => isCopied root copy entry.1).mergeSort fun a b =>
    a.1.le b.1

/-- The path of a place below another, relative to it. -/
def Place.relativePath (root place : Place) : String :=
  "/".intercalate (place.drop root.length)

variable [Faults]

/-- Goes on with the walk through the module at `root`, at a place of it. -/
def Run.walk (root place : Place) (action : DiskAction) : Run Unit := do
  ofExcept (fun cause => .walk root.path (cause.walking place.path)) ((← get).allow action)

namespace ModuleCopy

def path (copy : ModuleCopy) : String := copy.place.path

/-- Copies one node; the answer is the number of files copied. What stands in a directory comes
next. -/
def take (root copy : Place) (entry : Place × DiskNode) : Run Nat := do
  let source := entry.1.path
  let target := Path.join copy.path (root.relativePath entry.1)
  Run.walk root entry.1 (.visit entry.1)
  match entry.2 with
  | .dir => do
    Run.onDisk target (.makeDirs target)
    Run.walk root entry.1 (.list entry.1)
    return 0
  | _ => do
    Run.onDisk source (.copyFile source target)
    return 1

/-- Does something with a copy, which is removed if that fails. -/
def orRemove {α : Type} (copy : Place) (work : Run α) : Run α := do
  try work
  catch failure => do
    Run.onDisk copy.path (.removeTree copy)
    throw failure

/-- Copies what stands in a module to a new directory. -/
def copyEntries (root copy : Place) : Run ModuleCopy := do
  let counts ← ((← get).disk.copied root copy).mapM (take root copy)
  return { place := copy, files := counts.foldl (· + ·) 0 }

/-- Copies the module at a place to a new directory below `outputRoot`. -/
def create (root outputRoot : String) : Run ModuleCopy := do
  Run.onDisk outputRoot (.makeDirs outputRoot)
  let output ← Run.placeOf outputRoot
  let root ← Run.placeOf root
  let copy ← Run.onDisk output.path (.makeTemp output copyStem)
  orRemove copy (copyEntries root copy)

/-- Writes a text into the copy and returns the path of the file. -/
def write (copy : ModuleCopy) (relative text : String) : Run String := do
  let target := Path.join copy.path relative
  match Path.parent? target with
  | none => pure ()
  | some parent => Run.onDisk parent (.makeDirs parent)
  Run.onDisk target (.write target text.toUTF8)
  return target

end ModuleCopy

end GoProbe
