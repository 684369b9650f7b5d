import GoProbe.Failure

/-!
# Modules and packages on disk

A module is a directory with a module file, and everything below it; a package is one directory of
it. The sources of a package are the regular files in its directory whose names end in `.go` and
match no exclude pattern, in the order of their names.
-/

namespace GoProbe

/-- The name of a module file. -/
def moduleFileName : String := "go.mod"

namespace Place

/-- The place itself and the places above it, the nearest first. -/
def upward (place : Place) : List Place :=
  (List.range (place.length + 1)).reverse.map place.take

end Place

namespace Host

variable [Faults]

/-- The place of the module that a place belongs to. -/
def moduleRoot? (host : Host) (start : Place) : Option Place :=
  start.upward.find? fun dir => host.isFile (Path.join dir.path moduleFileName)

/-- The names of the regular files that stand directly in a directory, in order. -/
def fileNames (host : Host) (dir : Place) : List String :=
  ((host.disk.children dir).filterMap fun (name, node) => if node.isFile then some name else none)
    |>.mergeSort fun a b => decide (a ≤ b)

/-- Lists the regular files of a directory. -/
def listFiles (host : Host) (dir : String) : Except DiskError (List String) := do
  let place ← host.place dir
  host.allow (.list place)
  return host.fileNames place

end Host

/-- Whether a file of a package is one of its sources. -/
def isSourceName (excluded : List Pattern) (name : String) : Bool :=
  endsWith name ".go" && !excluded.any (·.matchesText name)

namespace Run

variable [Faults]

/-- The place that a path leads to. -/
def placeOf (path : String) : Run Place := do
  ofExcept (.disk path) ((← get).place path)

/-- The place of the module that a path belongs to. -/
def findModule (path : String) : Run Place := do
  let start ← placeOf path
  match (← get).moduleRoot? start with
  | some root => return root
  | none => throw (.noModule start.path)

/-- The names of the sources in a directory. -/
def sourceNames (dir : String) (exclude : List String) : Run (List String) := do
  let excluded ← ofExcept .pattern (exclude.mapM Pattern.ofText)
  let names ← ofExcept (fun cause => .disk dir (cause.walking dir)) ((← get).listFiles dir)
  return names.filter (isSourceName excluded)

/-- The paths of the sources in a directory. -/
def sourcePaths (dir : String) (exclude : List String) : Run (List String) := do
  return (← sourceNames dir exclude).map (Path.join dir)

end Run

end GoProbe
