import GoProbe.Disk.Basic
import GoProbe.Path

/-!
# Finding places

A path leads step by step from the root or from a directory to a place. A link on the way is
replaced by the steps of its target; a link at the end is followed or not, as the caller asks. The
last name may be missing, so that a caller can put something there.
-/

namespace GoProbe

/-- What can go wrong on a disk. -/
inductive DiskError where
  | notFound
  | notDirectory
  | isDirectory
  | alreadyThere
  | tooManyLinks
  | notText
  | invalid
  /-- Anything else, in the words of the system. -/
  | other (text : String)
deriving DecidableEq, Repr, Inhabited

namespace DiskError

def message : DiskError → String
  | notFound => "No such file or directory (os error 2)"
  | notDirectory => "Not a directory (os error 20)"
  | isDirectory => "Is a directory (os error 21)"
  | alreadyThere => "File exists (os error 17)"
  | tooManyLinks => "Too many levels of symbolic links (os error 40)"
  | notText => "stream did not contain valid UTF-8"
  | invalid => "Invalid argument (os error 22)"
  | other text => text

/-- What is told of an error that comes up while directories are walked through. -/
def walking (path : String) (cause : DiskError) : DiskError :=
  .other s!"IO error for operation on {path}: {cause.message}"

end DiskError

/-- What stands where a path leads. -/
inductive Found where
  | node (place : Place) (node : DiskNode)
  /-- Nothing yet, in a directory that exists. -/
  | absent (place : Place)

/-- How far the steps lead. -/
inductive Progress where
  | done (found : Found)
  /-- A link in the directory `dir`, with the steps behind it. -/
  | link (dir : Place) (target : String) (rest : List String)

namespace Disk

/-- The steps of a path. A slash at the end asks for a directory, as a dot does. -/
def stepsOf (path : String) : List String :=
  let steps := (Path.pieces path).filter (· != "")
  if path.toList.getLast? == some '/' then steps ++ ["."] else steps

/-- Takes steps from a directory up to the end or to a link. -/
def advance (disk : Disk) (follow : Bool) (dir : Place) : List String → Except DiskError Progress
  | [] => .ok (.done (.node dir .dir))
  | "." :: rest => advance disk follow dir rest
  | ".." :: rest => advance disk follow dir.dropLast rest
  | name :: rest =>
    match disk.node? (dir ++ [name]) with
    | none => if rest.isEmpty then .ok (.done (.absent (dir ++ [name]))) else .error .notFound
    | some .dir => advance disk follow (dir ++ [name]) rest
    | some (.file content executable) =>
      if rest.isEmpty then .ok (.done (.node (dir ++ [name]) (.file content executable)))
      else .error .notDirectory
    | some (.link target) =>
      if rest.isEmpty && !follow then .ok (.done (.node (dir ++ [name]) (.link target)))
      else .ok (.link dir target rest)

/-- Takes steps from a directory, through at most `links` links. -/
def locateFrom (disk : Disk) (follow : Bool) :
    Nat → Place → List String → Except DiskError Found
  | links, dir, steps =>
    match advance disk follow dir steps with
    | .error err => .error err
    | .ok (.done found) => .ok found
    | .ok (.link dir target rest) =>
      match links with
      | 0 => .error .tooManyLinks
      | links + 1 =>
        if target == "" then .error .notFound
        else
          locateFrom disk follow links (if Path.isAbsolute target then [] else dir)
            (stepsOf target ++ rest)

/-- How many links a path may lead through. -/
def maxLinks : Nat := 40

/-- Where a path leads, seen from the directory `workDir`. -/
def locate (disk : Disk) (workDir : Place) (follow : Bool) (path : String) :
    Except DiskError Found :=
  if path == "" then .error .notFound
  else
    disk.locateFrom follow maxLinks (if Path.isAbsolute path then [] else workDir) (stepsOf path)

end Disk

/-- The absolute path of a place. -/
def Place.path (place : Place) : String :=
  "/" ++ "/".intercalate place

end GoProbe
