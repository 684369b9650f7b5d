import GoProbe.Failure
import GoProbe.Json.Decode
import GoProbe.Text.Lossy
import GoProbe.Tree.Decode

/-!
# Resolvers

A resolver hands out the tree of a source file: from a file that was written beside the source,
from a program that prints it, or from a list of trees that are at hand. It looks at the host and
leaves it as it is.
-/

namespace GoProbe

structure Resolver where
  /-- The tree of a source file. -/
  load : Host → String → Except Failure SourceFile

/-- The tree in a text that was found for a path. -/
def treeOfText (path text : String) : Except Failure SourceFile :=
  match SourceFile.decoder.ofText text with
  | .ok file => .ok file
  | .error _ => .error (.exchange path)

namespace Resolver

variable [Faults]

/-- The resolver that reads trees from files beside the sources, told by a suffix. -/
def dump (suffix : String) : Resolver where
  load host source :=
    let dump := Path.dumpPath source suffix
    match host.readText dump with
    | .ok text => treeOfText dump text
    | .error cause => .error (.resolver source (.dumpUnreadable dump cause))

/-- The resolver that has trees at hand; of several for one path, the last counts. -/
def ofFiles (files : List (String × SourceFile)) : Resolver where
  load _ source :=
    match files.reverse.find? fun file => Path.same file.1 source with
    | some file => .ok file.2
    | none => .error (.resolver source .unknownPath)

variable [Programs]

/-- The resolver that runs a program, which gets the source as its last argument and prints the
tree. -/
def program (path : String) (args : List String) : Resolver where
  load host source := do
    let outcome ← (Programs.run host path (args ++ [source])).mapError fun cause =>
      .resolver source (.cannotRun path cause)
    if !outcome.status.isSuccess then
      throw (.resolver source (.exited outcome.status (Text.trim (Text.lossy outcome.errors))))
    match String.fromUTF8? outcome.output with
    | some text => treeOfText source text
    | none => throw (.resolver source .outputNotText)

/-- The resolver that the settings ask for. -/
def ofSettings (host : Host) (settings : ResolverSettings) : Except Failure Resolver :=
  match settings.kind with
  | .dump => .ok (.dump settings.dumpSuffix)
  | .command =>
    match settings.command with
    | none => .error (.settings .commandUnset)
    | some command =>
      match Programs.find? host command with
      | some path => .ok (.program path settings.args)
      | none => .error (.resolver command .programNotFound)

end Resolver

end GoProbe
