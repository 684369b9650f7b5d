import GoProbe.Analysis.Report
import GoProbe.Disk.Host
import GoProbe.Pattern
import GoProbe.Probe.Ledger
import GoProbe.Resolver.Program
import GoProbe.Settings.File

/-!
# Failures

What ends a whole run: a file that cannot be read or written, settings or exchanged data that are
not in order, a resolver without a tree, a type that is missing, probes that cannot be placed, a
module that cannot be copied. Functions that are not supported or not found are results and not
failures.
-/

namespace GoProbe

/-- Why a resolver has no tree for a path. -/
inductive ResolverError where
  | unknownPath
  | dumpUnreadable (dump : String) (cause : DiskError)
  | programNotFound
  | cannotRun (program : String) (cause : DiskError)
  | exited (status : ExitStatus) (errors : String)
  | outputNotText
deriving DecidableEq, Repr, Inhabited

namespace ResolverError

def message : ResolverError → String
  | unknownPath => "no tree registered for this path"
  | dumpUnreadable dump cause => s!"cannot read dump {dump}: {cause.message}"
  | programNotFound => "resolver executable not found: cannot find binary path"
  | cannotRun program cause => s!"failed to run {program}: {cause.message}"
  | exited status errors => s!"resolver exited with {status.message}: {errors}"
  | outputNotText => "resolver output is not valid UTF-8"

end ResolverError

inductive Failure where
  | disk (path : String) (cause : DiskError)
  | exchange (path : String)
  | settings (err : SettingsError)
  | resolver (path : String) (err : ResolverError)
  | unresolved (err : UnresolvedSlot)
  | probing (err : ProbeError)
  /-- No directory above the path, or the path itself, holds a module file. -/
  | noModule (path : String)
  /-- A module cannot be walked through. -/
  | walk (root : String) (cause : DiskError)
  | pattern (err : PatternError)
deriving DecidableEq, Repr, Inhabited

namespace Failure

/-- The kind of a failure. -/
def category : Failure → String
  | disk _ _ => "I/O"
  | exchange _ => "Protocol"
  | settings _ => "Config"
  | resolver _ _ => "Oracle"
  | unresolved _ => "Type resolution"
  | probing _ => "Instrumentation"
  | noModule _ => "Workspace"
  | walk _ _ => "Workspace"
  | pattern _ => "Pattern"

/-- The path at which a disk or exchange failure arose. -/
def path? : Failure → Option String
  | disk path _ => some path
  | exchange path => some path
  | _ => none

def message : Failure → String
  | disk path cause => s!"I/O error at {path}: {cause.message}"
  | exchange path => s!"Invalid JSON in {path}"
  | settings err => s!"Configuration error: {err.message}"
  | resolver path err => s!"Oracle failed for {path}: {err.message}"
  | unresolved err => err.message
  | probing err => err.message
  | noModule path => s!"Workspace error at {path}: no go.mod found in any parent directory"
  | walk root cause => s!"Workspace error at {root}: {cause.message}"
  | pattern err => err.message

end Failure

/-- A run on a host; what it has done before it fails stays done. -/
abbrev Run := ExceptT Failure (StateM Host)

namespace Run

/-- Does something on the disk; a failure is reported at a path. -/
def onDisk {α : Type} (path : String) (work : OnDisk α) : Run α :=
  ExceptT.mk do
    return (← work.run).mapError (.disk path)

/-- Takes a result that may have failed for any reason. -/
def ofExcept {ε α : Type} (wrap : ε → Failure) : Except ε α → Run α
  | .ok a => return a
  | .error err => throw (wrap err)

end Run

end GoProbe
