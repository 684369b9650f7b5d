import GoProbe.Settings.Basic
import GoProbe.Tree.Basic

/-!
# Backends

A backend says what a probe looks like, which functions get probes, and how the probed copy of a
function goes back into its file.

The table backend counts in one map of the package: every function gets probes and is replaced by
its probed copy. The trace backend appends ids to a list that the caller passes in: only tracked
functions get probes, and the probed copy, with one more parameter and a name of its own, stands
beside the function that is left as it was.
-/

namespace GoProbe

inductive Backend where
  | table (tableName fileName : String)
  | trace (parameter : String) (maxLength : Nat)
deriving DecidableEq, Repr, Inhabited

/-- How a probed function goes into its file. -/
inductive Patch where
  | replace (probed : FuncDecl)
  | shadow (func probed : FuncDecl)

namespace Patch

/-- The declarations that stand in place of the one that was probed. -/
def decls : Patch → List Decl
  | replace probed => [.func probed]
  | shadow func probed => [.func func, .func probed]

end Patch

/-- A file that a backend adds to the package. -/
structure SupportFile where
  name : String
  file : SourceFile

/-- The backend that the settings ask for. -/
def ProbeSettings.backendOf (settings : ProbeSettings) : Backend :=
  match settings.backend with
  | .table => .table settings.counterTableName settings.tableFileName
  | .trace => .trace settings.traceParameterName settings.maxTraceLength

/-- The name of the probed copy that stands beside a function. -/
def tracedName (name : String) : String :=
  "__traced_" ++ name ++ "__"

namespace Backend

/-- Whether a function gets probes; package-level initialisers count as untracked. -/
def covers : Backend → Bool → Bool
  | table _ _, _ => true
  | trace _ _, tracked => tracked

/-- The largest id that a trace can hold. -/
def maxTraceId : Nat := 65535

/-- Whether a probe can carry the id. -/
def holds : Backend → Nat → Bool
  | table _ _, _ => true
  | trace _ _, id => id ≤ maxTraceId

/-- The statement that records an id. -/
def probe : Backend → Nat → Stmt
  | table tableName _, id =>
    .incDec (.index (.name tableName) [.stringLit (toString id)]) .inc
  | trace parameter maxLength, id =>
    let list : Expr := .star (.name parameter)
    .ifElse
      { init := none
        cond := .binary (.apply (.name "len") [list]) .lss (.intLit maxLength)
        body := [.assign [list] .assign [.apply (.name "append") [list, .intLit id]]]
        otherwise := none }

/-- The parameter that takes the list of ids. -/
def traceField (parameter : String) : Field :=
  .plain [parameter] (.star (.sliceOf (.name "uint16")))

end Backend

namespace Field

/-- The field with a blank name if it has none. -/
def withName (field : Field) : Field :=
  match field.names with
  | [] => { field with names := [{ name := "_" }] }
  | _ => field

end Field

/-- Puts `field` at the end, or before the last field if that takes any number of arguments. -/
def insertBeforeVariadic (field : Field) (variadic : Bool) (params : List Field) : List Field :=
  if variadic then params.dropLast ++ field :: params.getLast?.toList else params ++ [field]

namespace Backend

/-- Puts the probed copy of a function to its place. -/
def finalize (backend : Backend) (func probed : FuncDecl) : Patch :=
  match backend with
  | table _ _ => .replace probed
  | trace parameter _ =>
    .shadow func
      { probed with
        name := tracedName func.name
        signature :=
          { probed.signature with
            params := insertBeforeVariadic (traceField parameter) probed.isVariadic
              (probed.signature.params.map Field.withName) } }

/-- The files that the backend adds to a package. -/
def supportFiles (backend : Backend) (package : String) : List SupportFile :=
  match backend with
  | table tableName fileName =>
    let counters : Spec :=
      .value [{ name := tableName }] none
        [.apply (.name "make") [.mapType (.name "string") (.name "int")]]
    [{ name := fileName
       file :=
        { packageName := package
          packagePath := ""
          decls := [.gen { kind := .vars, specs := [counters], grouped := false }] } }]
  | trace _ _ => []

end Backend

end GoProbe
