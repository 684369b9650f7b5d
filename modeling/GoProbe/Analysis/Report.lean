import GoProbe.Analysis.Imports
import GoProbe.Analysis.Seeds
import GoProbe.Analysis.Support

/-!
# Reports

A request names functions and methods of a file; without names it asks for all of them. The report
holds a record for every requested function that is supported, in the order of the declarations,
and lists the names of those that are not supported and of those that are not there.
-/

namespace GoProbe

/-- A parameter or result; its type is a name in the function's pool. -/
structure Variable where
  name : String
  typeName : String
deriving DecidableEq, Repr, Inhabited

/-- All that a generator needs to call one function. -/
structure FunctionRecord where
  name : String
  pool : TypePool
  receiver : Option Variable
  parameters : List Variable
  results : List Variable
  /-- Literal seeds by primitive type. -/
  constants : Dict (List String)
  imports : List RequiredImport
  position : Position
deriving Inhabited

structure FileReport where
  path : String
  definingModule : String
  functions : List FunctionRecord
  notSupported : List String
  notFound : List String
deriving Inhabited

/-- A file and the functions and methods asked for; without any, all of them. -/
structure FileRequest where
  path : String
  functions : List String
  methods : List String
deriving DecidableEq, Repr, Inhabited

namespace FileRequest

def isWholeFile (request : FileRequest) : Bool :=
  request.functions.isEmpty && request.methods.isEmpty

end FileRequest

/-- A signature slot that came without a type. -/
structure UnresolvedSlot where
  file : String
  function : String
  slot : Slot
deriving DecidableEq, Repr, Inhabited

namespace UnresolvedSlot

def message (err : UnresolvedSlot) : String :=
  s!"Unresolved type for {err.slot.text} of `{err.function}` in {err.file}"

end UnresolvedSlot

/-! ## Records -/

namespace Field

/-- One variable for each name of the field, or one without a name. -/
def toVariables (field : Field) (typeName : String) : List Variable :=
  match field.names with
  | [] => [⟨"", typeName⟩]
  | names => names.map fun id => ⟨id.name, typeName⟩

end Field

namespace SlotKind

/-- The variables of the fields, and the pool with their types; `index` counts the fields. -/
def collect (kind : SlotKind) :
    Nat → List Field → TypePool → Except Slot (List Variable × TypePool)
  | _, [], pool => .ok ([], pool)
  | index, field :: rest, pool =>
    match field.resolved with
    | none => .error ⟨kind, index⟩
    | some type => do
      let (key, pool) := type.enter.run pool
      let (others, pool) ← kind.collect (index + 1) rest pool
      return (field.toVariables key ++ others, pool)

end SlotKind

namespace FuncDecl

/-- The record of a function in package `package`, if all slots have types. -/
def record (func : FuncDecl) (package : String) : Except Slot FunctionRecord := do
  let (parameters, pool) ← SlotKind.parameter.collect 0 func.signature.params .empty
  let (results, pool) ← SlotKind.result.collect 0 func.signature.results pool
  return {
    name := func.qualifiedName
    pool
    receiver := none
    parameters
    results
    constants := func.body.elim .empty harvest
    imports := func.requiredImports package
    position := func.position }

end FuncDecl

/-! ## Selection -/

namespace SourceFile

/-- Where the first function without receiver of this name stands among the functions. -/
def functionIndex? (file : SourceFile) (name : String) : Option Nat :=
  file.functions.findIdx? fun func => func.receiver.isNone && func.name == name

/-- Where the first method of this bare or qualified name stands among the functions. -/
def methodIndex? (file : SourceFile) (name : String) : Option Nat :=
  file.functions.findIdx? fun func =>
    func.receiver.isSome && (func.qualifiedName == name || func.name == name)

/-- The places of the requested functions, each once, in the order of the request. -/
def requestedIndices (file : SourceFile) (request : FileRequest) : List Nat :=
  (request.functions.filterMap file.functionIndex? ++
    request.methods.filterMap file.methodIndex?).eraseDups

/-- The functions that a request is about. -/
def candidates (file : SourceFile) (request : FileRequest) : List FuncDecl :=
  if request.isWholeFile then file.functions
  else (file.requestedIndices request).filterMap (file.functions[·]?)

/-- The requested names that no declaration has. -/
def missingNames (file : SourceFile) (request : FileRequest) : List String :=
  request.functions.filter (fun name => (file.functionIndex? name).isNone) ++
    request.methods.filter (fun name => (file.methodIndex? name).isNone)

end SourceFile

/-! ## Reports -/

namespace Position

/-- By line, then by column. -/
def le (a b : Position) : Bool :=
  decide (a.line < b.line) || (a.line == b.line && decide (a.column ≤ b.column))

end Position

/-- What a report says about one candidate. -/
inductive Finding where
  | supported (record : FunctionRecord)
  | unsupported (name : String)

namespace Finding

def record? : Finding → Option FunctionRecord
  | supported record => some record
  | unsupported _ => none

def unsupportedName? : Finding → Option String
  | supported _ => none
  | unsupported name => some name

end Finding

namespace FuncDecl

/-- The record of a supported function, or the name of one that is not. -/
def finding (func : FuncDecl) (package : String) : Except Slot Finding :=
  match func.checkSupport with
  | .ok _ => (func.record package).map .supported
  | .error (.unsupported _) => .ok (.unsupported func.qualifiedName)
  | .error (.unresolved slot) => .error slot

end FuncDecl

namespace SourceFile

/-- The report on the requested functions of a file. -/
def report (file : SourceFile) (request : FileRequest) : Except UnresolvedSlot FileReport := do
  let findings ← (file.candidates request).mapM fun func =>
    (func.finding file.packagePath).mapError fun slot =>
      { file := request.path, function := func.qualifiedName, slot }
  return {
    path := request.path
    definingModule := file.packagePath
    functions := (findings.filterMap Finding.record?).mergeSort fun a b =>
      a.position.le b.position
    notSupported := ascendingNames (findings.filterMap Finding.unsupportedName?)
    notFound := ascendingNames
      (if request.isWholeFile then [] else file.missingNames request) }

end SourceFile

end GoProbe
