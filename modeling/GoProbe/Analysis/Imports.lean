import GoProbe.Ascending
import GoProbe.Tree.Walk

/-!
# Required imports

What a caller has to import to spell everything that a function mentions. A package identifier
names its import. A declaration that came in through a dot import has no qualifier, and is told
from a qualified one by the identifier before it: a declaration of another package stands
unqualified unless its package was named directly before.
-/

namespace GoProbe

structure RequiredImport where
  path : String
  /-- Local name; `.` for unqualified access. -/
  localName : String
deriving DecidableEq, Repr, Inhabited

namespace RequiredImport

/-- By path, then by local name. -/
def le (a b : RequiredImport) : Bool :=
  decide (a.path < b.path) || (a.path == b.path && decide (a.localName ≤ b.localName))

end RequiredImport

/-- What has been read of a list of identifiers. -/
structure ImportScan where
  /-- Path of the package that the last identifier named. -/
  previous : Option String := none
  required : List RequiredImport := []

namespace ImportScan

/-- Reads one identifier of a function in package `own`. -/
def step (own : String) (scan : ImportScan) (id : Ident) : ImportScan :=
  match id.resolution with
  | some (.package ref) =>
    { previous := some ref.path, required := scan.required ++ [⟨ref.path, id.name⟩] }
  | some (.declared (some ref) true) =>
    if ref.path == own || scan.previous == some ref.path then { scan with previous := none }
    else { previous := none, required := scan.required ++ [⟨ref.path, "."⟩] }
  | _ => { scan with previous := none }

end ImportScan

/-- The imports that identifiers in package `own` need, ascending. -/
def requiredImports (own : String) (ids : List Ident) : List RequiredImport :=
  ascending RequiredImport.le (ids.foldl (ImportScan.step own) {}).required

/-- The imports that a function's signature and body need. -/
def FuncDecl.requiredImports (own : String) (func : FuncDecl) : List RequiredImport :=
  GoProbe.requiredImports own (identsOf (func.walkParts everywhere))

end GoProbe
