import GoProbe.Dict
import GoProbe.Tree.ResolvedType

/-!
# Type pools

A pool describes the types that a signature mentions, by display name. An entry refers to other
types by name only, so a pool is flat.

A type is *named* when its methods make it an error, or when it is declared over a basic type; its
entry then points to the anonymous type underneath. Every other type is described by its shape;
functions and type parameters, for which no values can be made, count as interfaces that nothing
implements.

A type enters the pool after its parts, and only if its name is not there yet.
-/

namespace GoProbe

/-- A field of a struct entry. -/
structure EntryField where
  name : String
  typeName : String
  exported : Bool
deriving DecidableEq, Repr, Inhabited

/-- What a pool says about one type. -/
inductive TypeEntry where
  | named (name : String) (definingModule : Option String) (isError : Bool) (underlying : String)
  | interface (name : String) (implementers : List String)
  | primitive (name : String)
  | struct (name : String) (fields : List EntryField)
  | array (name element : String) (length : UInt64)
  | slice (name element : String)
  | map (name key element : String)
  | chan (name element : String) (direction : ChanDir)
  | pointer (name element : String)
deriving DecidableEq, Repr, Inhabited

namespace TypeEntry

def name : TypeEntry → String
  | named n _ _ _ => n
  | interface n _ => n
  | primitive n => n
  | struct n _ => n
  | array n _ _ => n
  | slice n _ => n
  | map n _ _ => n
  | chan n _ _ => n
  | pointer n _ => n

/-- The names of the types that the entry refers to. -/
def references : TypeEntry → List String
  | named _ _ _ underlying => [underlying]
  | interface _ _ => []
  | primitive _ => []
  | struct _ fields => fields.map (·.typeName)
  | array _ element _ => [element]
  | slice _ element => [element]
  | map _ key element => [key, element]
  | chan _ element _ => [element]
  | pointer _ element => [element]

def isPrimitive : TypeEntry → Bool
  | primitive _ => true
  | _ => false

/-- Whether the type is named for being an error. -/
def isError : TypeEntry → Bool
  | named _ _ isError _ => isError
  | _ => false

end TypeEntry

/-- The types of a signature by display name. -/
abbrev TypePool := Dict TypeEntry

/-! ## Spelling of anonymous types -/

/-- A method as it stands in an interface. -/
def MethodSignature.spelling (method : MethodSignature) : String :=
  let results := match method.results with
    | [] => ""
    | [result] => " " ++ result
    | results => " (" ++ ", ".intercalate results ++ ")"
  method.name ++ "(" ++ ", ".intercalate method.params ++ ")" ++ results

/-- The literal that spells the type's shape, its parts by name. -/
def ResolvedType.literalName (type : ResolvedType) : String :=
  match type.shape with
  | .basic underlying => underlying
  | .array element length => "[" ++ toString length ++ "]" ++ element.name
  | .slice element => "[]" ++ element.name
  | .map key element => "map[" ++ key.name ++ "]" ++ element.name
  | .chan element .both => "chan " ++ element.name
  | .chan element .send => "chan<- " ++ element.name
  | .chan element .recv => "<-chan " ++ element.name
  | .pointer element => "*" ++ element.name
  | .struct fields =>
    "struct\x7b" ++ "; ".intercalate (fields.map fun f => f.name ++ " " ++ f.type.name) ++ "\x7d"
  | .interface _ =>
    "interface\x7b" ++ "; ".intercalate (type.methods.map MethodSignature.spelling) ++ "\x7d"
  | .func => type.name
  | .typeParam => type.name

def TypeShape.isBasic : TypeShape → Bool
  | .basic _ => true
  | _ => false

/-- Whether the type points to an anonymous type underneath. -/
def ResolvedType.isNamed (type : ResolvedType) : Bool :=
  type.implementsError || (type.origin.isSome && type.shape.isBasic)

/-! ## Filling a pool -/

/-- Work that reads a pool and adds to it. -/
abbrev Pooling := StateM TypePool

namespace Pooling

/-- The key of the type called `name`: that of the entry which stands there already, or else of
the one that `describe` gives. That one is added after all that `describe` itself adds. -/
def key (name : String) (describe : Pooling TypeEntry) : Pooling String := do
  match (← get).get? name with
  | some entry => return entry.name
  | none =>
    let entry ← describe
    modify fun pool => pool.insert entry.name entry
    return entry.name

end Pooling

mutual

/-- The entry of a type; the types it mentions are added. -/
def ResolvedType.describe : ResolvedType → Pooling TypeEntry
  | ⟨name, origin, shape, methods⟩ => do
    let type : ResolvedType := ⟨name, origin, shape, methods⟩
    if type.isNamed then
      let underlying ← Pooling.key type.literalName (shape.describe type.literalName)
      return .named name (origin.map (·.path)) type.implementsError underlying
    else shape.describe name

/-- The entry of a type that is described by its shape alone. -/
def TypeShape.describe : TypeShape → String → Pooling TypeEntry
  | .basic _, name => return .primitive name
  | .array element length, name => do
    let element ← Pooling.key element.name element.describe
    return .array name element length
  | .slice element, name => do
    let element ← Pooling.key element.name element.describe
    return .slice name element
  | .map key element, name => do
    let key ← Pooling.key key.name key.describe
    let element ← Pooling.key element.name element.describe
    return .map name key element
  | .chan element direction, name => do
    let element ← Pooling.key element.name element.describe
    return .chan name element direction
  | .pointer element, name => do
    let element ← Pooling.key element.name element.describe
    return .pointer name element
  | .struct fields, name => return .struct name (← ResolvedField.describeAll fields)
  | .interface implementers, name => return .interface name implementers
  | .func, name => return .interface name []
  | .typeParam, name => return .interface name []

def ResolvedField.describeAll : List ResolvedField → Pooling (List EntryField)
  | [] => return []
  | ⟨name, type, exported⟩ :: rest => do
    let typeName ← Pooling.key type.name type.describe
    return { name, typeName, exported } :: (← ResolvedField.describeAll rest)

end

namespace ResolvedType

/-- Adds a type and all types it mentions; gives its key. -/
def enter (type : ResolvedType) : Pooling String :=
  Pooling.key type.name type.describe

/-- The pool with a type and all types it mentions. -/
def addTo (type : ResolvedType) (pool : TypePool) : TypePool :=
  (type.enter.run pool).2

/-- The entry of the type in a pool of its own. -/
def entry (type : ResolvedType) : TypeEntry :=
  (type.describe.run .empty).1

end ResolvedType

end GoProbe
