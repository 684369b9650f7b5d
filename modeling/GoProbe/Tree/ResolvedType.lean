import GoProbe.Tree.Operator

/-!
# Identifiers and resolved types

What the resolver found out about names and types: the package or declaration behind an
identifier, and for a type its display name, defining package, shape and method set. Nothing later
looks at the syntax of a type; it works on these records.
-/

namespace GoProbe

/-- A package: its import path and declared name. -/
structure PackageRef where
  path : String
  name : String
deriving DecidableEq, Repr, Inhabited

/-- What an identifier refers to. -/
inductive Resolution where
  /-- An imported package, such as the `fmt` of `fmt.Println`. -/
  | package (ref : PackageRef)
  /-- Any other declared object; predeclared objects have no package. -/
  | declared (package : Option PackageRef) (packageLevel : Bool)
deriving DecidableEq, Repr, Inhabited

structure Ident where
  name : String
  resolution : Option Resolution := none
deriving DecidableEq, Repr, Inhabited

/-- One method of a method set, parameter and result types by name. -/
structure MethodSignature where
  name : String
  params : List String
  results : List String
deriving DecidableEq, Repr, Inhabited

mutual

/-- A type as the resolver reports it. -/
structure ResolvedType where
  /-- Display name, such as `[]string` or `geometry.Point`. -/
  name : String
  /-- The defining package of a declared type. -/
  origin : Option PackageRef
  shape : TypeShape
  /-- The method set, promoted methods included. -/
  methods : List MethodSignature

inductive TypeShape where
  | basic (underlying : String)
  | array (element : ResolvedType) (length : UInt64)
  | slice (element : ResolvedType)
  | map (key element : ResolvedType)
  | chan (element : ResolvedType) (direction : ChanDir)
  | pointer (element : ResolvedType)
  | struct (fields : List ResolvedField)
  | interface (implementers : List String)
  | func
  | typeParam

structure ResolvedField where
  name : String
  type : ResolvedType
  exported : Bool

end

instance : Inhabited TypeShape := ⟨.func⟩

instance : Inhabited ResolvedType := ⟨⟨"", none, .func, []⟩⟩

/-- Whether the method is `Error() string`. -/
def MethodSignature.isErrorMethod (method : MethodSignature) : Bool :=
  method.name == "Error" && method.params.isEmpty && method.results == ["string"]

namespace ResolvedType

/-- A predeclared basic type such as `int`. -/
def basic (name : String) : ResolvedType :=
  { name, origin := none, shape := .basic name, methods := [] }

/-- The predeclared interface `error`. -/
def error : ResolvedType :=
  { name := "error", origin := none, shape := .interface [],
    methods := [{ name := "Error", params := [], results := ["string"] }] }

/-- Whether the method set has `Error() string`. -/
def implementsError (type : ResolvedType) : Bool :=
  type.methods.any MethodSignature.isErrorMethod

end ResolvedType

/-! ## Names of basic types -/

/-- The basic types for which values can be generated. -/
def primitiveNames : List String :=
  ["bool", "int", "int8", "int16", "int32", "int64", "uint", "uint8", "uint16", "uint32", "uint64",
    "uintptr", "float32", "float64", "complex64", "complex128", "string", "byte", "rune"]

def isPrimitiveName (name : String) : Bool :=
  primitiveNames.contains name

/-- The type that an untyped constant defaults to; any other name stands for itself. -/
def defaultTypeName : String → String
  | "untyped int" => "int"
  | "untyped float" => "float64"
  | "untyped rune" => "rune"
  | "untyped string" => "string"
  | "untyped bool" => "bool"
  | "untyped complex" => "complex128"
  | name => name

end GoProbe
