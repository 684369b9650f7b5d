import GoProbe.Analysis.Report
import GoProbe.Json.Plain
import GoProbe.Tree.Decode
import GoProbe.Tree.Encode

/-!
# Requests and reports as JSON

The exchange form of the analysis: requests come in, reports go out. Field names are in camel
case. A pool entry is an object told by its member `kind`.
-/

namespace GoProbe

open Json (Decoder Row)

namespace Dict

/-- The entries as an object. -/
def toJson {α : Type} (encode : α → Json) (dict : Dict α) : Json :=
  .object (dict.entries.map fun entry => (entry.1, encode entry.2))

end Dict

/-! ## Pool entries -/

namespace EntryField

def toJson (field : EntryField) : Json :=
  .object [("name", .string field.name), ("type", .string field.typeName),
    ("exported", .bool field.exported)]

def decoder : Decoder EntryField :=
  .record do
    return { name := ← .field "name" .string
             typeName := ← .field "type" .string
             exported := ← .field "exported" .bool }

end EntryField

namespace TypeEntry

def toJson : TypeEntry → Json
  | named name definingModule isError underlying =>
    .object (("kind", .string "named") :: ("name", .string name) ::
      Json.optionalMember "definingModule" .string definingModule ++
      [("implementsErrorProtocol", .bool isError), ("underlying", .string underlying)])
  | interface name implementers =>
    .object [("kind", .string "interface"), ("name", .string name),
      ("knownImplementers", .listOf .string implementers)]
  | primitive name => .object [("kind", .string "primitive"), ("name", .string name)]
  | struct name fields =>
    .object [("kind", .string "struct"), ("name", .string name),
      ("fields", .listOf EntryField.toJson fields)]
  | array name element length =>
    .object [("kind", .string "array"), ("name", .string name), ("elementType", .string element),
      ("length", .nat length.toNat)]
  | slice name element =>
    .object [("kind", .string "slice"), ("name", .string name), ("elementType", .string element)]
  | map name key element =>
    .object [("kind", .string "map"), ("name", .string name), ("keyType", .string key),
      ("elementType", .string element)]
  | chan name element direction =>
    .object [("kind", .string "chan"), ("name", .string name), ("elementType", .string element),
      ("direction", .string direction.tag)]
  | pointer name element =>
    .object [("kind", .string "pointer"), ("name", .string name), ("elementType", .string element)]

/-- The fields of an entry of each kind. -/
def row : String → Option (Row TypeEntry)
  | "named" => some do
    return .named (← .field "name" .string) (← .optional "definingModule" .string)
      (← .field "implementsErrorProtocol" .bool) (← .field "underlying" .string)
  | "interface" => some do
    return .interface (← .field "name" .string) (← .field "knownImplementers" (.list .string))
  | "primitive" => some do
    return .primitive (← .field "name" .string)
  | "struct" => some do
    return .struct (← .field "name" .string) (← .field "fields" (.list EntryField.decoder))
  | "array" => some do
    return .array (← .field "name" .string) (← .field "elementType" .string)
      (← .field "length" .word64)
  | "slice" => some do
    return .slice (← .field "name" .string) (← .field "elementType" .string)
  | "map" => some do
    return .map (← .field "name" .string) (← .field "keyType" .string)
      (← .field "elementType" .string)
  | "chan" => some do
    return .chan (← .field "name" .string) (← .field "elementType" .string)
      (← .field "direction" (.enumeration ChanDir.ofTag?))
  | "pointer" => some do
    return .pointer (← .field "name" .string) (← .field "elementType" .string)
  | _ => none

def decoder : Decoder TypeEntry :=
  .tagged "kind" row

end TypeEntry

/-! ## Function records -/

namespace RequiredImport

def toJson (required : RequiredImport) : Json :=
  .object [("path", .string required.path), ("alias", .string required.localName)]

def decoder : Decoder RequiredImport :=
  .record do
    return { path := ← .field "path" .string, localName := ← .field "alias" .string }

end RequiredImport

namespace Variable

def toJson (v : Variable) : Json :=
  .object [("name", .string v.name), ("type", .string v.typeName)]

def decoder : Decoder Variable :=
  .record do
    return { name := ← .field "name" .string, typeName := ← .field "type" .string }

end Variable

namespace FunctionRecord

def toJson (record : FunctionRecord) : Json :=
  .object (("name", .string record.name) :: ("typePool", record.pool.toJson TypeEntry.toJson) ::
    Json.optionalMember "receiver" Variable.toJson record.receiver ++
    [("parameters", .listOf Variable.toJson record.parameters),
      ("results", .listOf Variable.toJson record.results),
      ("constants", record.constants.toJson (.listOf .string)),
      ("requiredImports", .listOf RequiredImport.toJson record.imports),
      ("declarationOrder", record.position.toJson)])

def decoder : Decoder FunctionRecord :=
  .record do
    return { name := ← .field "name" .string
             pool := ← .field "typePool" (.dict TypeEntry.decoder)
             receiver := ← .optional "receiver" Variable.decoder
             parameters := ← .field "parameters" (.list Variable.decoder)
             results := ← .field "results" (.list Variable.decoder)
             constants := ← .field "constants" (.dict (.list .string))
             imports := ← .field "requiredImports" (.list RequiredImport.decoder)
             position := ← .field "declarationOrder" Position.decoder }

end FunctionRecord

/-! ## Files and batches -/

namespace FileReport

def toJson (report : FileReport) : Json :=
  .object [("filePath", .string report.path), ("definingModule", .string report.definingModule),
    ("analyzedFunctions", .listOf FunctionRecord.toJson report.functions),
    ("notSupportedNames", .listOf .string report.notSupported),
    ("notFoundNames", .listOf .string report.notFound)]

def decoder : Decoder FileReport :=
  .record do
    return { path := ← .field "filePath" .string
             definingModule := ← .field "definingModule" .string
             functions := ← .field "analyzedFunctions" (.list FunctionRecord.decoder)
             notSupported := ← .field "notSupportedNames" (.list .string)
             notFound := ← .field "notFoundNames" (.list .string) }

end FileReport

namespace FileRequest

def toJson (request : FileRequest) : Json :=
  .object [("filePath", .string request.path),
    ("targetFunctionNames", .listOf .string request.functions),
    ("targetMethodNames", .listOf .string request.methods)]

def decoder : Decoder FileRequest :=
  .record do
    return { path := ← .field "filePath" .string
             functions := ← .listOr "targetFunctionNames" .string
             methods := ← .listOr "targetMethodNames" .string }

end FileRequest

end GoProbe
