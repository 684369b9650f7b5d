import GoProbe.Json.Basic
import GoProbe.Tree.Basic

/-!
# Trees as JSON values

The stored form of trees. A node with several shapes is tagged by its shape, the tag around the
content; a record lists its fields in a fixed order. An absent part is written as `null`, except
for what only the resolver adds (resolutions, resolved types, constants, methods), for receivers
and tags, and for empty lists of type parameters, which are left out.
-/

namespace GoProbe

namespace PackageRef

def toJson (ref : PackageRef) : Json :=
  .object [("path", .string ref.path), ("name", .string ref.name)]

end PackageRef

namespace Resolution

def toJson : Resolution → Json
  | package ref => .tagged "package" ref.toJson
  | declared home packageLevel =>
    .tagged "declared" <|
      .object [("package", .orNull PackageRef.toJson home), ("package_level", .bool packageLevel)]

end Resolution

namespace Ident

def toJson (id : Ident) : Json :=
  .object (("name", .string id.name) ::
    Json.optionalMember "resolution" Resolution.toJson id.resolution)

end Ident

namespace Constant

def toJson (constant : Constant) : Json :=
  .object [("type_name", .string constant.typeName), ("value", .string constant.value)]

end Constant

namespace BasicLit

def toJson (lit : BasicLit) : Json :=
  .object (("kind", .string lit.kind.tag) :: ("value", .string lit.value) ::
    Json.optionalMember "constant" Constant.toJson lit.constant)

end BasicLit

namespace ImportSpec

def toJson (spec : ImportSpec) : Json :=
  .object [("alias", .orNull .string spec.localName), ("path", .string spec.path)]

end ImportSpec

namespace Position

def toJson (position : Position) : Json :=
  .object [("line", .nat position.line.toNat), ("column", .nat position.column.toNat)]

end Position

namespace MethodSignature

def toJson (method : MethodSignature) : Json :=
  .object [("name", .string method.name), ("params", .listOf .string method.params),
    ("results", .listOf .string method.results)]

end MethodSignature

/-! ## Resolved types -/

mutual

def ResolvedType.toJson : ResolvedType → Json
  | ⟨name, origin, shape, methods⟩ =>
    .object (("name", .string name) :: Json.optionalMember "origin" PackageRef.toJson origin ++
      ("shape", shape.toJson) :: Json.nonemptyMember "methods" MethodSignature.toJson methods)

def TypeShape.toJson : TypeShape → Json
  | .basic underlying => .tagged "basic" (.object [("underlying", .string underlying)])
  | .array element length =>
    .tagged "array" (.object [("element", element.toJson), ("length", .nat length.toNat)])
  | .slice element => .tagged "slice" (.object [("element", element.toJson)])
  | .map key element =>
    .tagged "map" (.object [("key", key.toJson), ("element", element.toJson)])
  | .chan element direction =>
    .tagged "chan" (.object [("element", element.toJson), ("direction", .string direction.tag)])
  | .pointer element => .tagged "pointer" (.object [("element", element.toJson)])
  | .struct fields =>
    .tagged "struct" (.object [("fields", .array (ResolvedField.toJsonList fields))])
  | .interface implementers =>
    .tagged "interface" (.object [("implementers", .listOf .string implementers)])
  | .func => .string "func"
  | .typeParam => .string "type_param"

def ResolvedField.toJson : ResolvedField → Json
  | ⟨name, type, exported⟩ =>
    .object [("name", .string name), ("type", type.toJson), ("exported", .bool exported)]

def ResolvedField.toJsonList : List ResolvedField → List Json
  | [] => []
  | field :: rest => field.toJson :: ResolvedField.toJsonList rest

end

/-! ## Expressions and statements -/

mutual

def Expr.toJson : Expr → Json
  | .ident id => .tagged "ident" id.toJson
  | .basicLit lit => .tagged "basic_lit" lit.toJson
  | .compositeLit type elements =>
    .tagged "composite_lit" <|
      .object [("ty", Expr.toJsonOption type), ("elts", .array (Expr.toJsonList elements))]
  | .funcLit type body =>
    .tagged "func_lit" <| .object [("ty", type.toJson),
      ("body", .object [("stmts", .array (Stmt.toJsonList body))])]
  | .paren x => .tagged "paren" x.toJson
  | .selector x sel => .tagged "selector" (.object [("x", x.toJson), ("sel", sel.toJson)])
  | .index x indices =>
    .tagged "index" (.object [("x", x.toJson), ("indices", .array (Expr.toJsonList indices))])
  | .slice x low high max =>
    .tagged "slice" <|
      .object [("x", x.toJson), ("low", Expr.toJsonOption low), ("high", Expr.toJsonOption high),
        ("max", Expr.toJsonOption max)]
  | .typeAssert x type =>
    .tagged "type_assert" (.object [("x", x.toJson), ("ty", Expr.toJsonOption type)])
  | .call fn args spread =>
    .tagged "call" <|
      .object [("fun", fn.toJson), ("args", .array (Expr.toJsonList args)),
        ("spread", .bool spread)]
  | .star x => .tagged "star" x.toJson
  | .unary op x constant =>
    .tagged "unary" <|
      .object (("op", .string op.tag) :: ("x", x.toJson) ::
        Json.optionalMember "constant" Constant.toJson constant)
  | .binary x op y =>
    .tagged "binary" (.object [("x", x.toJson), ("op", .string op.tag), ("y", y.toJson)])
  | .keyValue key value =>
    .tagged "key_value" (.object [("key", key.toJson), ("value", value.toJson)])
  | .arrayType length element =>
    .tagged "array_type" (.object [("len", Expr.toJsonOption length), ("elt", element.toJson)])
  | .structType fields =>
    .tagged "struct_type" (.object [("fields", .array (Field.toJsonList fields))])
  | .funcType type => .tagged "func_type" type.toJson
  | .interfaceType methods =>
    .tagged "interface_type" (.object [("methods", .array (Field.toJsonList methods))])
  | .mapType key value =>
    .tagged "map_type" (.object [("key", key.toJson), ("value", value.toJson)])
  | .chanType dir value =>
    .tagged "chan_type" (.object [("dir", .string dir.tag), ("value", value.toJson)])
  | .ellipsis element => .tagged "ellipsis" (Expr.toJsonOption element)

def Expr.toJsonOption : Option Expr → Json
  | none => .null
  | some x => x.toJson

def Expr.toJsonList : List Expr → List Json
  | [] => []
  | x :: rest => x.toJson :: Expr.toJsonList rest

def Field.toJson : Field → Json
  | ⟨names, type, tag, resolved⟩ =>
    .object (("names", .listOf Ident.toJson names) :: ("ty", type.toJson) ::
      Json.optionalMember "tag" .string tag ++
      Json.optionalMember "resolved" ResolvedType.toJson resolved)

def Field.toJsonList : List Field → List Json
  | [] => []
  | field :: rest => field.toJson :: Field.toJsonList rest

def FuncType.toJson : FuncType → Json
  | ⟨params, results⟩ =>
    .object [("params", .array (Field.toJsonList params)),
      ("results", .array (Field.toJsonList results))]

def Spec.toJson : Spec → Json
  | .imports spec => .tagged "import" spec.toJson
  | .value names type values =>
    .tagged "value" <|
      .object [("names", .listOf Ident.toJson names), ("ty", Expr.toJsonOption type),
        ("values", .array (Expr.toJsonList values))]
  | .type name params isAlias type =>
    .tagged "type" <|
      .object (("name", name.toJson) ::
        (match params with
          | [] => []
          | params => [("type_params", .array (Field.toJsonList params))]) ++
        [("alias", .bool isAlias), ("ty", type.toJson)])

def Spec.toJsonList : List Spec → List Json
  | [] => []
  | spec :: rest => spec.toJson :: Spec.toJsonList rest

def GenDecl.toJson : GenDecl → Json
  | ⟨kind, specs, grouped⟩ =>
    .object [("kind", .string kind.tag), ("specs", .array (Spec.toJsonList specs)),
      ("grouped", .bool grouped)]

def Stmt.toJson : Stmt → Json
  | .decl decl => .tagged "decl" decl.toJson
  | .empty => .string "empty"
  | .labeled label stmt =>
    .tagged "labeled" (.object [("label", .string label), ("stmt", stmt.toJson)])
  | .expr x => .tagged "expr" x.toJson
  | .send chan value =>
    .tagged "send" (.object [("chan", chan.toJson), ("value", value.toJson)])
  | .incDec x op => .tagged "inc_dec" (.object [("x", x.toJson), ("op", .string op.tag)])
  | .assign lhs op rhs =>
    .tagged "assign" <|
      .object [("lhs", .array (Expr.toJsonList lhs)), ("op", .string op.tag),
        ("rhs", .array (Expr.toJsonList rhs))]
  | .go call => .tagged "go" call.toJson
  | .defer call => .tagged "defer" call.toJson
  | .return results => .tagged "return" (.array (Expr.toJsonList results))
  | .branch kind label =>
    .tagged "branch" (.object [("kind", .string kind.tag), ("label", .orNull .string label)])
  | .block body => .tagged "block" (.object [("stmts", .array (Stmt.toJsonList body))])
  | .ifElse stmt => .tagged "if" stmt.toJson
  | .switch init tag clauses =>
    .tagged "switch" <|
      .object [("init", Stmt.toJsonOption init), ("tag", Expr.toJsonOption tag),
        ("clauses", .array (CaseClause.toJsonList clauses))]
  | .typeSwitch init assign clauses =>
    .tagged "type_switch" <|
      .object [("init", Stmt.toJsonOption init), ("assign", assign.toJson),
        ("clauses", .array (CaseClause.toJsonList clauses))]
  | .select clauses =>
    .tagged "select" (.object [("clauses", .array (CommClause.toJsonList clauses))])
  | .loop init cond post body =>
    .tagged "for" <|
      .object [("init", Stmt.toJsonOption init), ("cond", Expr.toJsonOption cond),
        ("post", Stmt.toJsonOption post),
        ("body", .object [("stmts", .array (Stmt.toJsonList body))])]
  | .range key value define x body =>
    .tagged "range" <|
      .object [("key", Expr.toJsonOption key), ("value", Expr.toJsonOption value),
        ("define", .bool define), ("x", x.toJson),
        ("body", .object [("stmts", .array (Stmt.toJsonList body))])]

def Stmt.toJsonOption : Option Stmt → Json
  | none => .null
  | some stmt => stmt.toJson

def Stmt.toJsonList : List Stmt → List Json
  | [] => []
  | stmt :: rest => stmt.toJson :: Stmt.toJsonList rest

def IfStmt.toJson : IfStmt → Json
  | ⟨init, cond, body, otherwise⟩ =>
    .object [("init", Stmt.toJsonOption init), ("cond", cond.toJson),
      ("then", .object [("stmts", .array (Stmt.toJsonList body))]),
      ("otherwise",
        match otherwise with
        | none => .null
        | some (.block body) => .tagged "block" (.object [("stmts", .array (Stmt.toJsonList body))])
        | some (.elseIf stmt) => .tagged "if" stmt.toJson)]

def CaseClause.toJson : CaseClause → Json
  | .cases labels body =>
    .object [("label", .tagged "exprs" (.array (Expr.toJsonList labels))),
      ("body", .array (Stmt.toJsonList body))]
  | .default body => .object [("label", .string "default"), ("body", .array (Stmt.toJsonList body))]

def CaseClause.toJsonList : List CaseClause → List Json
  | [] => []
  | clause :: rest => clause.toJson :: CaseClause.toJsonList rest

def CommClause.toJson : CommClause → Json
  | .comm stmt body =>
    .object [("label", .tagged "comm" stmt.toJson), ("body", .array (Stmt.toJsonList body))]
  | .default body => .object [("label", .string "default"), ("body", .array (Stmt.toJsonList body))]

def CommClause.toJsonList : List CommClause → List Json
  | [] => []
  | clause :: rest => clause.toJson :: CommClause.toJsonList rest

end

/-! ## Declarations and files -/

namespace Stmt

/-- A block is a record with its statements. -/
def blockToJson (body : Block) : Json :=
  .object [("stmts", .array (toJsonList body))]

end Stmt

namespace FuncDecl

def toJson (func : FuncDecl) : Json :=
  .object (("name", .string func.name) ::
    Json.optionalMember "receiver" Field.toJson func.receiver ++
    Json.nonemptyMember "type_params" Field.toJson func.typeParams ++
    [("signature", func.signature.toJson), ("body", .orNull Stmt.blockToJson func.body),
      ("position", func.position.toJson)])

end FuncDecl

namespace Decl

def toJson : Decl → Json
  | func decl => .tagged "func" decl.toJson
  | gen decl => .tagged "gen" decl.toJson

end Decl

namespace SourceFile

def toJson (file : SourceFile) : Json :=
  .object [("package_name", .string file.packageName), ("package_path", .string file.packagePath),
    ("decls", .listOf Decl.toJson file.decls)]

end SourceFile

end GoProbe
