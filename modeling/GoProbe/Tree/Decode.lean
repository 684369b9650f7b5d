import GoProbe.Json.Decode
import GoProbe.Tree.Basic

/-!
# Trees from JSON values

The inverse of the stored form. The decoders of recursive nodes take a bound on how deep the nodes
nest; every node takes up at least one level of the value, so the depth of the value is bound
enough, and `Expr.decoder` and its kin pass it.

What may be left out is what the stored form leaves out or writes as `null`, and besides every
list, flag and position that has an empty value.
-/

namespace GoProbe

open Json (Decoder Row Arm)

namespace PackageRef

def decoder : Decoder PackageRef :=
  .record do
    return { path := ← .field "path" .string, name := ← .field "name" .string }

end PackageRef

namespace Resolution

def decoder : Decoder Resolution :=
  .variant fun
    | "package" => some (.content (.map .package PackageRef.decoder))
    | "declared" => some <| .content <| .record do
      return .declared (← .optional "package" PackageRef.decoder) (← .flag "package_level")
    | _ => none

end Resolution

namespace Ident

def decoder : Decoder Ident :=
  .record do
    return { name := ← .field "name" .string
             resolution := ← .optional "resolution" Resolution.decoder }

end Ident

namespace Constant

def decoder : Decoder Constant :=
  .record do
    return { typeName := ← .field "type_name" .string, value := ← .field "value" .string }

end Constant

namespace BasicLit

def decoder : Decoder BasicLit :=
  .record do
    return { kind := ← .field "kind" (.enumeration LitKind.ofTag?)
             value := ← .field "value" .string
             constant := ← .optional "constant" Constant.decoder }

end BasicLit

namespace ImportSpec

def decoder : Decoder ImportSpec :=
  .record do
    return { localName := ← .optional "alias" .string, path := ← .field "path" .string }

end ImportSpec

namespace Position

def decoder : Decoder Position :=
  .record do
    return { line := ← .field "line" .word32, column := ← .field "column" .word32 }

end Position

namespace MethodSignature

def decoder : Decoder MethodSignature :=
  .record do
    return { name := ← .field "name" .string
             params := ← .listOr "params" .string
             results := ← .listOr "results" .string }

end MethodSignature

/-! ## Resolved types -/

mutual

def ResolvedType.decoderUpTo : Nat → Decoder ResolvedType
  | 0 => fun _ _ => .error .tooDeep
  | bound + 1 => .record do
    return { name := ← .field "name" .string
             origin := ← .optional "origin" PackageRef.decoder
             shape := ← .field "shape" (TypeShape.decoderUpTo bound)
             methods := ← .listOr "methods" MethodSignature.decoder }

def TypeShape.decoderUpTo : Nat → Decoder TypeShape
  | 0 => fun _ _ => .error .tooDeep
  | bound + 1 => .variant fun
    | "basic" => some <| .content <| .record do
      return .basic (← .field "underlying" .string)
    | "array" => some <| .content <| .record do
      return .array (← .field "element" (ResolvedType.decoderUpTo bound))
        (← .field "length" .word64)
    | "slice" => some <| .content <| .record do
      return .slice (← .field "element" (ResolvedType.decoderUpTo bound))
    | "map" => some <| .content <| .record do
      return .map (← .field "key" (ResolvedType.decoderUpTo bound))
        (← .field "element" (ResolvedType.decoderUpTo bound))
    | "chan" => some <| .content <| .record do
      return .chan (← .field "element" (ResolvedType.decoderUpTo bound))
        (← .field "direction" (.enumeration ChanDir.ofTag?))
    | "pointer" => some <| .content <| .record do
      return .pointer (← .field "element" (ResolvedType.decoderUpTo bound))
    | "struct" => some <| .content <| .record do
      return .struct (← .field "fields" (.list (ResolvedField.decoderUpTo bound)))
    | "interface" => some <| .content <| .record do
      return .interface (← .listOr "implementers" .string)
    | "func" => some (.bare .func)
    | "type_param" => some (.bare .typeParam)
    | _ => none

def ResolvedField.decoderUpTo : Nat → Decoder ResolvedField
  | 0 => fun _ _ => .error .tooDeep
  | bound + 1 => .record do
    return { name := ← .field "name" .string
             type := ← .field "type" (ResolvedType.decoderUpTo bound)
             exported := ← .field "exported" .bool }

end

namespace ResolvedType

def decoder : Decoder ResolvedType :=
  fun levels value => decoderUpTo (value.depth + 1) levels value

end ResolvedType

/-! ## Expressions and statements -/

/-- A block around a decoder of statements. -/
def Stmt.blockDecoder (stmt : Decoder Stmt) : Decoder Block :=
  .record (.listOr "stmts" stmt)

mutual

def Expr.decoderUpTo : Nat → Decoder Expr
  | 0 => fun _ _ => .error .tooDeep
  | bound + 1 => .variant fun
    | "ident" => some (.content (.map .ident Ident.decoder))
    | "basic_lit" => some (.content (.map .basicLit BasicLit.decoder))
    | "composite_lit" => some <| .content <| .record do
      return .compositeLit (← .optional "ty" (Expr.decoderUpTo bound))
        (← .listOr "elts" (Expr.decoderUpTo bound))
    | "func_lit" => some <| .content <| .record do
      return .funcLit (← .field "ty" (FuncType.decoderUpTo bound))
        (← .field "body" (Stmt.blockDecoder (Stmt.decoderUpTo bound)))
    | "paren" => some (.content (.map .paren (Expr.decoderUpTo bound)))
    | "selector" => some <| .content <| .record do
      return .selector (← .field "x" (Expr.decoderUpTo bound)) (← .field "sel" Ident.decoder)
    | "index" => some <| .content <| .record do
      return .index (← .field "x" (Expr.decoderUpTo bound))
        (← .field "indices" (.list (Expr.decoderUpTo bound)))
    | "slice" => some <| .content <| .record do
      return .slice (← .field "x" (Expr.decoderUpTo bound))
        (← .optional "low" (Expr.decoderUpTo bound)) (← .optional "high" (Expr.decoderUpTo bound))
        (← .optional "max" (Expr.decoderUpTo bound))
    | "type_assert" => some <| .content <| .record do
      return .typeAssert (← .field "x" (Expr.decoderUpTo bound))
        (← .optional "ty" (Expr.decoderUpTo bound))
    | "call" => some <| .content <| .record do
      return .call (← .field "fun" (Expr.decoderUpTo bound))
        (← .listOr "args" (Expr.decoderUpTo bound)) (← .flag "spread")
    | "star" => some (.content (.map .star (Expr.decoderUpTo bound)))
    | "unary" => some <| .content <| .record do
      return .unary (← .field "op" (.enumeration UnaryOp.ofTag?))
        (← .field "x" (Expr.decoderUpTo bound)) (← .optional "constant" Constant.decoder)
    | "binary" => some <| .content <| .record do
      return .binary (← .field "x" (Expr.decoderUpTo bound))
        (← .field "op" (.enumeration BinaryOp.ofTag?)) (← .field "y" (Expr.decoderUpTo bound))
    | "key_value" => some <| .content <| .record do
      return .keyValue (← .field "key" (Expr.decoderUpTo bound))
        (← .field "value" (Expr.decoderUpTo bound))
    | "array_type" => some <| .content <| .record do
      return .arrayType (← .optional "len" (Expr.decoderUpTo bound))
        (← .field "elt" (Expr.decoderUpTo bound))
    | "struct_type" => some <| .content <| .record do
      return .structType (← .listOr "fields" (Field.decoderUpTo bound))
    | "func_type" => some (.content (.map .funcType (FuncType.decoderUpTo bound)))
    | "interface_type" => some <| .content <| .record do
      return .interfaceType (← .listOr "methods" (Field.decoderUpTo bound))
    | "map_type" => some <| .content <| .record do
      return .mapType (← .field "key" (Expr.decoderUpTo bound))
        (← .field "value" (Expr.decoderUpTo bound))
    | "chan_type" => some <| .content <| .record do
      return .chanType (← .field "dir" (.enumeration ChanDir.ofTag?))
        (← .field "value" (Expr.decoderUpTo bound))
    | "ellipsis" => some (.content (.map .ellipsis (.nullable (Expr.decoderUpTo bound))))
    | _ => none

def Field.decoderUpTo : Nat → Decoder Field
  | 0 => fun _ _ => .error .tooDeep
  | bound + 1 => .record do
    return { names := ← .listOr "names" Ident.decoder
             type := ← .field "ty" (Expr.decoderUpTo bound)
             tag := ← .optional "tag" .string
             resolved := ← .optional "resolved" ResolvedType.decoder }

def FuncType.decoderUpTo : Nat → Decoder FuncType
  | 0 => fun _ _ => .error .tooDeep
  | bound + 1 => .record do
    return { params := ← .listOr "params" (Field.decoderUpTo bound)
             results := ← .listOr "results" (Field.decoderUpTo bound) }

def Spec.decoderUpTo : Nat → Decoder Spec
  | 0 => fun _ _ => .error .tooDeep
  | bound + 1 => .variant fun
    | "import" => some (.content (.map .imports ImportSpec.decoder))
    | "value" => some <| .content <| .record do
      return .value (← .field "names" (.list Ident.decoder))
        (← .optional "ty" (Expr.decoderUpTo bound)) (← .listOr "values" (Expr.decoderUpTo bound))
    | "type" => some <| .content <| .record do
      return .type (← .field "name" Ident.decoder)
        (← .listOr "type_params" (Field.decoderUpTo bound)) (← .flag "alias")
        (← .field "ty" (Expr.decoderUpTo bound))
    | _ => none

def GenDecl.decoderUpTo : Nat → Decoder GenDecl
  | 0 => fun _ _ => .error .tooDeep
  | bound + 1 => .record do
    return { kind := ← .field "kind" (.enumeration GenKind.ofTag?)
             specs := ← .field "specs" (.list (Spec.decoderUpTo bound))
             grouped := ← .flag "grouped" }

def Stmt.decoderUpTo : Nat → Decoder Stmt
  | 0 => fun _ _ => .error .tooDeep
  | bound + 1 => .variant fun
    | "decl" => some (.content (.map .decl (GenDecl.decoderUpTo bound)))
    | "empty" => some (.bare .empty)
    | "labeled" => some <| .content <| .record do
      return .labeled (← .field "label" .string) (← .field "stmt" (Stmt.decoderUpTo bound))
    | "expr" => some (.content (.map .expr (Expr.decoderUpTo bound)))
    | "send" => some <| .content <| .record do
      return .send (← .field "chan" (Expr.decoderUpTo bound))
        (← .field "value" (Expr.decoderUpTo bound))
    | "inc_dec" => some <| .content <| .record do
      return .incDec (← .field "x" (Expr.decoderUpTo bound))
        (← .field "op" (.enumeration IncDecOp.ofTag?))
    | "assign" => some <| .content <| .record do
      return .assign (← .field "lhs" (.list (Expr.decoderUpTo bound)))
        (← .field "op" (.enumeration AssignOp.ofTag?))
        (← .field "rhs" (.list (Expr.decoderUpTo bound)))
    | "go" => some (.content (.map .go (Expr.decoderUpTo bound)))
    | "defer" => some (.content (.map .defer (Expr.decoderUpTo bound)))
    | "return" => some (.content (.map .return (.list (Expr.decoderUpTo bound))))
    | "branch" => some <| .content <| .record do
      return .branch (← .field "kind" (.enumeration BranchKind.ofTag?))
        (← .optional "label" .string)
    | "block" => some (.content (.map .block (Stmt.blockDecoder (Stmt.decoderUpTo bound))))
    | "if" => some (.content (.map .ifElse (IfStmt.decoderUpTo bound)))
    | "switch" => some <| .content <| .record do
      return .switch (← .optional "init" (Stmt.decoderUpTo bound))
        (← .optional "tag" (Expr.decoderUpTo bound))
        (← .field "clauses" (.list (CaseClause.decoderUpTo bound)))
    | "type_switch" => some <| .content <| .record do
      return .typeSwitch (← .optional "init" (Stmt.decoderUpTo bound))
        (← .field "assign" (Stmt.decoderUpTo bound))
        (← .field "clauses" (.list (CaseClause.decoderUpTo bound)))
    | "select" => some <| .content <| .record do
      return .select (← .field "clauses" (.list (CommClause.decoderUpTo bound)))
    | "for" => some <| .content <| .record do
      return .loop (← .optional "init" (Stmt.decoderUpTo bound))
        (← .optional "cond" (Expr.decoderUpTo bound)) (← .optional "post" (Stmt.decoderUpTo bound))
        (← .field "body" (Stmt.blockDecoder (Stmt.decoderUpTo bound)))
    | "range" => some <| .content <| .record do
      return .range (← .optional "key" (Expr.decoderUpTo bound))
        (← .optional "value" (Expr.decoderUpTo bound)) (← .flag "define")
        (← .field "x" (Expr.decoderUpTo bound))
        (← .field "body" (Stmt.blockDecoder (Stmt.decoderUpTo bound)))
    | _ => none

def IfStmt.decoderUpTo : Nat → Decoder IfStmt
  | 0 => fun _ _ => .error .tooDeep
  | bound + 1 => .record do
    return { init := ← .optional "init" (Stmt.decoderUpTo bound)
             cond := ← .field "cond" (Expr.decoderUpTo bound)
             body := ← .field "then" (Stmt.blockDecoder (Stmt.decoderUpTo bound))
             otherwise := ← .optional "otherwise" (Else.decoderUpTo bound) }

def Else.decoderUpTo : Nat → Decoder Else
  | 0 => fun _ _ => .error .tooDeep
  | bound + 1 => .variant fun
    | "block" => some (.content (.map .block (Stmt.blockDecoder (Stmt.decoderUpTo bound))))
    | "if" => some (.content (.map .elseIf (IfStmt.decoderUpTo bound)))
    | _ => none

def CaseClause.decoderUpTo : Nat → Decoder CaseClause
  | 0 => fun _ _ => .error .tooDeep
  | bound + 1 => .record do
    let clause : Block → CaseClause ← .field "label" <| .variant fun
      | "exprs" => some (.content (.map CaseClause.cases (.list (Expr.decoderUpTo bound))))
      | "default" => some (.bare CaseClause.default)
      | _ => none
    return clause (← .listOr "body" (Stmt.decoderUpTo bound))

def CommClause.decoderUpTo : Nat → Decoder CommClause
  | 0 => fun _ _ => .error .tooDeep
  | bound + 1 => .record do
    let clause : Block → CommClause ← .field "label" <| .variant fun
      | "comm" => some (.content (.map CommClause.comm (Stmt.decoderUpTo bound)))
      | "default" => some (.bare CommClause.default)
      | _ => none
    return clause (← .listOr "body" (Stmt.decoderUpTo bound))

end

namespace Expr

def decoder : Decoder Expr :=
  fun levels value => decoderUpTo (value.depth + 1) levels value

end Expr

namespace Stmt

def decoder : Decoder Stmt :=
  fun levels value => decoderUpTo (value.depth + 1) levels value

end Stmt

namespace Field

def decoder : Decoder Field :=
  fun levels value => decoderUpTo (value.depth + 1) levels value

end Field

namespace FuncType

def decoder : Decoder FuncType :=
  fun levels value => decoderUpTo (value.depth + 1) levels value

end FuncType

namespace GenDecl

def decoder : Decoder GenDecl :=
  fun levels value => decoderUpTo (value.depth + 1) levels value

end GenDecl

/-! ## Declarations and files -/

namespace FuncDecl

def decoder : Decoder FuncDecl :=
  .record do
    return { name := ← .field "name" .string
             receiver := ← .optional "receiver" Field.decoder
             typeParams := ← .listOr "type_params" Field.decoder
             signature := ← .field "signature" FuncType.decoder
             body := ← .optional "body" (Stmt.blockDecoder Stmt.decoder)
             position := ← .fieldOr "position" ⟨0, 0⟩ Position.decoder }

end FuncDecl

namespace Decl

def decoder : Decoder Decl :=
  .variant fun
    | "func" => some (.content (.map .func FuncDecl.decoder))
    | "gen" => some (.content (.map .gen GenDecl.decoder))
    | _ => none

end Decl

namespace SourceFile

def decoder : Decoder SourceFile :=
  .record do
    return { packageName := ← .field "package_name" .string
             packagePath := ← .fieldOr "package_path" "" .string
             decls := ← .listOr "decls" Decl.decoder }

end SourceFile

end GoProbe
