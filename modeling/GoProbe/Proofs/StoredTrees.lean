import Mathlib
import GoProbe.Proofs.JsonDecoding
import GoProbe.Tree.Decode
import GoProbe.Tree.Encode

/-!
# Stored trees

Every tree is stored by its encoder: decoding the stored form gives the tree back. The proofs follow
the decoders, field by field. For the recursive nodes they are by recursion over the tree; the bound
on the depth falls with every node, as it does in the decoders.
-/

namespace GoProbe

open Json (Stored RowStored)

/-! ## Parts without recursion -/

section

variable {bound : Nat}

theorem PackageRef.stored (ref : PackageRef) : Stored bound decoder ref.toJson ref :=
  .record (by simp) (.bind (.field (.string ref.path)) (.last (.field (.string ref.name))))

theorem Resolution.stored (resolution : Resolution) :
    Stored bound decoder resolution.toJson resolution := by
  cases resolution with
  | package ref => exact .content "package" rfl (.map _ ref.stored)
  | declared home packageLevel =>
    exact .content "declared" rfl (.record (by simp)
      (.bind (.fieldOr (.orNull PackageRef.stored fun _ => Json.object_ne_null _))
        (.last (.fieldOr (.bool packageLevel)))))

theorem Ident.stored (id : Ident) : Stored bound decoder id.toJson id := by
  have hne (resolution : Resolution) : resolution.toJson ≠ .null := by
    cases resolution <;> nofun
  exact .record (by simp)
    (.bind (.field (.string id.name)) (.last (.optionalMember Resolution.stored hne)))

theorem Constant.stored (constant : Constant) : Stored bound decoder constant.toJson constant :=
  .record (by simp)
    (.bind (.field (.string constant.typeName)) (.last (.field (.string constant.value))))

theorem BasicLit.stored (lit : BasicLit) : Stored bound decoder lit.toJson lit :=
  .record (by simp)
    (.bind (.field (.enumeration lit.kind.ofTag?_tag)) (.bind (.field (.string lit.value))
    (.last (.optionalMember Constant.stored fun _ => Json.object_ne_null _))))

theorem ImportSpec.stored (spec : ImportSpec) : Stored bound decoder spec.toJson spec :=
  .record (by simp)
    (.bind (.fieldOr (.orNull .string Json.string_ne_null)) (.last (.field (.string spec.path))))

theorem Position.stored (position : Position) : Stored bound decoder position.toJson position :=
  .record (by simp)
    (.bind (.field (.word32 position.line)) (.last (.field (.word32 position.column))))

theorem storedTexts (texts : List String) :
    Stored bound (.list .string) (.listOf .string texts) texts :=
  .listOf fun text _ => .string text

theorem MethodSignature.stored (method : MethodSignature) :
    Stored bound decoder method.toJson method :=
  .record (by simp)
    (.bind (.field (.string method.name)) (.bind (.fieldOr (storedTexts method.params))
    (.last (.fieldOr (storedTexts method.results)))))

end

/-! ## Resolved types -/

mutual

theorem ResolvedType.storedUpTo : ∀ (type : ResolvedType) (bound : Nat),
    Stored bound (ResolvedType.decoderUpTo bound) type.toJson type
  | ⟨name, origin, shape, methods⟩ => .upTo fun bound => by
    have hshape := shape.storedUpTo bound
    rw [ResolvedType.toJson, ResolvedType.decoderUpTo]
    exact .record_succ (by simp) (.bind (.field (.string name))
      (.bind (.optionalMember PackageRef.stored fun _ => Json.object_ne_null _)
        (.bind (.field hshape) (.last (.nonemptyMember MethodSignature.stored)))))

theorem TypeShape.storedUpTo : ∀ (shape : TypeShape) (bound : Nat),
    Stored bound (TypeShape.decoderUpTo bound) shape.toJson shape
  | .basic underlying => .upTo fun bound => by
    rw [TypeShape.toJson, TypeShape.decoderUpTo]
    exact .content_succ rfl (.record (by simp) (.last (.field (.string underlying))))
  | .array element length => .upTo fun bound => by
    have helement := element.storedUpTo bound
    rw [TypeShape.toJson, TypeShape.decoderUpTo]
    exact .content_succ rfl (.record (by simp)
      (.bind (.field helement) (.last (.field (.word64 length)))))
  | .slice element => .upTo fun bound => by
    have helement := element.storedUpTo bound
    rw [TypeShape.toJson, TypeShape.decoderUpTo]
    exact .content_succ rfl (.record (by simp) (.last (.field helement)))
  | .map key element => .upTo fun bound => by
    have hkey := key.storedUpTo bound
    have helement := element.storedUpTo bound
    rw [TypeShape.toJson, TypeShape.decoderUpTo]
    exact .content_succ rfl (.record (by simp) (.bind (.field hkey) (.last (.field helement))))
  | .chan element direction => .upTo fun bound => by
    have helement := element.storedUpTo bound
    rw [TypeShape.toJson, TypeShape.decoderUpTo]
    exact .content_succ rfl (.record (by simp) (.bind (.field helement)
      (.last (.field (.enumeration direction.ofTag?_tag)))))
  | .pointer element => .upTo fun bound => by
    have helement := element.storedUpTo bound
    rw [TypeShape.toJson, TypeShape.decoderUpTo]
    exact .content_succ rfl (.record (by simp) (.last (.field helement)))
  | .struct fields => .upTo fun bound => by
    have hfields := ResolvedField.storedList fields bound
    rw [TypeShape.toJson, TypeShape.decoderUpTo]
    exact .content_succ rfl (.record (by simp) (.last (.field (.list hfields))))
  | .interface implementers => .upTo fun bound => by
    rw [TypeShape.toJson, TypeShape.decoderUpTo]
    exact .content_succ rfl (.record (by simp) (.last (.fieldOr (storedTexts implementers))))
  | .func => .upTo fun bound => by
    rw [TypeShape.toJson, TypeShape.decoderUpTo]
    exact .bare "func" rfl
  | .typeParam => .upTo fun bound => by
    rw [TypeShape.toJson, TypeShape.decoderUpTo]
    exact .bare "type_param" rfl

theorem ResolvedField.storedUpTo : ∀ (field : ResolvedField) (bound : Nat),
    Stored bound (ResolvedField.decoderUpTo bound) field.toJson field
  | ⟨name, type, exported⟩ => .upTo fun bound => by
    have htype := type.storedUpTo bound
    rw [ResolvedField.toJson, ResolvedField.decoderUpTo]
    exact .record_succ (by simp) (.bind (.field (.string name)) (.bind (.field htype)
      (.last (.field (.bool exported)))))

theorem ResolvedField.storedList : ∀ (fields : List ResolvedField) (bound : Nat),
    List.Forall₂ (Stored bound (ResolvedField.decoderUpTo bound))
      (ResolvedField.toJsonList fields) fields
  | [], _ => .nil
  | field :: rest, bound => .cons (field.storedUpTo bound) (ResolvedField.storedList rest bound)

end

theorem ResolvedType.stored {bound : Nat} (type : ResolvedType) :
    Stored bound decoder type.toJson type :=
  .ofDepth type.storedUpTo

theorem ResolvedType.toJson_ne_null (type : ResolvedType) : type.toJson ≠ .null := by
  cases type
  nofun

/-! ## Expressions and statements -/

theorem Expr.toJson_ne_null (x : Expr) : x.toJson ≠ .null := by
  cases x <;> nofun

theorem Stmt.toJson_ne_null (stmt : Stmt) : stmt.toJson ≠ .null := by
  cases stmt <;> nofun

theorem Stmt.storedBlock {bound : Nat} {decode : Json.Decoder Stmt} {items : List Json}
    {body : Block} (h : List.Forall₂ (Stored bound decode) items body) :
    Stored bound (Stmt.blockDecoder decode) (.object [("stmts", .array items)]) body :=
  .record (by simp) (.fieldOr (.list h))

/-- The stored form of what follows `else`. -/
def Else.toJson : Else → Json
  | .block body => .tagged "block" (Stmt.blockToJson body)
  | .elseIf stmt => .tagged "if" stmt.toJson

theorem IfStmt.toJson_mk (init : Option Stmt) (cond : Expr) (body : Block)
    (otherwise : Option Else) :
    IfStmt.toJson ⟨init, cond, body, otherwise⟩ =
      .object [("init", Stmt.toJsonOption init), ("cond", cond.toJson),
        ("then", Stmt.blockToJson body), ("otherwise", .orNull Else.toJson otherwise)] := by
  rcases otherwise with - | - | - <;> rfl

theorem IfStmt.stored_mk {bound : Nat} {init : Option Stmt} {cond : Expr} {body : Block}
    {otherwise : Option Else}
    (hinit : Stored bound (Stmt.decoderUpTo bound).nullable (Stmt.toJsonOption init) init)
    (hcond : Stored bound (Expr.decoderUpTo bound) cond.toJson cond)
    (hbody : List.Forall₂ (Stored bound (Stmt.decoderUpTo bound)) (Stmt.toJsonList body) body)
    (hotherwise :
      Stored bound (Else.decoderUpTo bound).nullable (.orNull Else.toJson otherwise) otherwise) :
    Stored (bound + 1) (IfStmt.decoderUpTo (bound + 1))
      (IfStmt.toJson ⟨init, cond, body, otherwise⟩) ⟨init, cond, body, otherwise⟩ := by
  have hthen : Stored bound (Stmt.blockDecoder (Stmt.decoderUpTo bound)) (Stmt.blockToJson body)
      body := Stmt.storedBlock hbody
  rw [IfStmt.toJson_mk, IfStmt.decoderUpTo]
  exact .record_succ (by simp) (.bind (.fieldOr hinit) (.bind (.field hcond) (.bind (.field hthen)
    (.last (.fieldOr hotherwise)))))

mutual

theorem Expr.storedUpTo : ∀ (x : Expr) (bound : Nat),
    Stored bound (Expr.decoderUpTo bound) x.toJson x
  | .ident id => .upTo fun bound => by
    rw [Expr.toJson, Expr.decoderUpTo]
    exact .content_succ rfl (.map _ id.stored)
  | .basicLit lit => .upTo fun bound => by
    rw [Expr.toJson, Expr.decoderUpTo]
    exact .content_succ rfl (.map _ lit.stored)
  | .compositeLit type elements => .upTo fun bound => by
    have htype := Expr.storedOption type bound
    have helements := Expr.storedList elements bound
    rw [Expr.toJson, Expr.decoderUpTo]
    exact .content_succ rfl (.record (by simp)
      (.bind (.fieldOr htype) (.last (.fieldOr (.list helements)))))
  | .funcLit type body => .upTo fun bound => by
    have htype := type.storedUpTo bound
    have hbody := Stmt.storedList body bound
    rw [Expr.toJson, Expr.decoderUpTo]
    exact .content_succ rfl (.record (by simp) (.bind (.field htype)
      (.last (.field (Stmt.storedBlock hbody)))))
  | .paren x => .upTo fun bound => by
    have hx := x.storedUpTo bound
    rw [Expr.toJson, Expr.decoderUpTo]
    exact .content_succ rfl (.map _ hx)
  | .selector x sel => .upTo fun bound => by
    have hx := x.storedUpTo bound
    rw [Expr.toJson, Expr.decoderUpTo]
    exact .content_succ rfl (.record (by simp) (.bind (.field hx) (.last (.field sel.stored))))
  | .index x indices => .upTo fun bound => by
    have hx := x.storedUpTo bound
    have hindices := Expr.storedList indices bound
    rw [Expr.toJson, Expr.decoderUpTo]
    exact .content_succ rfl (.record (by simp)
      (.bind (.field hx) (.last (.field (.list hindices)))))
  | .slice x low high max => .upTo fun bound => by
    have hx := x.storedUpTo bound
    have hlow := Expr.storedOption low bound
    have hhigh := Expr.storedOption high bound
    have hmax := Expr.storedOption max bound
    rw [Expr.toJson, Expr.decoderUpTo]
    exact .content_succ rfl (.record (by simp) (.bind (.field hx) (.bind (.fieldOr hlow)
      (.bind (.fieldOr hhigh) (.last (.fieldOr hmax))))))
  | .typeAssert x type => .upTo fun bound => by
    have hx := x.storedUpTo bound
    have htype := Expr.storedOption type bound
    rw [Expr.toJson, Expr.decoderUpTo]
    exact .content_succ rfl (.record (by simp) (.bind (.field hx) (.last (.fieldOr htype))))
  | .call fn args spread => .upTo fun bound => by
    have hfn := fn.storedUpTo bound
    have hargs := Expr.storedList args bound
    rw [Expr.toJson, Expr.decoderUpTo]
    exact .content_succ rfl (.record (by simp) (.bind (.field hfn) (.bind (.fieldOr (.list hargs))
      (.last (.fieldOr (.bool spread))))))
  | .star x => .upTo fun bound => by
    have hx := x.storedUpTo bound
    rw [Expr.toJson, Expr.decoderUpTo]
    exact .content_succ rfl (.map _ hx)
  | .unary op x constant => .upTo fun bound => by
    have hx := x.storedUpTo bound
    rw [Expr.toJson, Expr.decoderUpTo]
    exact .content_succ rfl (.record (by simp) (.bind (.field (.enumeration op.ofTag?_tag))
      (.bind (.field hx) (.last (.optionalMember Constant.stored fun _ => Json.object_ne_null _)))))
  | .binary x op y => .upTo fun bound => by
    have hx := x.storedUpTo bound
    have hy := y.storedUpTo bound
    rw [Expr.toJson, Expr.decoderUpTo]
    exact .content_succ rfl (.record (by simp) (.bind (.field hx)
      (.bind (.field (.enumeration op.ofTag?_tag)) (.last (.field hy)))))
  | .keyValue key value => .upTo fun bound => by
    have hkey := key.storedUpTo bound
    have hvalue := value.storedUpTo bound
    rw [Expr.toJson, Expr.decoderUpTo]
    exact .content_succ rfl (.record (by simp) (.bind (.field hkey) (.last (.field hvalue))))
  | .arrayType length element => .upTo fun bound => by
    have hlength := Expr.storedOption length bound
    have helement := element.storedUpTo bound
    rw [Expr.toJson, Expr.decoderUpTo]
    exact .content_succ rfl (.record (by simp) (.bind (.fieldOr hlength) (.last (.field helement))))
  | .structType fields => .upTo fun bound => by
    have hfields := Field.storedList fields bound
    rw [Expr.toJson, Expr.decoderUpTo]
    exact .content_succ rfl (.record (by simp) (.last (.fieldOr (.list hfields))))
  | .funcType type => .upTo fun bound => by
    have htype := type.storedUpTo bound
    rw [Expr.toJson, Expr.decoderUpTo]
    exact .content_succ rfl (.map _ htype)
  | .interfaceType methods => .upTo fun bound => by
    have hmethods := Field.storedList methods bound
    rw [Expr.toJson, Expr.decoderUpTo]
    exact .content_succ rfl (.record (by simp) (.last (.fieldOr (.list hmethods))))
  | .mapType key value => .upTo fun bound => by
    have hkey := key.storedUpTo bound
    have hvalue := value.storedUpTo bound
    rw [Expr.toJson, Expr.decoderUpTo]
    exact .content_succ rfl (.record (by simp) (.bind (.field hkey) (.last (.field hvalue))))
  | .chanType dir value => .upTo fun bound => by
    have hvalue := value.storedUpTo bound
    rw [Expr.toJson, Expr.decoderUpTo]
    exact .content_succ rfl (.record (by simp) (.bind (.field (.enumeration dir.ofTag?_tag))
      (.last (.field hvalue))))
  | .ellipsis element => .upTo fun bound => by
    have helement := Expr.storedOption element bound
    rw [Expr.toJson, Expr.decoderUpTo]
    exact .content_succ rfl (.map _ helement)

theorem Expr.storedOption : ∀ (x : Option Expr) (bound : Nat),
    Stored bound (Expr.decoderUpTo bound).nullable (Expr.toJsonOption x) x
  | none, _ => .null
  | some x, bound => (x.storedUpTo bound).nullable x.toJson_ne_null

theorem Expr.storedList : ∀ (xs : List Expr) (bound : Nat),
    List.Forall₂ (Stored bound (Expr.decoderUpTo bound)) (Expr.toJsonList xs) xs
  | [], _ => .nil
  | x :: rest, bound => .cons (x.storedUpTo bound) (Expr.storedList rest bound)

theorem Field.storedUpTo : ∀ (field : Field) (bound : Nat),
    Stored bound (Field.decoderUpTo bound) field.toJson field
  | ⟨names, type, tag, resolved⟩ => .upTo fun bound => by
    have htype := type.storedUpTo bound
    have hnames : Stored bound (.list Ident.decoder) (.listOf Ident.toJson names) names :=
      .listOf fun id _ => id.stored
    rw [Field.toJson, Field.decoderUpTo]
    exact .record_succ (by simp) (.bind (.fieldOr hnames) (.bind (.field htype)
      (.bind (.optionalMember .string Json.string_ne_null)
        (.last (.optionalMember ResolvedType.stored ResolvedType.toJson_ne_null)))))

theorem Field.storedList : ∀ (fields : List Field) (bound : Nat),
    List.Forall₂ (Stored bound (Field.decoderUpTo bound)) (Field.toJsonList fields) fields
  | [], _ => .nil
  | field :: rest, bound => .cons (field.storedUpTo bound) (Field.storedList rest bound)

theorem FuncType.storedUpTo : ∀ (type : FuncType) (bound : Nat),
    Stored bound (FuncType.decoderUpTo bound) type.toJson type
  | ⟨params, results⟩ => .upTo fun bound => by
    have hparams := Field.storedList params bound
    have hresults := Field.storedList results bound
    rw [FuncType.toJson, FuncType.decoderUpTo]
    exact .record_succ (by simp)
      (.bind (.fieldOr (.list hparams)) (.last (.fieldOr (.list hresults))))

theorem Spec.storedUpTo : ∀ (spec : Spec) (bound : Nat),
    Stored bound (Spec.decoderUpTo bound) spec.toJson spec
  | .imports spec => .upTo fun bound => by
    rw [Spec.toJson, Spec.decoderUpTo]
    exact .content_succ rfl (.map _ spec.stored)
  | .value names type values => .upTo fun bound => by
    have hnames : Stored bound (.list Ident.decoder) (.listOf Ident.toJson names) names :=
      .listOf fun id _ => id.stored
    have htype := Expr.storedOption type bound
    have hvalues := Expr.storedList values bound
    rw [Spec.toJson, Spec.decoderUpTo]
    exact .content_succ rfl (.record (by simp) (.bind (.field hnames) (.bind (.fieldOr htype)
      (.last (.fieldOr (.list hvalues))))))
  | .type name [] isAlias type => .upTo fun bound => by
    have htype := type.storedUpTo bound
    rw [Spec.toJson, Spec.decoderUpTo]
    exact .content_succ rfl (.record (by simp) (.bind (.field name.stored) (.bind .fieldOr_absent
      (.bind (.fieldOr (.bool isAlias)) (.last (.field htype))))))
  | .type name (param :: params) isAlias type => .upTo fun bound => by
    have hparams := Field.storedList (param :: params) bound
    have htype := type.storedUpTo bound
    simp only [Spec.toJson, Spec.decoderUpTo]
    exact .content_succ rfl (.record (by simp)
      (.bind (.field name.stored) (.bind (.fieldOr (.list hparams))
      (.bind (.fieldOr (.bool isAlias)) (.last (.field htype))))))

theorem Spec.storedList : ∀ (specs : List Spec) (bound : Nat),
    List.Forall₂ (Stored bound (Spec.decoderUpTo bound)) (Spec.toJsonList specs) specs
  | [], _ => .nil
  | spec :: rest, bound => .cons (spec.storedUpTo bound) (Spec.storedList rest bound)

theorem GenDecl.storedUpTo : ∀ (decl : GenDecl) (bound : Nat),
    Stored bound (GenDecl.decoderUpTo bound) decl.toJson decl
  | ⟨kind, specs, grouped⟩ => .upTo fun bound => by
    have hspecs := Spec.storedList specs bound
    rw [GenDecl.toJson, GenDecl.decoderUpTo]
    exact .record_succ (by simp) (.bind (.field (.enumeration kind.ofTag?_tag))
      (.bind (.field (.list hspecs)) (.last (.fieldOr (.bool grouped)))))

theorem Stmt.storedUpTo : ∀ (stmt : Stmt) (bound : Nat),
    Stored bound (Stmt.decoderUpTo bound) stmt.toJson stmt
  | .decl decl => .upTo fun bound => by
    have hdecl := decl.storedUpTo bound
    rw [Stmt.toJson, Stmt.decoderUpTo]
    exact .content_succ rfl (.map _ hdecl)
  | .empty => .upTo fun bound => by
    rw [Stmt.toJson, Stmt.decoderUpTo]
    exact .bare "empty" rfl
  | .labeled label stmt => .upTo fun bound => by
    have hstmt := stmt.storedUpTo bound
    rw [Stmt.toJson, Stmt.decoderUpTo]
    exact .content_succ rfl (.record (by simp)
      (.bind (.field (.string label)) (.last (.field hstmt))))
  | .expr x => .upTo fun bound => by
    have hx := x.storedUpTo bound
    rw [Stmt.toJson, Stmt.decoderUpTo]
    exact .content_succ rfl (.map _ hx)
  | .send chan value => .upTo fun bound => by
    have hchan := chan.storedUpTo bound
    have hvalue := value.storedUpTo bound
    rw [Stmt.toJson, Stmt.decoderUpTo]
    exact .content_succ rfl (.record (by simp) (.bind (.field hchan) (.last (.field hvalue))))
  | .incDec x op => .upTo fun bound => by
    have hx := x.storedUpTo bound
    rw [Stmt.toJson, Stmt.decoderUpTo]
    exact .content_succ rfl (.record (by simp) (.bind (.field hx)
      (.last (.field (.enumeration op.ofTag?_tag)))))
  | .assign lhs op rhs => .upTo fun bound => by
    have hlhs := Expr.storedList lhs bound
    have hrhs := Expr.storedList rhs bound
    rw [Stmt.toJson, Stmt.decoderUpTo]
    exact .content_succ rfl (.record (by simp) (.bind (.field (.list hlhs))
      (.bind (.field (.enumeration op.ofTag?_tag)) (.last (.field (.list hrhs))))))
  | .go call => .upTo fun bound => by
    have hcall := call.storedUpTo bound
    rw [Stmt.toJson, Stmt.decoderUpTo]
    exact .content_succ rfl (.map _ hcall)
  | .defer call => .upTo fun bound => by
    have hcall := call.storedUpTo bound
    rw [Stmt.toJson, Stmt.decoderUpTo]
    exact .content_succ rfl (.map _ hcall)
  | .return results => .upTo fun bound => by
    have hresults := Expr.storedList results bound
    rw [Stmt.toJson, Stmt.decoderUpTo]
    exact .content_succ rfl (.map _ (.list hresults))
  | .branch kind label => .upTo fun bound => by
    rw [Stmt.toJson, Stmt.decoderUpTo]
    exact .content_succ rfl (.record (by simp) (.bind (.field (.enumeration kind.ofTag?_tag))
      (.last (.fieldOr (.orNull .string Json.string_ne_null)))))
  | .block body => .upTo fun bound => by
    have hbody := Stmt.storedList body bound
    rw [Stmt.toJson, Stmt.decoderUpTo]
    exact .content_succ rfl (.map _ (Stmt.storedBlock hbody))
  | .ifElse stmt => .upTo fun bound => by
    have hstmt := stmt.storedUpTo bound
    rw [Stmt.toJson, Stmt.decoderUpTo]
    exact .content_succ rfl (.map _ hstmt)
  | .switch init tag clauses => .upTo fun bound => by
    have hinit := Stmt.storedOption init bound
    have htag := Expr.storedOption tag bound
    have hclauses := CaseClause.storedList clauses bound
    rw [Stmt.toJson, Stmt.decoderUpTo]
    exact .content_succ rfl (.record (by simp) (.bind (.fieldOr hinit) (.bind (.fieldOr htag)
      (.last (.field (.list hclauses))))))
  | .typeSwitch init assign clauses => .upTo fun bound => by
    have hinit := Stmt.storedOption init bound
    have hassign := assign.storedUpTo bound
    have hclauses := CaseClause.storedList clauses bound
    rw [Stmt.toJson, Stmt.decoderUpTo]
    exact .content_succ rfl (.record (by simp) (.bind (.fieldOr hinit) (.bind (.field hassign)
      (.last (.field (.list hclauses))))))
  | .select clauses => .upTo fun bound => by
    have hclauses := CommClause.storedList clauses bound
    rw [Stmt.toJson, Stmt.decoderUpTo]
    exact .content_succ rfl (.record (by simp) (.last (.field (.list hclauses))))
  | .loop init cond post body => .upTo fun bound => by
    have hinit := Stmt.storedOption init bound
    have hcond := Expr.storedOption cond bound
    have hpost := Stmt.storedOption post bound
    have hbody := Stmt.storedList body bound
    rw [Stmt.toJson, Stmt.decoderUpTo]
    exact .content_succ rfl (.record (by simp) (.bind (.fieldOr hinit) (.bind (.fieldOr hcond)
      (.bind (.fieldOr hpost) (.last (.field (Stmt.storedBlock hbody)))))))
  | .range key value define x body => .upTo fun bound => by
    have hkey := Expr.storedOption key bound
    have hvalue := Expr.storedOption value bound
    have hx := x.storedUpTo bound
    have hbody := Stmt.storedList body bound
    rw [Stmt.toJson, Stmt.decoderUpTo]
    exact .content_succ rfl (.record (by simp) (.bind (.fieldOr hkey) (.bind (.fieldOr hvalue)
      (.bind (.fieldOr (.bool define)) (.bind (.field hx)
        (.last (.field (Stmt.storedBlock hbody))))))))

theorem Stmt.storedOption : ∀ (stmt : Option Stmt) (bound : Nat),
    Stored bound (Stmt.decoderUpTo bound).nullable (Stmt.toJsonOption stmt) stmt
  | none, _ => .null
  | some stmt, bound => (stmt.storedUpTo bound).nullable stmt.toJson_ne_null

theorem Stmt.storedList : ∀ (body : List Stmt) (bound : Nat),
    List.Forall₂ (Stored bound (Stmt.decoderUpTo bound)) (Stmt.toJsonList body) body
  | [], _ => .nil
  | stmt :: rest, bound => .cons (stmt.storedUpTo bound) (Stmt.storedList rest bound)

theorem IfStmt.storedUpTo : ∀ (stmt : IfStmt) (bound : Nat),
    Stored bound (IfStmt.decoderUpTo bound) stmt.toJson stmt
  | ⟨init, cond, body, none⟩ => .upTo fun bound =>
    IfStmt.stored_mk (Stmt.storedOption init bound) (cond.storedUpTo bound)
      (Stmt.storedList body bound) .null
  | ⟨init, cond, body, some (.block last)⟩ => .upTo fun bound => by
    have hlast : ∀ bound, Stored bound (Else.decoderUpTo bound) (Else.block last).toJson
        (.block last) := .upTo fun bound => by
      have hlast := Stmt.storedList last bound
      rw [Else.decoderUpTo]
      exact .content_succ rfl (.map _ (Stmt.storedBlock hlast))
    exact IfStmt.stored_mk (Stmt.storedOption init bound) (cond.storedUpTo bound)
      (Stmt.storedList body bound) ((hlast bound).nullable nofun)
  | ⟨init, cond, body, some (.elseIf stmt)⟩ => .upTo fun bound => by
    have hstmt : ∀ bound, Stored bound (Else.decoderUpTo bound) (Else.elseIf stmt).toJson
        (.elseIf stmt) := .upTo fun bound => by
      have hstmt := stmt.storedUpTo bound
      rw [Else.decoderUpTo]
      exact .content_succ rfl (.map _ hstmt)
    exact IfStmt.stored_mk (Stmt.storedOption init bound) (cond.storedUpTo bound)
      (Stmt.storedList body bound) ((hstmt bound).nullable nofun)

theorem CaseClause.storedUpTo : ∀ (clause : CaseClause) (bound : Nat),
    Stored bound (CaseClause.decoderUpTo bound) clause.toJson clause
  | .cases labels body => .upTo fun bound => by
    have hlabels := Expr.storedList labels bound
    have hbody := Stmt.storedList body bound
    rw [CaseClause.toJson, CaseClause.decoderUpTo]
    exact .record_succ (by simp) (.bind (.field (.content "exprs" rfl (.map _ (.list hlabels))))
      (.last (.fieldOr (.list hbody))))
  | .default body => .upTo fun bound => by
    have hbody := Stmt.storedList body bound
    rw [CaseClause.toJson, CaseClause.decoderUpTo]
    exact .record_succ (by simp)
      (.bind (.field (.bare "default" rfl)) (.last (.fieldOr (.list hbody))))

theorem CaseClause.storedList : ∀ (clauses : List CaseClause) (bound : Nat),
    List.Forall₂ (Stored bound (CaseClause.decoderUpTo bound)) (CaseClause.toJsonList clauses)
      clauses
  | [], _ => .nil
  | clause :: rest, bound => .cons (clause.storedUpTo bound) (CaseClause.storedList rest bound)

theorem CommClause.storedUpTo : ∀ (clause : CommClause) (bound : Nat),
    Stored bound (CommClause.decoderUpTo bound) clause.toJson clause
  | .comm stmt body => .upTo fun bound => by
    have hstmt := stmt.storedUpTo bound
    have hbody := Stmt.storedList body bound
    rw [CommClause.toJson, CommClause.decoderUpTo]
    exact .record_succ (by simp) (.bind (.field (.content "comm" rfl (.map _ hstmt)))
      (.last (.fieldOr (.list hbody))))
  | .default body => .upTo fun bound => by
    have hbody := Stmt.storedList body bound
    rw [CommClause.toJson, CommClause.decoderUpTo]
    exact .record_succ (by simp)
      (.bind (.field (.bare "default" rfl)) (.last (.fieldOr (.list hbody))))

theorem CommClause.storedList : ∀ (clauses : List CommClause) (bound : Nat),
    List.Forall₂ (Stored bound (CommClause.decoderUpTo bound)) (CommClause.toJsonList clauses)
      clauses
  | [], _ => .nil
  | clause :: rest, bound => .cons (clause.storedUpTo bound) (CommClause.storedList rest bound)

end

/-! ## Declarations and files -/

section

variable {bound : Nat}

theorem Field.stored (field : Field) : Stored bound decoder field.toJson field :=
  .ofDepth field.storedUpTo

theorem FuncType.stored (type : FuncType) : Stored bound decoder type.toJson type :=
  .ofDepth type.storedUpTo

theorem Stmt.stored (stmt : Stmt) : Stored bound decoder stmt.toJson stmt :=
  .ofDepth stmt.storedUpTo

theorem GenDecl.stored (decl : GenDecl) : Stored bound decoder decl.toJson decl :=
  .ofDepth decl.storedUpTo

theorem Field.toJson_ne_null (field : Field) : field.toJson ≠ .null := by
  cases field
  nofun

theorem Stmt.toJsonList_eq_map (body : List Stmt) : toJsonList body = body.map toJson := by
  induction body with
  | nil => rfl
  | cons stmt rest ih => rw [toJsonList, ih, List.map_cons]

theorem Stmt.stored_blockToJson (body : Block) :
    Stored bound (blockDecoder decoder) (blockToJson body) body := by
  refine storedBlock ?_
  rw [toJsonList_eq_map, List.forall₂_map_left_iff, List.forall₂_same]
  exact fun stmt _ => stmt.stored

theorem FuncDecl.stored (func : FuncDecl) : Stored bound decoder func.toJson func :=
  .record (by simp) (.bind (.field (.string func.name))
    (.bind (.optionalMember Field.stored Field.toJson_ne_null)
      (.bind (.nonemptyMember Field.stored) (.bind (.field func.signature.stored)
        (.bind (.fieldOr (.orNull Stmt.stored_blockToJson fun _ => Json.object_ne_null _))
          (.last (.fieldOr func.position.stored)))))))

theorem Decl.stored (decl : Decl) : Stored bound decoder decl.toJson decl := by
  cases decl with
  | func decl => exact .content "func" rfl (.map _ decl.stored)
  | gen decl => exact .content "gen" rfl (.map _ decl.stored)

theorem SourceFile.stored (file : SourceFile) : Stored bound decoder file.toJson file :=
  .record (by simp)
    (.bind (.field (.string file.packageName)) (.bind (.fieldOr (.string file.packagePath))
    (.last (.fieldOr (.listOf fun decl _ => decl.stored)))))

end

end GoProbe
