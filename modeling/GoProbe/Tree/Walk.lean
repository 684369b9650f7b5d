import GoProbe.Tree.Basic

/-!
# Walking a tree

A walk lists the nodes of a tree, each before its parts, the parts in written order. Names that
declare something in a signature, a field or a label are not nodes; the names of value and type
declarations are. A walk takes a predicate `into` that says which expressions are entered; those
that are not entered are listed without their parts.
-/

namespace GoProbe

/-- A node that a walk lists. -/
inductive Node where
  | decl (decl : Decl)
  | func (decl : FuncDecl)
  | gen (decl : GenDecl)
  | field (field : Field)
  | block (body : Block)
  | stmt (stmt : Stmt)
  | ifElse (stmt : IfStmt)
  | caseClause (clause : CaseClause)
  | commClause (clause : CommClause)
  | expr (x : Expr)
  | ident (id : Ident)

namespace Node

/-- An expression and, if it is entered, its parts. -/
def under (into : Expr → Bool) (x : Expr) (parts : List Node) : List Node :=
  .expr x :: if into x then parts else []

end Node

/-! ## Expressions and statements -/

mutual

def Expr.walk (into : Expr → Bool) : Expr → List Node
  | .ident id => Node.under into (.ident id) [.ident id]
  | .basicLit lit => Node.under into (.basicLit lit) []
  | .compositeLit type elements =>
    Node.under into (.compositeLit type elements) <|
      Expr.walkOption into type ++ Expr.walkList into elements
  | .funcLit type body =>
    Node.under into (.funcLit type body) (type.walk into ++ .block body :: Stmt.walkList into body)
  | .paren x => Node.under into (.paren x) (x.walk into)
  | .selector x sel => Node.under into (.selector x sel) (x.walk into ++ [.ident sel])
  | .index x indices =>
    Node.under into (.index x indices) (x.walk into ++ Expr.walkList into indices)
  | .slice x low high max =>
    Node.under into (.slice x low high max) <|
      x.walk into ++ Expr.walkOption into low ++ Expr.walkOption into high ++
        Expr.walkOption into max
  | .typeAssert x type =>
    Node.under into (.typeAssert x type) (x.walk into ++ Expr.walkOption into type)
  | .call fn args spread =>
    Node.under into (.call fn args spread) (fn.walk into ++ Expr.walkList into args)
  | .star x => Node.under into (.star x) (x.walk into)
  | .unary op x constant => Node.under into (.unary op x constant) (x.walk into)
  | .binary x op y => Node.under into (.binary x op y) (x.walk into ++ y.walk into)
  | .keyValue key value =>
    Node.under into (.keyValue key value) (key.walk into ++ value.walk into)
  | .arrayType length element =>
    Node.under into (.arrayType length element) (Expr.walkOption into length ++ element.walk into)
  | .structType fields => Node.under into (.structType fields) (Field.walkList into fields)
  | .funcType type => Node.under into (.funcType type) (type.walk into)
  | .interfaceType methods =>
    Node.under into (.interfaceType methods) (Field.walkList into methods)
  | .mapType key value => Node.under into (.mapType key value) (key.walk into ++ value.walk into)
  | .chanType dir value => Node.under into (.chanType dir value) (value.walk into)
  | .ellipsis element => Node.under into (.ellipsis element) (Expr.walkOption into element)

def Expr.walkOption (into : Expr → Bool) : Option Expr → List Node
  | none => []
  | some x => x.walk into

def Expr.walkList (into : Expr → Bool) : List Expr → List Node
  | [] => []
  | x :: rest => x.walk into ++ Expr.walkList into rest

def Field.walk (into : Expr → Bool) : Field → List Node
  | ⟨names, type, tag, resolved⟩ => .field ⟨names, type, tag, resolved⟩ :: type.walk into

def Field.walkList (into : Expr → Bool) : List Field → List Node
  | [] => []
  | field :: rest => field.walk into ++ Field.walkList into rest

def FuncType.walk (into : Expr → Bool) : FuncType → List Node
  | ⟨params, results⟩ => Field.walkList into params ++ Field.walkList into results

def Spec.walk (into : Expr → Bool) : Spec → List Node
  | .imports _ => []
  | .value names type values =>
    names.map .ident ++ Expr.walkOption into type ++ Expr.walkList into values
  | .type name params _ type => .ident name :: Field.walkList into params ++ type.walk into

def Spec.walkList (into : Expr → Bool) : List Spec → List Node
  | [] => []
  | spec :: rest => spec.walk into ++ Spec.walkList into rest

def GenDecl.walk (into : Expr → Bool) : GenDecl → List Node
  | ⟨kind, specs, grouped⟩ => .gen ⟨kind, specs, grouped⟩ :: Spec.walkList into specs

def Stmt.walk (into : Expr → Bool) : Stmt → List Node
  | .decl decl => .stmt (.decl decl) :: decl.walk into
  | .empty => [.stmt .empty]
  | .labeled label stmt => .stmt (.labeled label stmt) :: stmt.walk into
  | .expr x => .stmt (.expr x) :: x.walk into
  | .send chan value => .stmt (.send chan value) :: chan.walk into ++ value.walk into
  | .incDec x op => .stmt (.incDec x op) :: x.walk into
  | .assign lhs op rhs =>
    .stmt (.assign lhs op rhs) :: Expr.walkList into lhs ++ Expr.walkList into rhs
  | .go call => .stmt (.go call) :: call.walk into
  | .defer call => .stmt (.defer call) :: call.walk into
  | .return results => .stmt (.return results) :: Expr.walkList into results
  | .branch kind label => [.stmt (.branch kind label)]
  | .block body => .stmt (.block body) :: .block body :: Stmt.walkList into body
  | .ifElse stmt => .stmt (.ifElse stmt) :: stmt.walk into
  | .switch init tag clauses =>
    .stmt (.switch init tag clauses) :: Stmt.walkOption into init ++ Expr.walkOption into tag ++
      CaseClause.walkList into clauses
  | .typeSwitch init assign clauses =>
    .stmt (.typeSwitch init assign clauses) :: Stmt.walkOption into init ++ assign.walk into ++
      CaseClause.walkList into clauses
  | .select clauses => .stmt (.select clauses) :: CommClause.walkList into clauses
  | .loop init cond post body =>
    .stmt (.loop init cond post body) :: Stmt.walkOption into init ++ Expr.walkOption into cond ++
      Stmt.walkOption into post ++ .block body :: Stmt.walkList into body
  | .range key value define x body =>
    .stmt (.range key value define x body) :: Expr.walkOption into key ++
      Expr.walkOption into value ++ x.walk into ++ .block body :: Stmt.walkList into body

def Stmt.walkOption (into : Expr → Bool) : Option Stmt → List Node
  | none => []
  | some stmt => stmt.walk into

def Stmt.walkList (into : Expr → Bool) : List Stmt → List Node
  | [] => []
  | stmt :: rest => stmt.walk into ++ Stmt.walkList into rest

def IfStmt.walk (into : Expr → Bool) : IfStmt → List Node
  | ⟨init, cond, body, otherwise⟩ =>
    .ifElse ⟨init, cond, body, otherwise⟩ :: Stmt.walkOption into init ++ cond.walk into ++
      .block body :: Stmt.walkList into body ++
      match otherwise with
      | none => []
      | some (.block body) => .block body :: Stmt.walkList into body
      | some (.elseIf stmt) => stmt.walk into

def CaseClause.walk (into : Expr → Bool) : CaseClause → List Node
  | .cases labels body =>
    .caseClause (.cases labels body) :: Expr.walkList into labels ++ Stmt.walkList into body
  | .default body => .caseClause (.default body) :: Stmt.walkList into body

def CaseClause.walkList (into : Expr → Bool) : List CaseClause → List Node
  | [] => []
  | clause :: rest => clause.walk into ++ CaseClause.walkList into rest

def CommClause.walk (into : Expr → Bool) : CommClause → List Node
  | .comm stmt body =>
    .commClause (.comm stmt body) :: stmt.walk into ++ Stmt.walkList into body
  | .default body => .commClause (.default body) :: Stmt.walkList into body

def CommClause.walkList (into : Expr → Bool) : List CommClause → List Node
  | [] => []
  | clause :: rest => clause.walk into ++ CommClause.walkList into rest

end

/-! ## Declarations and files -/

/-- A block and its statements. -/
def Stmt.walkBlock (into : Expr → Bool) (body : Block) : List Node :=
  .block body :: Stmt.walkList into body

/-- The parts of a function: receiver, type parameters, signature and body. -/
def FuncDecl.walkParts (into : Expr → Bool) (func : FuncDecl) : List Node :=
  func.receiver.elim [] (Field.walk into) ++ Field.walkList into func.typeParams ++
    func.signature.walk into ++ func.body.elim [] (Stmt.walkBlock into)

def Decl.walk (into : Expr → Bool) : Decl → List Node
  | .func decl => .decl (.func decl) :: .func decl :: decl.walkParts into
  | .gen decl => .decl (.gen decl) :: decl.walk into

def SourceFile.walk (into : Expr → Bool) (file : SourceFile) : List Node :=
  file.decls.flatMap (Decl.walk into)

/-- Enters every expression. -/
def everywhere (_ : Expr) : Bool := true

/-! ## Tags -/

/-- The name of an expression's form. -/
def Expr.tag : Expr → String
  | .ident _ => "ident"
  | .basicLit _ => "basic_lit"
  | .compositeLit _ _ => "composite_lit"
  | .funcLit _ _ => "func_lit"
  | .paren _ => "paren"
  | .selector _ _ => "selector"
  | .index _ _ => "index"
  | .slice _ _ _ _ => "slice"
  | .typeAssert _ _ => "type_assert"
  | .call _ _ _ => "call"
  | .star _ => "star"
  | .unary _ _ _ => "unary"
  | .binary _ _ _ => "binary"
  | .keyValue _ _ => "key_value"
  | .arrayType _ _ => "array_type"
  | .structType _ => "struct_type"
  | .funcType _ => "func_type"
  | .interfaceType _ => "interface_type"
  | .mapType _ _ => "map_type"
  | .chanType _ _ => "chan_type"
  | .ellipsis _ => "ellipsis"

/-- The name of a statement's form. -/
def Stmt.tag : Stmt → String
  | .decl _ => "decl"
  | .empty => "empty"
  | .labeled _ _ => "labeled"
  | .expr _ => "expr"
  | .send _ _ => "send"
  | .incDec _ _ => "inc_dec"
  | .assign _ _ _ => "assign"
  | .go _ => "go"
  | .defer _ => "defer"
  | .return _ => "return"
  | .branch _ _ => "branch"
  | .block _ => "block"
  | .ifElse _ => "if"
  | .switch _ _ _ => "switch"
  | .typeSwitch _ _ _ => "type_switch"
  | .select _ => "select"
  | .loop _ _ _ _ => "for"
  | .range _ _ _ _ _ => "range"

namespace Node

/-- One line that tells what the node is. -/
def label : Node → String
  | decl (.func _) => "decl func"
  | decl (.gen _) => "decl gen"
  | func f => "func " ++ f.name
  | gen g => "gen " ++ g.kind.keyword
  | field f => "field " ++ toString f.names.length
  | block body => "block " ++ toString body.length
  | stmt s => "stmt " ++ s.tag
  | ifElse _ => "if"
  | caseClause (.cases _ _) => "case exprs"
  | caseClause (.default _) => "case default"
  | commClause (.comm _ _) => "comm comm"
  | commClause (.default _) => "comm default (default)"
  | expr x => "expr " ++ x.tag
  | ident id => "ident " ++ id.name

/-- The identifier, if the node is one. -/
def ident? : Node → Option Ident
  | ident id => some id
  | _ => none

end Node

/-- The identifiers of a walk, in order. -/
def identsOf (nodes : List Node) : List Ident := nodes.filterMap Node.ident?

end GoProbe
