import GoProbe.Literal
import GoProbe.Tree.ResolvedType

/-!
# Resolved Go trees

The tree of one source file as the resolver hands it over: declarations, statements and
expressions, with the resolution of identifiers and the types of signature slots attached.
Optional arms are explicit: an `if` has an optional `Else`, and a clause is either labelled or a
default.

A block is a list of statements. The trees are finite and closed under nothing else: whether they
spell a legal Go program is not asked here.
-/

namespace GoProbe

/-- A compile-time value found by the resolver; the text of a string is unquoted. -/
structure Constant where
  typeName : String
  value : String
deriving DecidableEq, Repr, Inhabited

structure BasicLit where
  kind : LitKind
  /-- Source text, with the quotes of strings and runes. -/
  value : String
  constant : Option Constant := none
deriving DecidableEq, Repr, Inhabited

structure ImportSpec where
  /-- Local name; `.` for a dot import, `_` for a blank one. -/
  localName : Option String
  /-- Import path without quotes. -/
  path : String
deriving DecidableEq, Repr, Inhabited

/-- Line and column of a declaration. -/
structure Position where
  line : UInt32
  column : UInt32
deriving DecidableEq, Repr, Inhabited

mutual

inductive Expr where
  | ident (id : Ident)
  | basicLit (lit : BasicLit)
  | compositeLit (type : Option Expr) (elements : List Expr)
  | funcLit (type : FuncType) (body : List Stmt)
  | paren (x : Expr)
  | selector (x : Expr) (sel : Ident)
  /-- Indexing, or instantiation of a generic. -/
  | index (x : Expr) (indices : List Expr)
  | slice (x : Expr) (low high max : Option Expr)
  /-- `x.(T)`; without a type the guard `x.(type)` of a type switch. -/
  | typeAssert (x : Expr) (type : Option Expr)
  /-- A call; `spread` puts `...` after the last argument. -/
  | call (fn : Expr) (args : List Expr) (spread : Bool)
  | star (x : Expr)
  | unary (op : UnaryOp) (x : Expr) (constant : Option Constant)
  | binary (x : Expr) (op : BinaryOp) (y : Expr)
  | keyValue (key value : Expr)
  /-- `[N]T`, `[...]T` or, without a length, `[]T`. -/
  | arrayType (length : Option Expr) (element : Expr)
  | structType (fields : List Field)
  | funcType (type : FuncType)
  | interfaceType (methods : List Field)
  | mapType (key value : Expr)
  | chanType (dir : ChanDir) (value : Expr)
  | ellipsis (element : Option Expr)

/-- A parameter, result, struct field or interface element. -/
structure Field where
  names : List Ident
  type : Expr
  /-- Struct tag with its quotes. -/
  tag : Option String
  resolved : Option ResolvedType

structure FuncType where
  params : List Field
  results : List Field

inductive Spec where
  | imports (spec : ImportSpec)
  | value (names : List Ident) (type : Option Expr) (values : List Expr)
  /-- `type Name[params] T`, with `=` before `T` for an alias. -/
  | type (name : Ident) (params : List Field) (isAlias : Bool) (type : Expr)

structure GenDecl where
  kind : GenKind
  specs : List Spec
  /-- Written with parentheses even if there is one entry. -/
  grouped : Bool

inductive Stmt where
  | decl (decl : GenDecl)
  | empty
  | labeled (label : String) (stmt : Stmt)
  | expr (x : Expr)
  | send (chan value : Expr)
  | incDec (x : Expr) (op : IncDecOp)
  | assign (lhs : List Expr) (op : AssignOp) (rhs : List Expr)
  | go (call : Expr)
  | defer (call : Expr)
  | return (results : List Expr)
  | branch (kind : BranchKind) (label : Option String)
  | block (body : List Stmt)
  | ifElse (stmt : IfStmt)
  | switch (init : Option Stmt) (tag : Option Expr) (clauses : List CaseClause)
  /-- `assign` is the guard `x := v.(type)` or the bare `v.(type)`. -/
  | typeSwitch (init : Option Stmt) (assign : Stmt) (clauses : List CaseClause)
  | select (clauses : List CommClause)
  | loop (init : Option Stmt) (cond : Option Expr) (post : Option Stmt) (body : List Stmt)
  | range (key value : Option Expr) (define : Bool) (x : Expr) (body : List Stmt)

structure IfStmt where
  init : Option Stmt
  cond : Expr
  body : List Stmt
  otherwise : Option Else

inductive Else where
  | block (body : List Stmt)
  | elseIf (stmt : IfStmt)

inductive CaseClause where
  /-- Values of an expression switch, types of a type switch. -/
  | cases (labels : List Expr) (body : List Stmt)
  | default (body : List Stmt)

inductive CommClause where
  | comm (stmt : Stmt) (body : List Stmt)
  | default (body : List Stmt)

end

/-- A block is a list of statements. -/
abbrev Block := List Stmt

instance : Inhabited Expr := ⟨.ident default⟩

instance : Inhabited Stmt := ⟨.empty⟩

instance : Inhabited Field := ⟨⟨[], default, none, none⟩⟩

instance : Inhabited FuncType := ⟨⟨[], []⟩⟩

structure FuncDecl where
  name : String
  receiver : Option Field
  typeParams : List Field
  signature : FuncType
  /-- Absent for a function that is implemented elsewhere. -/
  body : Option Block
  position : Position
deriving Inhabited

inductive Decl where
  | func (decl : FuncDecl)
  | gen (decl : GenDecl)

structure SourceFile where
  packageName : String
  /-- Import path of the package that the file belongs to. -/
  packagePath : String
  decls : List Decl
deriving Inhabited

/-! ## Building expressions -/

namespace Expr

/-- An unresolved identifier. -/
def name (text : String) : Expr := .ident { name := text }

/-- The literal of a text. -/
def stringLit (text : String) : Expr :=
  .basicLit { kind := .string, value := Literal.quote text }

/-- The literal of a number. -/
def intLit (value : Nat) : Expr :=
  .basicLit { kind := .int, value := toString value }

/-- A call without `...`. -/
def apply (fn : Expr) (args : List Expr) : Expr := .call fn args false

/-- `[]T`. -/
def sliceOf (element : Expr) : Expr := .arrayType none element

/-- The type name below pointers, parentheses and type arguments. -/
def baseName? : Expr → Option String
  | .ident id => some id.name
  | .star x => x.baseName?
  | .paren x => x.baseName?
  | .index x _ => x.baseName?
  | .selector _ sel => some sel.name
  | _ => none

def isEllipsis : Expr → Bool
  | .ellipsis _ => true
  | _ => false

end Expr

/-! ## Reading declarations -/

def Stmt.isReturn : Stmt → Bool
  | .return _ => true
  | _ => false

def Stmt.isEmpty : Stmt → Bool
  | .empty => true
  | _ => false

def CaseClause.isDefault : CaseClause → Bool
  | .default _ => true
  | .cases _ _ => false

/-- A field without tag and resolved type. -/
def Field.plain (names : List String) (type : Expr) : Field :=
  { names := names.map ({ name := · }), type, tag := none, resolved := none }

namespace FuncDecl

/-- The base type of the receiver, if there is a receiver and it has a name. -/
def receiverName? (func : FuncDecl) : Option String :=
  func.receiver.bind (·.type.baseName?)

/-- `Name` for a function, `Receiver.Name` for a method. -/
def qualifiedName (func : FuncDecl) : String :=
  match func.receiverName? with
  | some receiver => receiver ++ "." ++ func.name
  | none => func.name

/-- Whether the last parameter takes any number of arguments. -/
def isVariadic (func : FuncDecl) : Bool :=
  match func.signature.params.getLast? with
  | some field => field.type.isEllipsis
  | none => false

end FuncDecl

namespace SourceFile

/-- The function declarations in written order. -/
def functions (file : SourceFile) : List FuncDecl :=
  file.decls.filterMap fun
    | .func func => some func
    | .gen _ => none

/-- The imports in written order. -/
def imports (file : SourceFile) : List ImportSpec :=
  file.decls.flatMap fun
    | .gen ⟨.imports, specs, _⟩ => specs.filterMap fun
      | .imports spec => some spec
      | _ => none
    | _ => []

end SourceFile

end GoProbe
