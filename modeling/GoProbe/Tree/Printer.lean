import GoProbe.Tree.Basic

/-!
# Printing trees

A printer has the text written so far and a depth. It works piece by piece: it writes a token or a
blank, ends the line, indents by as many tabs as it is deep, or goes one level deeper or back.
`layout` lists the pieces for each form of tree, and printing is running a printer over them.

Each token is a piece of its own, and literals and the identifiers that refer to something are kept
apart from other tokens, so that what is written, and in which order, can be read off the layout.

The text is in Go's usual form: a tab per level, a statement per line, `} else {` on one line,
clause labels at the level of their switch. Empty statements are not written. An operand is put in
parentheses when it binds less tightly than its place demands, and two operators that would read
as one when written together are kept apart by a blank.
-/

namespace GoProbe

/-! ## Pieces -/

/-- What a printer does at a time. -/
inductive Piece where
  /-- An identifier that is a reference, or the name in a value or type declaration. -/
  | ident (id : Ident)
  | literal (text : String)
  /-- A keyword, operator or any other name. -/
  | token (text : String)
  | blank
  | newline
  /-- As many tabs as the printer is deep. -/
  | indent
  /-- One level deeper. -/
  | deepen
  /-- One level back. -/
  | raise
deriving DecidableEq, Repr

namespace Piece

def openBrace : Piece := token "\x7b"
def closeBrace : Piece := token "\x7d"
def openParen : Piece := token "("
def closeParen : Piece := token ")"
def openBracket : Piece := token "["
def closeBracket : Piece := token "]"
def comma : Piece := token ","
def colon : Piece := token ":"
def semicolon : Piece := token ";"

end Piece

/-! ## Printers -/

/-- The text so far, and how deep the next line is. -/
structure Printer where
  text : String := ""
  depth : Nat := 0
deriving DecidableEq, Repr, Inhabited

namespace Printer

def write (printer : Printer) (text : String) : Printer :=
  { printer with text := printer.text ++ text }

def step (printer : Printer) : Piece → Printer
  | .ident id => printer.write id.name
  | .literal text => printer.write text
  | .token text => printer.write text
  | .blank => printer.write " "
  | .newline => { printer with text := printer.text.push '\n' }
  | .indent => { printer with text := printer.text.pushn '\t' printer.depth }
  | .deepen => { printer with depth := printer.depth + 1 }
  | .raise => { printer with depth := printer.depth - 1 }

def run (printer : Printer) (pieces : List Piece) : Printer :=
  pieces.foldl step printer

end Printer

/-! ## Precedence -/

/-- The precedence of prefix operators. -/
def unaryPrecedence : Nat := 6

/-- The precedence of operands that never need parentheses. -/
def primaryPrecedence : Nat := 7

def Expr.precedence : Expr → Nat
  | .binary _ op _ => op.precedence
  | .unary _ _ _ => unaryPrecedence
  | .star _ => unaryPrecedence
  | _ => primaryPrecedence

/-- The first character of an operand that starts with an operator. -/
def Expr.leadingOperator? : Expr → Option Char
  | .unary op _ _ => op.text.toList.head?
  | .star _ => some '*'
  | _ => none

/-- Whether the operator, written directly before the operand, would read as another token. -/
def UnaryOp.gluesTo (op : UnaryOp) (operand : Expr) : Bool :=
  match op.text.toList.getLast?, operand.leadingOperator? with
  | some '-', some '-' => true
  | some '+', some '+' => true
  | some '&', some '&' => true
  | some '&', some '^' => true
  | _, _ => false

/-! ## Layouts -/

namespace Piece

/-- Parentheses around the pieces where they are needed. -/
def wrapIf (needed : Bool) (pieces : List Piece) : List Piece :=
  if needed then openParen :: pieces ++ [closeParen] else pieces

/-- Lines one level deeper between braces. -/
def braced (lines : List Piece) : List Piece :=
  openBrace :: newline :: deepen :: lines ++ [raise, indent, closeBrace]

/-- Names that are not references, with commas between them. -/
def nameList : List Ident → List Piece
  | [] => []
  | [id] => [token id.name]
  | id :: rest => token id.name :: comma :: blank :: nameList rest

/-- Declared names, with commas between them. -/
def identList : List Ident → List Piece
  | [] => []
  | [id] => [ident id]
  | id :: rest => ident id :: comma :: blank :: identList rest

/-- A field or parameter of names, if it has any, a type and a tag. -/
def field (names : List Ident) (type : List Piece) (tag : Option String) : List Piece :=
  (if names.isEmpty then [] else nameList names ++ [blank]) ++ type ++
    (match tag with
      | some tag => [blank, token tag]
      | none => [])

end Piece

def ChanDir.pieces : ChanDir → List Piece
  | both => [.token "chan", .blank]
  | send => [.token "chan", .token "<-", .blank]
  | recv => [.token "<-", .token "chan", .blank]

def ImportSpec.pieces (spec : ImportSpec) : List Piece :=
  (match spec.localName with
    | some name => [.token name, .blank]
    | none => []) ++
  [.token ("\"" ++ spec.path ++ "\"")]

open Piece

mutual

/-- An expression without the parentheses that its place may demand. -/
def Expr.layout : Expr → List Piece
  | .ident id => [.ident id]
  | .basicLit lit => [.literal lit.value]
  | .compositeLit type elements =>
    (match type with
      | some type => wrapIf (type.precedence < primaryPrecedence) type.layout
      | none => []) ++
    openBrace :: Expr.layoutList elements ++ [closeBrace]
  | .funcLit type body =>
    .token "func" :: type.layout ++ .blank :: braced (Stmt.layoutList body)
  | .paren x => openParen :: x.layout ++ [closeParen]
  | .selector x sel =>
    wrapIf (x.precedence < primaryPrecedence) x.layout ++ [.token ".", .ident sel]
  | .index x indices =>
    wrapIf (x.precedence < primaryPrecedence) x.layout ++
      openBracket :: Expr.layoutList indices ++ [closeBracket]
  | .slice x low high max =>
    wrapIf (x.precedence < primaryPrecedence) x.layout ++
      openBracket :: Expr.layoutOption low ++ colon :: Expr.layoutOption high ++
      (match max with
        | some max => colon :: max.layout
        | none => []) ++
      [closeBracket]
  | .typeAssert x type =>
    wrapIf (x.precedence < primaryPrecedence) x.layout ++
      .token "." :: openParen ::
      (match type with
        | some type => type.layout
        | none => [.token "type"]) ++
      [closeParen]
  | .call fn args spread =>
    wrapIf (fn.precedence < primaryPrecedence) fn.layout ++
      openParen :: Expr.layoutList args ++ (if spread then [.token "..."] else []) ++ [closeParen]
  | .star x => .token "*" :: wrapIf (x.precedence < unaryPrecedence) x.layout
  | .unary op x _ =>
    .token op.text :: (if op.gluesTo x then [.blank] else []) ++
      wrapIf (x.precedence < unaryPrecedence) x.layout
  | .binary x op y =>
    wrapIf (x.precedence < op.precedence) x.layout ++ .blank :: .token op.text :: .blank ::
      wrapIf (y.precedence < op.precedence + 1) y.layout
  | .keyValue key value => key.layout ++ colon :: .blank :: value.layout
  | .arrayType length element =>
    openBracket :: Expr.layoutOption length ++ closeBracket :: element.layout
  | .structType [] => [.token "struct", openBrace, closeBrace]
  | .structType fields => .token "struct" :: .blank :: braced (Field.layoutLines fields)
  | .funcType type => .token "func" :: type.layout
  | .interfaceType [] => [.token "interface", openBrace, closeBrace]
  | .interfaceType methods => .token "interface" :: .blank :: braced (Field.layoutMethods methods)
  | .mapType key value =>
    .token "map" :: openBracket :: key.layout ++ closeBracket :: value.layout
  | .chanType dir value => dir.pieces ++ value.layout
  | .ellipsis element => .token "..." :: Expr.layoutOption element

/-- Nothing for an absent expression. -/
def Expr.layoutOption : Option Expr → List Piece
  | none => []
  | some x => x.layout

/-- Expressions with commas between them. -/
def Expr.layoutList : List Expr → List Piece
  | [] => []
  | [x] => x.layout
  | x :: rest => x.layout ++ comma :: .blank :: Expr.layoutList rest

def Field.layout : Field → List Piece
  | ⟨names, type, tag, _⟩ => Piece.field names type.layout tag

/-- Fields with commas between them. -/
def Field.layoutList : List Field → List Piece
  | [] => []
  | [field] => field.layout
  | field :: rest => field.layout ++ comma :: .blank :: Field.layoutList rest

/-- Each field on a line of its own. -/
def Field.layoutLines : List Field → List Piece
  | [] => []
  | field :: rest => .indent :: field.layout ++ .newline :: Field.layoutLines rest

/-- An interface element; a method is written without `func`. -/
def Field.layoutMethod : Field → List Piece
  | ⟨[name], .funcType type, _, _⟩ => .token name.name :: type.layout
  | ⟨names, type, tag, _⟩ => Piece.field names type.layout tag

/-- Each interface element on a line of its own. -/
def Field.layoutMethods : List Field → List Piece
  | [] => []
  | method :: rest => .indent :: method.layoutMethod ++ .newline :: Field.layoutMethods rest

/-- Parameters and results; a single unnamed result stands without parentheses. -/
def FuncType.layout : FuncType → List Piece
  | ⟨params, results⟩ =>
    openParen :: Field.layoutList params ++ closeParen ::
      (match results with
        | [] => []
        | [⟨[], type, _, _⟩] => .blank :: type.layout
        | results => .blank :: openParen :: Field.layoutList results ++ [closeParen])

def Spec.layout : Spec → List Piece
  | .imports spec => spec.pieces
  | .value names type values =>
    identList names ++
      (match type with
        | some type => .blank :: type.layout
        | none => []) ++
      (match values with
        | [] => []
        | values => .blank :: .token "=" :: .blank :: Expr.layoutList values)
  | .type name params isAlias type =>
    .ident name ::
      (match params with
        | [] => []
        | params => openBracket :: Field.layoutList params ++ [closeBracket]) ++
      .blank :: (if isAlias then [.token "=", .blank] else []) ++ type.layout

/-- Each entry on a line of its own. -/
def Spec.layoutLines : List Spec → List Piece
  | [] => []
  | spec :: rest => .indent :: spec.layout ++ .newline :: Spec.layoutLines rest

def GenDecl.layout : GenDecl → List Piece
  | ⟨kind, [spec], false⟩ => .token kind.keyword :: .blank :: spec.layout
  | ⟨kind, specs, _⟩ =>
    .token kind.keyword :: .blank :: openParen :: .newline :: .deepen :: Spec.layoutLines specs ++
      [.raise, .indent, closeParen]

def Stmt.layout : Stmt → List Piece
  | .decl decl => decl.layout
  | .empty => []
  | .labeled label .empty => [.token label, colon]
  | .labeled label stmt => .token label :: colon :: .newline :: .indent :: stmt.layout
  | .expr x => x.layout
  | .send chan value => chan.layout ++ .blank :: .token "<-" :: .blank :: value.layout
  | .incDec x op => x.layout ++ [.token op.text]
  | .assign lhs op rhs =>
    Expr.layoutList lhs ++ .blank :: .token op.text :: .blank :: Expr.layoutList rhs
  | .go call => .token "go" :: .blank :: call.layout
  | .defer call => .token "defer" :: .blank :: call.layout
  | .return [] => [.token "return"]
  | .return results => .token "return" :: .blank :: Expr.layoutList results
  | .branch kind label =>
    .token kind.keyword ::
      (match label with
        | some label => [.blank, .token label]
        | none => [])
  | .block body => braced (Stmt.layoutList body)
  | .ifElse stmt => stmt.layout
  | .switch init tag clauses =>
    .token "switch" ::
      (match init with
        | some init => .blank :: init.layout ++ [semicolon]
        | none => []) ++
      (match tag with
        | some tag => .blank :: tag.layout
        | none => []) ++
      .blank :: openBrace :: .newline :: CaseClause.layoutList clauses ++ [.indent, closeBrace]
  | .typeSwitch init assign clauses =>
    .token "switch" :: .blank :: Stmt.layoutInit init ++ assign.layout ++
      .blank :: openBrace :: .newline :: CaseClause.layoutList clauses ++ [.indent, closeBrace]
  | .select clauses =>
    .token "select" :: .blank :: openBrace :: .newline :: CommClause.layoutList clauses ++
      [.indent, closeBrace]
  | .loop none cond none body =>
    .token "for" :: .blank ::
      (match cond with
        | some cond => cond.layout ++ [.blank]
        | none => []) ++
      braced (Stmt.layoutList body)
  | .loop init cond post body =>
    .token "for" :: .blank :: Stmt.layoutOption init ++
      semicolon :: .blank :: Expr.layoutOption cond ++
      semicolon :: Stmt.layoutPost post ++
      .blank :: braced (Stmt.layoutList body)
  | .range key value define x body =>
    .token "for" :: .blank ::
      (match key with
        | some key =>
          key.layout ++
            (match value with
              | some value => comma :: .blank :: value.layout
              | none => []) ++
            [.blank, .token (if define then ":=" else "="), .blank]
        | none => []) ++
      .token "range" :: .blank :: x.layout ++ .blank :: braced (Stmt.layoutList body)

/-- Nothing for an absent statement. -/
def Stmt.layoutOption : Option Stmt → List Piece
  | some stmt => stmt.layout
  | none => []

/-- A statement at the end of a header, after a blank. -/
def Stmt.layoutPost : Option Stmt → List Piece
  | some post => .blank :: post.layout
  | none => []

/-- A statement before the header proper, with its semicolon. -/
def Stmt.layoutInit : Option Stmt → List Piece
  | some init => init.layout ++ [semicolon, .blank]
  | none => []

/-- Each statement on a line of its own. -/
def Stmt.layoutList : List Stmt → List Piece
  | [] => []
  | .empty :: rest => Stmt.layoutList rest
  | stmt :: rest => .indent :: stmt.layout ++ .newline :: Stmt.layoutList rest

def IfStmt.layout : IfStmt → List Piece
  | ⟨init, cond, body, otherwise⟩ =>
    .token "if" :: .blank :: Stmt.layoutInit init ++ cond.layout ++
      .blank :: braced (Stmt.layoutList body) ++ Else.layoutOption otherwise

/-- What follows the first block of an `if`. -/
def Else.layoutOption : Option Else → List Piece
  | none => []
  | some (.block body) => .blank :: .token "else" :: .blank :: braced (Stmt.layoutList body)
  | some (.elseIf stmt) => .blank :: .token "else" :: .blank :: stmt.layout

/-- A label, and the statements one level deeper. -/
def CaseClause.layout : CaseClause → List Piece
  | .cases labels body =>
    .indent :: .token "case" :: .blank :: Expr.layoutList labels ++
      colon :: .newline :: .deepen :: Stmt.layoutList body ++ [.raise]
  | .default body =>
    .indent :: .token "default" :: colon :: .newline :: .deepen :: Stmt.layoutList body ++ [.raise]

def CaseClause.layoutList : List CaseClause → List Piece
  | [] => []
  | clause :: rest => clause.layout ++ CaseClause.layoutList rest

/-- A label, and the statements one level deeper. -/
def CommClause.layout : CommClause → List Piece
  | .comm stmt body =>
    .indent :: .token "case" :: .blank :: stmt.layout ++
      colon :: .newline :: .deepen :: Stmt.layoutList body ++ [.raise]
  | .default body =>
    .indent :: .token "default" :: colon :: .newline :: .deepen :: Stmt.layoutList body ++ [.raise]

def CommClause.layoutList : List CommClause → List Piece
  | [] => []
  | clause :: rest => clause.layout ++ CommClause.layoutList rest

end

/-- An expression at a place that demands precedence `min` or more. -/
def Expr.layoutAt (min : Nat) (x : Expr) : List Piece :=
  wrapIf (x.precedence < min) x.layout

/-- The receiver, in parentheses, before the name. -/
def FuncDecl.receiverLayout (func : FuncDecl) : List Piece :=
  match func.receiver with
  | some receiver => openParen :: receiver.layout ++ [closeParen, .blank]
  | none => []

/-- The type parameters, in brackets, after the name. -/
def FuncDecl.typeParamLayout (func : FuncDecl) : List Piece :=
  match func.typeParams with
  | [] => []
  | params => openBracket :: Field.layoutList params ++ [closeBracket]

def FuncDecl.layout (func : FuncDecl) : List Piece :=
  .token "func" :: .blank :: func.receiverLayout ++
    .token func.name :: func.typeParamLayout ++ func.signature.layout ++
    (match func.body with
      | some body => .blank :: braced (Stmt.layoutList body)
      | none => [])

def Decl.layout : Decl → List Piece
  | .func decl => decl.layout
  | .gen decl => decl.layout

/-- The package clause, then every declaration after an empty line. -/
def SourceFile.layout (file : SourceFile) : List Piece :=
  .token "package" :: .blank :: .token file.packageName :: .newline ::
    file.decls.flatMap fun decl => .newline :: decl.layout ++ [.newline]

/-! ## Text -/

def Expr.print (x : Expr) : String := (Printer.run {} (x.layoutAt 0)).text

def Stmt.print (stmt : Stmt) : String := (Printer.run {} stmt.layout).text

def FuncDecl.print (func : FuncDecl) : String := (Printer.run {} func.layout).text

def SourceFile.print (file : SourceFile) : String := (Printer.run {} file.layout).text

end GoProbe
