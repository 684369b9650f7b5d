/-!
# Operators and keywords of Go

The closed sets of operators, declaration kinds and directions that a tree mentions. Each has its
spelling in Go source (`text`, `keyword`) and the tag under which it is stored (`tag`, read back
by `ofTag?`). The precedence of binary operators is Go's: five levels, all to the left.
-/

namespace GoProbe

/-- What a general declaration declares. -/
inductive GenKind where
  | imports | consts | types | vars
deriving DecidableEq, Repr, Inhabited

namespace GenKind

def keyword : GenKind → String
  | imports => "import"
  | consts => "const"
  | types => "type"
  | vars => "var"

def tag : GenKind → String := keyword

def ofTag? : String → Option GenKind
  | "import" => some imports
  | "const" => some consts
  | "type" => some types
  | "var" => some vars
  | _ => none

@[simp] theorem ofTag?_tag (kind : GenKind) : ofTag? kind.tag = some kind := by
  cases kind <;> rfl

end GenKind

/-- Increment or decrement. -/
inductive IncDecOp where
  | inc | dec
deriving DecidableEq, Repr, Inhabited

namespace IncDecOp

def text : IncDecOp → String
  | inc => "++"
  | dec => "--"

def tag : IncDecOp → String
  | inc => "inc"
  | dec => "dec"

def ofTag? : String → Option IncDecOp
  | "inc" => some inc
  | "dec" => some dec
  | _ => none

@[simp] theorem ofTag?_tag (op : IncDecOp) : ofTag? op.tag = some op := by
  cases op <;> rfl

end IncDecOp

/-- Plain assignment, definition, and the assignments that apply an operator. -/
inductive AssignOp where
  | assign | define | add | sub | mul | quo | rem | and | or | xor | shl | shr | andNot
deriving DecidableEq, Repr, Inhabited

namespace AssignOp

def text : AssignOp → String
  | assign => "="
  | define => ":="
  | add => "+="
  | sub => "-="
  | mul => "*="
  | quo => "/="
  | rem => "%="
  | and => "&="
  | or => "|="
  | xor => "^="
  | shl => "<<="
  | shr => ">>="
  | andNot => "&^="

def tag : AssignOp → String
  | assign => "assign"
  | define => "define"
  | add => "add"
  | sub => "sub"
  | mul => "mul"
  | quo => "quo"
  | rem => "rem"
  | and => "and"
  | or => "or"
  | xor => "xor"
  | shl => "shl"
  | shr => "shr"
  | andNot => "and_not"

def ofTag? : String → Option AssignOp
  | "assign" => some assign
  | "define" => some define
  | "add" => some add
  | "sub" => some sub
  | "mul" => some mul
  | "quo" => some quo
  | "rem" => some rem
  | "and" => some and
  | "or" => some or
  | "xor" => some xor
  | "shl" => some shl
  | "shr" => some shr
  | "and_not" => some andNot
  | _ => none

@[simp] theorem ofTag?_tag (op : AssignOp) : ofTag? op.tag = some op := by
  cases op <;> rfl

end AssignOp

/-- A jump. -/
inductive BranchKind where
  | break | continue | goto | fallthrough
deriving DecidableEq, Repr, Inhabited

namespace BranchKind

def keyword : BranchKind → String
  | «break» => "break"
  | «continue» => "continue"
  | goto => "goto"
  | fallthrough => "fallthrough"

def tag : BranchKind → String := keyword

def ofTag? : String → Option BranchKind
  | "break" => some «break»
  | "continue" => some «continue»
  | "goto" => some goto
  | "fallthrough" => some fallthrough
  | _ => none

@[simp] theorem ofTag?_tag (kind : BranchKind) : ofTag? kind.tag = some kind := by
  cases kind <;> rfl

end BranchKind

/-- The lexical class of a literal. -/
inductive LitKind where
  | int | float | imag | char | string
deriving DecidableEq, Repr, Inhabited

namespace LitKind

def tag : LitKind → String
  | int => "int"
  | float => "float"
  | imag => "imag"
  | char => "char"
  | string => "string"

def ofTag? : String → Option LitKind
  | "int" => some int
  | "float" => some float
  | "imag" => some imag
  | "char" => some char
  | "string" => some string
  | _ => none

@[simp] theorem ofTag?_tag (kind : LitKind) : ofTag? kind.tag = some kind := by
  cases kind <;> rfl

end LitKind

inductive UnaryOp where
  | neg | plus | not | xor | addr | recv
deriving DecidableEq, Repr, Inhabited

namespace UnaryOp

def text : UnaryOp → String
  | neg => "-"
  | plus => "+"
  | not => "!"
  | xor => "^"
  | addr => "&"
  | recv => "<-"

def tag : UnaryOp → String
  | neg => "neg"
  | plus => "plus"
  | not => "not"
  | xor => "xor"
  | addr => "addr"
  | recv => "recv"

def ofTag? : String → Option UnaryOp
  | "neg" => some neg
  | "plus" => some plus
  | "not" => some not
  | "xor" => some xor
  | "addr" => some addr
  | "recv" => some recv
  | _ => none

@[simp] theorem ofTag?_tag (op : UnaryOp) : ofTag? op.tag = some op := by
  cases op <;> rfl

end UnaryOp

inductive BinaryOp where
  | logOr | logAnd
  | eql | neq | lss | leq | gtr | geq
  | add | sub | or | xor
  | mul | quo | rem | shl | shr | and | andNot
deriving DecidableEq, Repr, Inhabited

namespace BinaryOp

def text : BinaryOp → String
  | logOr => "||"
  | logAnd => "&&"
  | eql => "=="
  | neq => "!="
  | lss => "<"
  | leq => "<="
  | gtr => ">"
  | geq => ">="
  | add => "+"
  | sub => "-"
  | or => "|"
  | xor => "^"
  | mul => "*"
  | quo => "/"
  | rem => "%"
  | shl => "<<"
  | shr => ">>"
  | and => "&"
  | andNot => "&^"

/-- How tightly the operator binds, from 1 to 5. -/
def precedence : BinaryOp → Nat
  | logOr => 1
  | logAnd => 2
  | eql | neq | lss | leq | gtr | geq => 3
  | add | sub | or | xor => 4
  | mul | quo | rem | shl | shr | and | andNot => 5

def tag : BinaryOp → String
  | logOr => "log_or"
  | logAnd => "log_and"
  | eql => "eql"
  | neq => "neq"
  | lss => "lss"
  | leq => "leq"
  | gtr => "gtr"
  | geq => "geq"
  | add => "add"
  | sub => "sub"
  | or => "or"
  | xor => "xor"
  | mul => "mul"
  | quo => "quo"
  | rem => "rem"
  | shl => "shl"
  | shr => "shr"
  | and => "and"
  | andNot => "and_not"

def ofTag? : String → Option BinaryOp
  | "log_or" => some logOr
  | "log_and" => some logAnd
  | "eql" => some eql
  | "neq" => some neq
  | "lss" => some lss
  | "leq" => some leq
  | "gtr" => some gtr
  | "geq" => some geq
  | "add" => some add
  | "sub" => some sub
  | "or" => some or
  | "xor" => some xor
  | "mul" => some mul
  | "quo" => some quo
  | "rem" => some rem
  | "shl" => some shl
  | "shr" => some shr
  | "and" => some and
  | "and_not" => some andNot
  | _ => none

@[simp] theorem ofTag?_tag (op : BinaryOp) : ofTag? op.tag = some op := by
  cases op <;> rfl

end BinaryOp

/-- Which ends of a channel a type gives. -/
inductive ChanDir where
  | both | send | recv
deriving DecidableEq, Repr, Inhabited

namespace ChanDir

def tag : ChanDir → String
  | both => "both"
  | send => "send"
  | recv => "recv"

def ofTag? : String → Option ChanDir
  | "both" => some both
  | "send" => some send
  | "recv" => some recv
  | _ => none

@[simp] theorem ofTag?_tag (dir : ChanDir) : ofTag? dir.tag = some dir := by
  cases dir <;> rfl

end ChanDir

end GoProbe
