/-!
# Settings

How trees are resolved and how probes are placed. Every setting has a value of its own, so an
empty settings file is a complete one.
-/

namespace GoProbe

/-- Where resolved trees come from. -/
inductive ResolverKind where
  /-- A file beside each source, written ahead of time. -/
  | dump
  /-- A program that prints the tree. -/
  | command
deriving DecidableEq, Repr, Inhabited

structure ResolverSettings where
  kind : ResolverKind := .dump
  dumpSuffix : String := ".ast.json"
  /-- The program to run: a name to search for, or a path. -/
  command : Option String := none
  /-- Arguments before the path of the source. -/
  args : List String := []
  /-- Width of `int` in bits. -/
  intSize : Nat := 64
deriving DecidableEq, Repr, Inhabited

inductive BackendKind where
  /-- One table of counters for the package. -/
  | table
  /-- A bounded list of probe ids for each call. -/
  | trace
deriving DecidableEq, Repr, Inhabited

inductive IdPolicyKind where
  | sequential
  | hashed
deriving DecidableEq, Repr, Inhabited

structure ProbeSettings where
  backend : BackendKind := .table
  idPolicy : IdPolicyKind := .sequential
  hashBucketBits : Nat := 16
  maxTraceLength : Nat := 1024
  counterTableName : String := "__ut_cover_tab__"
  traceParameterName : String := "__ut_trace__"
  tableFileName : String := "ut_cover_table.go"
  /-- Where module copies go; without it, where temporary files go. -/
  outputRoot : Option String := none
  /-- Patterns for the names of files that stay without probes. -/
  excludePatterns : List String := ["*_test.go"]
deriving DecidableEq, Repr, Inhabited

structure Settings where
  resolver : ResolverSettings := {}
  probe : ProbeSettings := {}
deriving DecidableEq, Repr, Inhabited

/-! ## Tags -/

namespace ResolverKind

def tag : ResolverKind → String
  | dump => "dump"
  | command => "command"

def ofTag? : String → Option ResolverKind
  | "dump" => some .dump
  | "command" => some .command
  | _ => none

@[simp] theorem ofTag?_tag (kind : ResolverKind) : ofTag? kind.tag = some kind := by
  cases kind <;> rfl

end ResolverKind

namespace BackendKind

def tag : BackendKind → String
  | table => "table"
  | trace => "trace"

def ofTag? : String → Option BackendKind
  | "table" => some .table
  | "trace" => some .trace
  | _ => none

@[simp] theorem ofTag?_tag (kind : BackendKind) : ofTag? kind.tag = some kind := by
  cases kind <;> rfl

end BackendKind

namespace IdPolicyKind

def tag : IdPolicyKind → String
  | sequential => "sequential"
  | hashed => "hashed"

def ofTag? : String → Option IdPolicyKind
  | "sequential" => some .sequential
  | "hashed" => some .hashed
  | _ => none

@[simp] theorem ofTag?_tag (kind : IdPolicyKind) : ofTag? kind.tag = some kind := by
  cases kind <;> rfl

end IdPolicyKind

end GoProbe
