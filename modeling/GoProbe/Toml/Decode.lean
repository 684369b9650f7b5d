import GoProbe.Toml.Value

/-!
# Decoding TOML

A `Decoder α` turns a value into an `α`. A record is a table, its fields found by name, or an
array of the fields in declared order; names that no field has, and items after the last field,
are skipped.
-/

namespace GoProbe.Toml

abbrev Decoder (α : Type) := Value → Option α

namespace Decoder

variable {α : Type}

def string : Decoder String
  | .string text => some text
  | _ => none

/-- A natural number below `bound`. -/
def nat (bound : Nat) : Decoder Nat
  | .integer n => if 0 ≤ n ∧ n < bound then some n.toNat else none
  | _ => none

def list (decode : Decoder α) : Decoder (List α)
  | .array items => items.mapM decode
  | _ => none

/-- One of several tags, as a string or as the one key of a table with nothing under it. -/
def enumeration (ofTag? : String → Option α) : Decoder α
  | .string tag => ofTag? tag
  | .table _ [(tag, .table _ [])] => ofTag? tag
  | .table _ [(tag, .array [])] => ofTag? tag
  | _ => none

end Decoder

/-- Where the fields of a record are read from. -/
inductive Fields where
  | named (entries : Entries)
  | inOrder (items : List Value)

/-- Reads fields of a record, in declared order. -/
abbrev Row := StateT Fields Option

namespace Row

variable {α : Type}

/-- The value of the next declared field, if it is given. -/
def next (name : String) : Row (Option Value) := fun fields =>
  match fields with
  | .named entries => some (entries.lookup name, fields)
  | .inOrder (item :: rest) => some (some item, .inOrder rest)
  | .inOrder [] => some (none, fields)

/-- A field that has a value of its own when it is not given. -/
def fieldOr (name : String) (absent : α) (decode : Decoder α) : Row α := do
  match ← next name with
  | some value => fun fields => (decode value).map (·, fields)
  | none => return absent

/-- A field that may be left out. -/
def optional (name : String) (decode : Decoder α) : Row (Option α) :=
  fieldOr name none fun value => (decode value).map some

end Row

namespace Decoder

variable {α : Type}

/-- A record read by `row`. A date counts as a table without any of the fields. -/
def record (row : Row α) : Decoder α
  | .table _ entries => (row.run (.named entries)).map (·.1)
  | .array items => (row.run (.inOrder items)).map (·.1)
  | .tables all => (row.run (.inOrder (all.reverse.map (.table .header)))).map (·.1)
  | .datetime _ => (row.run (.named [])).map (·.1)
  | _ => none

end Decoder

end GoProbe.Toml
