import GoProbe.Dict
import GoProbe.Json.Reader
import GoProbe.Word

/-!
# Decoding JSON

A `Decoder α` turns a value into an `α`, given how many levels of arrays and objects it may enter.
The bound is the nesting limit of a text; a value that did not come from a text is given as many
levels as it has.

* A list, record or variant with content enters one level; the parts it skips are not entered.
* A record is an object, its fields found by name, or an array of the fields in declared order. A
  `Row` reads the fields one after another and serves both forms. Names that no field has are
  skipped; a field that stands twice is refused, and so is an array with an item too many.
* A variant without content is its tag as a string, or an object from the tag to `null`; one with
  content is an object from the tag to the content.
-/

namespace GoProbe.Json

/-- Why a value or text does not decode. -/
inductive DecodeError where
  | notJson
  | wrongKind
  | outOfRange
  | tooDeep
  | missing (field : String)
  | repeated (field : String)
  | surplus
  | unknownTag (tag : String)
deriving DecidableEq, Repr, Inhabited

/-- Reads a value, entering at most the given number of levels. -/
abbrev Decoder (α : Type) := Nat → Json → Except DecodeError α

/-- The nesting limit of texts. -/
def maxLevels : Nat := 127

namespace Decoder

variable {α β : Type}

/-- Decodes a text under the nesting limit. -/
def ofText (decode : Decoder α) (text : String) : Except DecodeError α :=
  match parse text with
  | some value => decode maxLevels value
  | none => .error .notJson

/-- Decodes a value with all the levels it has. -/
def ofValue (decode : Decoder α) (value : Json) : Except DecodeError α :=
  decode value.depth value

/-- Applies a function to what was decoded. -/
def map (f : α → β) (decode : Decoder α) : Decoder β :=
  fun levels value => (decode levels value).map f

/-! ## Scalars -/

def string : Decoder String
  | _, .string text => .ok text
  | _, _ => .error .wrongKind

def bool : Decoder Bool
  | _, .bool b => .ok b
  | _, _ => .error .wrongKind

/-- A natural number below `bound`. -/
def nat (bound : Nat) : Decoder Nat
  | _, .int n => if 0 ≤ n ∧ n < bound then .ok n.toNat else .error .outOfRange
  | _, _ => .error .wrongKind

/-- A number of 32 bits. -/
def nat32 : Decoder Nat := nat (wordCount 32)

/-- A number of 64 bits. -/
def nat64 : Decoder Nat := nat (wordCount 64)

/-- A word of 32 bits. -/
def word32 : Decoder UInt32 := map Nat.toUInt32 nat32

/-- A word of 64 bits. -/
def word64 : Decoder UInt64 := map Nat.toUInt64 nat64

/-! ## Containers -/

/-- `null` for absence. -/
def nullable (decode : Decoder α) : Decoder (Option α)
  | _, .null => .ok none
  | levels, value => (decode levels value).map some

def list (decode : Decoder α) : Decoder (List α)
  | levels + 1, .array items => items.mapM (decode levels)
  | 0, .array _ => .error .tooDeep
  | _, _ => .error .wrongKind

/-- An object with any names; the last of equal names counts. -/
def dict (decode : Decoder α) : Decoder (Dict α)
  | levels + 1, .object members => do
    let pairs ← members.mapM fun m => (decode levels m.2).map (m.1, ·)
    return .ofList pairs
  | 0, .object _ => .error .tooDeep
  | _, _ => .error .wrongKind

/-- A list of exactly two items of different kinds. -/
def pair (first : Decoder α) (second : Decoder β) : Decoder (α × β)
  | levels + 1, .array [a, b] => do return (← first levels a, ← second levels b)
  | 0, .array _ => .error .tooDeep
  | _, _ => .error .wrongKind

end Decoder

/-! ## Records -/

/-- Where the fields of a record are read from, and the levels left for their values. -/
inductive Fields where
  | named (levels : Nat) (members : List (String × Json))
  | inOrder (levels : Nat) (items : List Json)

/-- Reads fields of a record, in declared order. -/
abbrev Row := StateT Fields (Except DecodeError)

namespace Row

variable {α : Type}

/-- The value of the next declared field, if it is given. -/
def next (name : String) : Row (Option (Nat × Json)) := fun fields =>
  match fields with
  | .named levels members =>
    match members.filter fun m => m.1 == name with
    | [] => .ok (none, fields)
    | [(_, value)] => .ok (some (levels, value), fields)
    | _ => .error (.repeated name)
  | .inOrder levels (item :: rest) => .ok (some (levels, item), .inOrder levels rest)
  | .inOrder _ [] => .ok (none, fields)

/-- A field that has to be given. -/
def field (name : String) (decode : Decoder α) : Row α := do
  match ← next name with
  | some (levels, value) => decode levels value
  | none => throw (.missing name)

/-- A field that has a value of its own when it is not given. -/
def fieldOr (name : String) (absent : α) (decode : Decoder α) : Row α := do
  match ← next name with
  | some (levels, value) => decode levels value
  | none => return absent

/-- A field that may be left out or `null`. -/
def optional (name : String) (decode : Decoder α) : Row (Option α) :=
  fieldOr name none decode.nullable

/-- A list that may be left out when it is empty. -/
def listOr (name : String) (decode : Decoder α) : Row (List α) :=
  fieldOr name [] decode.list

/-- A flag that may be left out when it is not set. -/
def flag (name : String) : Row Bool :=
  fieldOr name false Decoder.bool

end Row

namespace Decoder

variable {α : Type}

/-- A record read by `row`. -/
def record (row : Row α) : Decoder α
  | levels + 1, .object members => (row.run (.named levels members)).map (·.1)
  | levels + 1, .array items => do
    let (result, fields) ← row.run (.inOrder levels items)
    match fields with
    | .inOrder _ (_ :: _) => .error .surplus
    | _ => return result
  | 0, .object _ => .error .tooDeep
  | 0, .array _ => .error .tooDeep
  | _, _ => .error .wrongKind

end Decoder

/-! ## Variants -/

/-- What stands behind a tag. -/
inductive Arm (α : Type) where
  | bare (result : α)
  | content (decode : Decoder α)

namespace Decoder

variable {α : Type}

/-- A variant, told by its tag. -/
def variant (arm : String → Option (Arm α)) : Decoder α
  | _, .string tag =>
    match arm tag with
    | some (.bare result) => .ok result
    | some (.content _) => .error .wrongKind
    | none => .error (.unknownTag tag)
  | levels + 1, .object [(tag, body)] =>
    match arm tag, body with
    | some (.bare result), .null => .ok result
    | some (.bare _), _ => .error .wrongKind
    | some (.content decode), body => decode levels body
    | none, _ => .error (.unknownTag tag)
  | 0, .object _ => .error .tooDeep
  | _, _ => .error .wrongKind

/-- A variant none of whose tags has content. -/
def enumeration (ofTag? : String → Option α) : Decoder α :=
  variant fun tag => (ofTag? tag).map .bare

end Decoder

end GoProbe.Json
