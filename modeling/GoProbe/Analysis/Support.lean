import GoProbe.Analysis.Pool
import GoProbe.Tree.Basic

/-!
# Supported signatures

A function can be called by generated code if it is no method, has no type parameters and no
variadic parameter, takes primitive values only, and returns primitive values and errors only. The
types of a signature are looked up in one pool that grows slot by slot.

A slot without a type is not a reason to leave the function out: the resolver owes the type, and
the whole analysis stops there.
-/

namespace GoProbe

inductive SlotKind where
  | parameter
  | result
deriving DecidableEq, Repr, Inhabited

/-- A field of a signature, counted from zero among its kind. -/
structure Slot where
  kind : SlotKind
  index : Nat
deriving DecidableEq, Repr, Inhabited

namespace Slot

def text (slot : Slot) : String :=
  match slot.kind with
  | .parameter => "parameter #" ++ toString slot.index
  | .result => "result #" ++ toString slot.index

end Slot

/-- Why generated code cannot call a function. -/
inductive Unsupported where
  | receiver
  | typeParameters
  | variadic
  | parameter (names typeName : String)
  | result (index : Nat) (typeName : String)
deriving DecidableEq, Repr, Inhabited

namespace Unsupported

/-- A short name for the reason. -/
def tag : Unsupported → String
  | receiver => "receiver"
  | typeParameters => "type_parameters"
  | variadic => "variadic"
  | parameter _ _ => "parameter"
  | result _ _ => "result"

def message : Unsupported → String
  | receiver => "has a receiver"
  | typeParameters => "has type parameters"
  | variadic => "is variadic"
  | parameter names typeName => s!"parameter `{names}` has non-primitive type {typeName}"
  | result index typeName => s!"result #{index} has unsupported type {typeName}"

end Unsupported

/-- What stops the check of a signature. -/
inductive Rejection where
  | unresolved (slot : Slot)
  | unsupported (reason : Unsupported)
deriving DecidableEq, Repr, Inhabited

namespace Field

/-- The names that share the field's type. -/
def nameList (field : Field) : String :=
  ", ".intercalate (field.names.map (·.name))

end Field

namespace SlotKind

/-- Whether generated code can handle a type in such a slot. -/
def fits : SlotKind → TypeEntry → Bool
  | parameter, entry => entry.isPrimitive
  | result, entry => entry.isPrimitive || entry.isError

/-- The reason to leave out a function for a slot that does not fit. -/
def misfit (kind : SlotKind) (index : Nat) (field : Field) (typeName : String) : Unsupported :=
  match kind with
  | parameter => .parameter field.nameList typeName
  | result => .result index typeName

/-- Adds the types of the fields to the pool as long as they fit; `index` counts the fields. -/
def accept (kind : SlotKind) : Nat → List Field → TypePool → Except Rejection TypePool
  | _, [], pool => .ok pool
  | index, field :: rest, pool =>
    match field.resolved with
    | none => .error (.unresolved ⟨kind, index⟩)
    | some type =>
      let (key, pool) := type.enter.run pool
      if (pool.get? key).any kind.fits then kind.accept (index + 1) rest pool
      else .error (.unsupported (kind.misfit index field key))

end SlotKind

namespace FuncDecl

/-- The types of a supported signature, or what stands against the function. -/
def checkSupport (func : FuncDecl) : Except Rejection TypePool :=
  if func.receiver.isSome then .error (.unsupported .receiver)
  else if !func.typeParams.isEmpty then .error (.unsupported .typeParameters)
  else if func.isVariadic then .error (.unsupported .variadic)
  else do
    let pool ← SlotKind.parameter.accept 0 func.signature.params .empty
    SlotKind.result.accept 0 func.signature.results pool

end FuncDecl

end GoProbe
