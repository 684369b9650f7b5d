import GoProbe.Settings.Basic
import GoProbe.Word

/-!
# Probe ids

Probes are numbered from one in the order in which they are placed. The id that a probe carries is
its number, or a hash of the number cut to a count of bits. Which hash that is is left open.
-/

namespace GoProbe

/-- The hash that ids are made with. -/
class WordHash where
  hash : UInt64 → UInt64

/-- How numbers become ids. -/
inductive IdPolicy where
  | sequential
  | hashed (bits : Nat)
deriving DecidableEq, Repr, Inhabited

namespace IdPolicy

/-- The low `bits` bits of a word. -/
def lowBits (bits : Nat) (word : UInt64) : Nat :=
  if bits < 64 then word.toNat % wordCount bits else word.toNat

variable [WordHash]

/-- The id of the probe with this number. -/
def id : IdPolicy → Nat → Nat
  | sequential, number => number
  | hashed bits, number => lowBits bits (WordHash.hash number.toUInt64)

/-- The ids of the probes numbered from `first + 1` to `last`. -/
def idsBetween (policy : IdPolicy) (first last : Nat) : List Nat :=
  (List.range' (first + 1) (last - first)).map policy.id

end IdPolicy

/-- The policy that the settings ask for. -/
def ProbeSettings.policy (settings : ProbeSettings) : IdPolicy :=
  match settings.idPolicy with
  | .sequential => .sequential
  | .hashed => .hashed settings.hashBucketBits

end GoProbe
