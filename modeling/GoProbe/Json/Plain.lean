import GoProbe.Json.Decode
import GoProbe.Json.Numeral

/-!
# Values taken whole

A value that is kept before it is decoded has to be a value proper, all the way down: every string
is a text, every number is in the range of double precision, and every level counts against the
nesting limit. `Decoder.any` takes such a value as it is, and `Decoder.tagged` decodes an object
by the value of one of its members, for which it has to keep the others.
-/

namespace GoProbe.Json

mutual

/-- Whether the value holds only texts and finite numbers. -/
def isProper : Json → Bool
  | .int value => (Numeral.ofNat value.natAbs).isFiniteByParts
  | .decimal text => (Numeral.ofChars (text.toList.dropWhile (· == '-'))).isFiniteByParts
  | .garbled => false
  | .array items => areProper items
  | .object members => membersProper members
  | _ => true

def areProper : List Json → Bool
  | [] => true
  | item :: rest => isProper item && areProper rest

def membersProper : List (String × Json) → Bool
  | [] => true
  | (_, value) :: rest => isProper value && membersProper rest

end

namespace Decoder

variable {α : Type}

/-- Any proper value, in canonical form. -/
def any : Decoder Json := fun levels value =>
  if levels < value.depth then .error .tooDeep
  else if value.isProper then .ok value.canonical
  else .error .wrongKind

/-- An object told by the text of its member `tagName`, its other members read by a row. -/
def tagged (tagName : String) (row : String → Option (Row α)) : Decoder α := fun levels value =>
  match levels, value with
  | levels + 1, .object members =>
    if levels + 1 < value.depth then .error .tooDeep
    else if !value.isProper then .error .wrongKind
    else
      match members.filter fun m => m.1 == tagName with
      | [(_, .string tag)] =>
        match row tag with
        | some row => (row.run (.named levels members)).map (·.1)
        | none => .error (.unknownTag tag)
      | [] => .error (.missing tagName)
      | [_] => .error .wrongKind
      | _ => .error (.repeated tagName)
  | 0, .object _ => .error .tooDeep
  | _, _ => .error .wrongKind

end Decoder

end GoProbe.Json
