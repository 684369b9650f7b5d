/-!
# JSON values

A value keeps what its text said: members in written order, a member name as often as it was
written, and a numeral that is not a plain integer as its text. Two things have no place in a
value proper and are still needed to judge a text: a string whose escapes name no character, and
an object with such a member name. Both are `garbled`; no decoder accepts them, yet a text may
hold them where it is not looked at.
-/

namespace GoProbe

inductive Json where
  | null
  | bool (value : Bool)
  /-- An integer in plain digits; a minus sign before zero makes a `decimal`. -/
  | int (value : Int)
  /-- Any other numeral, as written. -/
  | decimal (text : String)
  | string (value : String)
  /-- A string, or an object with a member name, that holds an unpaired surrogate escape. -/
  | garbled
  | array (items : List Json)
  | object (members : List (String × Json))
deriving Inhabited

namespace Json

/-- A natural number as a value. -/
def nat (n : Nat) : Json := .int n

/-- A member that stands for a variant: an object with the tag as its one name. -/
def tagged (tag : String) (body : Json) : Json := .object [(tag, body)]

/-- A list, written element by element. -/
def listOf {α : Type} (encode : α → Json) (items : List α) : Json :=
  .array (items.map encode)

/-- A value that may be absent; `null` stands for absence. -/
def orNull {α : Type} (encode : α → Json) : Option α → Json
  | none => .null
  | some a => encode a

/-- A member that is left out when the value is absent. -/
def optionalMember {α : Type} (name : String) (encode : α → Json) :
    Option α → List (String × Json)
  | none => []
  | some a => [(name, encode a)]

/-- A member that is left out when the list is empty. -/
def nonemptyMember {α : Type} (name : String) (encode : α → Json) :
    List α → List (String × Json)
  | [] => []
  | a :: rest => [(name, listOf encode (a :: rest))]

/-! ## Nesting -/

mutual

/-- How many arrays and objects stand inside one another, at the deepest place. -/
def depth : Json → Nat
  | .array items => itemsDepth items + 1
  | .object members => membersDepth members + 1
  | _ => 0

def itemsDepth : List Json → Nat
  | [] => 0
  | item :: rest => max (depth item) (itemsDepth rest)

def membersDepth : List (String × Json) → Nat
  | [] => 0
  | (_, value) :: rest => max (depth value) (membersDepth rest)

end

/-! ## Canonical form -/

/-- Binds `name` in members that are in name order, replacing an earlier binding. -/
def bindMember (name : String) (value : Json) : List (String × Json) → List (String × Json)
  | [] => [(name, value)]
  | (n, v) :: rest =>
    if name < n then (name, value) :: (n, v) :: rest
    else if n < name then (n, v) :: bindMember name value rest
    else (name, value) :: rest

mutual

/-- The value with the members of every object in name order, the last of equal names kept. -/
def canonical : Json → Json
  | .array items => .array (canonicalItems items)
  | .object members => .object (canonicalMembers members [])
  | value => value

def canonicalItems : List Json → List Json
  | [] => []
  | item :: rest => canonical item :: canonicalItems rest

def canonicalMembers : List (String × Json) → List (String × Json) → List (String × Json)
  | [], bound => bound
  | (name, value) :: rest, bound => canonicalMembers rest (bindMember name (canonical value) bound)

end

/-- The value of a member; of several with one name, the last. -/
def member? (name : String) : Json → Option Json
  | .object members => members.reverse.lookup name
  | _ => none

end Json

end GoProbe
