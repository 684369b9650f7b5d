/-!
# TOML values and tables

A document is one table. Tables come about in four ways, and the way decides who may add to a
table later:

* a table in braces is complete;
* a table of a header takes the keys below its header;
* a table that a header only passes through may get a header of its own later;
* a table that a dotted key passes through takes further dotted keys.
-/

namespace GoProbe.Toml

/-- How a table came about. -/
inductive Origin where
  | inline
  | header
  | implied
  | dotted
deriving DecidableEq, Repr, Inhabited

inductive Value where
  | string (text : String)
  | integer (value : Int)
  | float (text : String)
  | boolean (value : Bool)
  | datetime (text : String)
  | array (items : List Value)
  | table (origin : Origin) (entries : List (String × Value))
  /-- The tables of headers in double brackets, last one first. -/
  | tables (reversed : List (List (String × Value)))
deriving Inhabited

/-- The entries of a table in written order; no name stands twice. -/
abbrev Entries := List (String × Value)

/-- Which texts are TOML, and what they say. -/
class Dialect where
  /-- The table that a text spells, or `none` if the text is not TOML. -/
  parse : String → Option Entries

namespace Entries

/-- Gives `name` the value; a new name goes to the end. -/
def set (name : String) (value : Value) : Entries → Entries
  | [] => [(name, value)]
  | (n, v) :: rest => if n == name then (n, value) :: rest else (n, v) :: set name value rest

/-- Binds a dotted key. `origin` is that of the table, and `below` says whether the key has already
passed through a table: a key ends in the table it stands in, or in one made by dotted keys. -/
def bind (origin : Origin) (below : Bool) (entries : Entries) (value : Value) :
    List String → Option Entries
  | [] => none
  | [name] =>
    if (origin == .dotted) == below && (entries.lookup name).isNone then
      some (entries.set name value)
    else none
  | name :: rest =>
    match entries.lookup name with
    | none => do
      return entries.set name (.table .dotted (← bind .dotted true [] value rest))
    | some (.table .implied inner) => do
      return entries.set name (.table .implied (← bind .implied true inner value rest))
    | some (.table .dotted inner) => do
      return entries.set name (.table .dotted (← bind .dotted true inner value rest))
    | some (.tables (last :: earlier)) => do
      return entries.set name (.tables ((← bind .header true last value rest) :: earlier))
    | _ => none

/-- Opens the table that a header names, or a further one in an array of tables. -/
def openHeader (isArray : Bool) (entries : Entries) : List String → Option Entries
  | [] => none
  | [name] =>
    match isArray, entries.lookup name with
    | false, none => some (entries.set name (.table .header []))
    | false, some (.table .implied inner) => some (entries.set name (.table .header inner))
    | true, none => some (entries.set name (.tables [[]]))
    | true, some (.tables all) => some (entries.set name (.tables ([] :: all)))
    | _, _ => none
  | name :: rest =>
    match entries.lookup name with
    | none => do return entries.set name (.table .implied (← openHeader isArray [] rest))
    | some (.table .inline _) => none
    | some (.table origin inner) => do
      return entries.set name (.table origin (← openHeader isArray inner rest))
    | some (.tables (last :: earlier)) => do
      return entries.set name (.tables ((← openHeader isArray last rest) :: earlier))
    | _ => none

/-- Binds a dotted key in the table that a header opened. -/
def bindAt (entries : Entries) (key : List String) (value : Value) : List String → Option Entries
  | [] => bind .header false entries value key
  | name :: rest =>
    match entries.lookup name with
    | some (.table origin inner) => do
      return entries.set name (.table origin (← bindAt inner key value rest))
    | some (.tables (last :: earlier)) => do
      return entries.set name (.tables ((← bindAt last key value rest) :: earlier))
    | _ => none

end Entries

end GoProbe.Toml
