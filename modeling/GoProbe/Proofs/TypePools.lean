import Mathlib
import GoProbe.Analysis.Pool

/-!
# What entering types does to a pool

A pool is *in order* when each entry stands under its own name and each name that an entry refers
to is a key (`TypePool.InOrder`). Entering a type looks its name up, describes the type on a miss,
and writes the description last; a part of the type may have the name of the whole, and then its
entry is written first and replaced within the same call.

There are three groups.

* One rule for every way to put work on a pool together. `Pooling.Gives` says what work does to
  each pool in order: its result, which does not depend on the pool, the names that are keys
  afterwards, and the entries that can be new. `Gives.key` is the rule of the look-up, and the only
  place where a replaced entry has to be dealt with.
* Descriptions. `ResolvedType.outline` is the description of a type without a pool, and
  `describe_gives` follows the type's structure, one case per shape.
* Runs. `TypePool.ofTypes` enters types one after another into the empty pool; `addAll_grown` goes
  from one type to all of them, and `get?_ofTypes` says whose entry stands under a name.
-/

namespace GoProbe

/-! ## Pools in order -/

namespace TypePool

/-- Every entry stands under its own name. -/
def Keyed (pool : TypePool) : Prop :=
  ∀ key entry, pool.get? key = some entry → entry.name = key

/-- Every name that an entry refers to is a key. -/
def Closed (pool : TypePool) : Prop :=
  ∀ key entry, pool.get? key = some entry → ∀ name ∈ entry.references, pool.contains name = true

structure InOrder (pool : TypePool) : Prop where
  keyed : pool.Keyed
  closed : pool.Closed

/-- All entries of `before` are still there. -/
def Kept (before after : TypePool) : Prop :=
  ∀ key entry, before.get? key = some entry → after.get? key = some entry

theorem Kept.trans {before between after : TypePool} (h : before.Kept between)
    (h' : between.Kept after) : before.Kept after :=
  fun key entry hentry => h' key entry (h key entry hentry)

theorem Kept.contains {before after : TypePool} (h : before.Kept after) {name : String}
    (hname : before.contains name = true) : after.contains name = true := by
  obtain ⟨entry, hentry⟩ := Option.isSome_iff_exists.1 hname
  rw [Dict.contains, h name entry hentry]
  rfl

theorem inOrder_empty : InOrder .empty where
  keyed := by
    intro key entry h
    cases h
  closed := by
    intro key entry h
    cases h

/-- The names that stay bound when a binding is added or replaced. -/
theorem contains_insert (pool : TypePool) (entry : TypeEntry) {name : String}
    (h : pool.contains name = true) : (pool.insert entry.name entry).contains name = true := by
  rw [Dict.contains, Dict.get?_insert]
  split
  · rfl
  · exact h

theorem InOrder.insert {pool : TypePool} (h : pool.InOrder) {entry : TypeEntry}
    (hrefs : ∀ name ∈ entry.references, pool.contains name = true) :
    TypePool.InOrder (pool.insert entry.name entry) where
  keyed := by
    intro key other hother
    rw [Dict.get?_insert] at hother
    split at hother
    · next hkey => cases hother; exact hkey.symm
    · exact h.keyed key other hother
  closed := by
    intro key other hother name hname
    rw [Dict.get?_insert] at hother
    split at hother
    · cases hother
      exact contains_insert pool entry (hrefs name hname)
    · exact contains_insert pool entry (h.closed key other hother name hname)

end TypePool

/-! ## Work on pools in order -/

namespace Pooling

variable {α β : Type}

/-- From `before` to `after` nothing is lost, the names in `bound` are keys at the end, and what is
new is among `added`. -/
structure Grown (before after : TypePool) (bound : List String) (added : List TypeEntry) :
    Prop where
  inOrder : after.InOrder
  kept : before.Kept after
  bound : ∀ name ∈ bound, after.contains name = true
  added : ∀ key entry, after.get? key = some entry →
    before.get? key = some entry ∨ entry ∈ added

theorem Grown.trans {before between after : TypePool} {bound bound' : List String}
    {added added' : List TypeEntry} (h : Grown before between bound added)
    (h' : Grown between after bound' added') :
    Grown before after (bound ++ bound') (added ++ added') where
  inOrder := h'.inOrder
  kept := h.kept.trans h'.kept
  bound := by
    intro name hname
    rcases List.mem_append.1 hname with hname | hname
    · exact h'.kept.contains (h.bound name hname)
    · exact h'.bound name hname
  added := by
    intro key entry hentry
    rcases h'.added key entry hentry with hbetween | hadded
    · rcases h.added key entry hbetween with hbefore | hadded
      · exact .inl hbefore
      · exact .inr (List.mem_append_left _ hadded)
    · exact .inr (List.mem_append_right _ hadded)

/-- On every pool in order the work gives `result` and lets the pool grow so. -/
def Gives (work : Pooling α) (result : α) (bound : List String) (added : List TypeEntry) : Prop :=
  ∀ pool : TypePool, pool.InOrder →
    (work.run pool).1 = result ∧ Grown pool (work.run pool).2 bound added

namespace Gives

variable {result : α} {bound : List String} {added : List TypeEntry}

theorem pure (result : α) : Gives (Pure.pure result) result [] [] := by
  intro pool hpool
  refine ⟨rfl, hpool, fun _ _ h => h, ?_, fun _ _ h => .inl h⟩
  intro name hname
  cases hname

theorem bind {work : Pooling α} {next : α → Pooling β} {last : β} {bound' : List String}
    {added' : List TypeEntry} (hwork : Gives work result bound added)
    (hnext : Gives (next result) last bound' added') :
    Gives (work >>= next) last (bound ++ bound') (added ++ added') := by
  intro pool hpool
  obtain ⟨hresult, hgrown⟩ := hwork pool hpool
  obtain ⟨hlast, hgrown'⟩ := hnext _ hgrown.inOrder
  have hrun : (work >>= next).run pool = (next result).run (work.run pool).2 := by
    rw [← hresult]
    rfl
  rw [hrun]
  exact ⟨hlast, hgrown.trans hgrown'⟩

theorem map {work : Pooling α} (hwork : Gives work result bound added) (f : α → β) :
    Gives (work >>= fun a => Pure.pure (f a)) (f result) bound added := by
  have hbind : Gives (work >>= fun a => Pure.pure (f a)) (f result) (bound ++ []) (added ++ []) :=
    hwork.bind (.pure (f result))
  rwa [List.append_nil, List.append_nil] at hbind

end Gives

/-- What an entry and the entries written before it can leave: those that it does not replace. -/
def above (entry : TypeEntry) (rest : List TypeEntry) : List TypeEntry :=
  entry :: rest.filter fun other => other.name ≠ entry.name

theorem key_run_of_some {name : String} {entry : TypeEntry} {pool : TypePool}
    (describe : Pooling TypeEntry) (h : pool.get? name = some entry) :
    (key name describe).run pool = (entry.name, pool) := by
  simp only [key, StateT.run_bind, StateT.run_get, pure_bind, h]
  rfl

theorem key_run_of_none {name : String} {pool : TypePool} (describe : Pooling TypeEntry)
    (h : pool.get? name = none) :
    (key name describe).run pool =
      ((describe.run pool).1.name,
        (describe.run pool).2.insert (describe.run pool).1.name (describe.run pool).1) := by
  simp only [key, StateT.run_bind, StateT.run_get, pure_bind, h]
  rfl

/-- A name that is there already is left alone. Otherwise the description is written at the end,
over whatever its own parts may have written under the same name. -/
theorem Gives.key {describe : Pooling TypeEntry} {entry : TypeEntry} {added : List TypeEntry}
    (h : Gives describe entry entry.references added) :
    Gives (Pooling.key entry.name describe) entry.name [entry.name] (above entry added) := by
  intro pool hpool
  cases hfound : pool.get? entry.name with
  | some found =>
    rw [key_run_of_some describe hfound]
    refine ⟨hpool.keyed _ _ hfound, hpool, fun _ _ h => h, ?_, fun _ _ h => .inl h⟩
    intro name hname
    rw [List.mem_singleton.1 hname, Dict.contains, hfound]
    rfl
  | none =>
    obtain ⟨hentry, hgrown⟩ := h pool hpool
    rw [key_run_of_none describe hfound, hentry]
    refine ⟨rfl, hgrown.inOrder.insert hgrown.bound, ?_, ?_, ?_⟩
    · intro key other hother
      have hne : key ≠ entry.name := by
        rintro rfl
        rw [hfound] at hother
        cases hother
      rw [Dict.get?_insert, if_neg hne]
      exact hgrown.kept key other hother
    · intro name hname
      rw [List.mem_singleton.1 hname, Dict.contains, Dict.get?_insert, if_pos rfl]
      rfl
    · intro key other hother
      rw [Dict.get?_insert] at hother
      split at hother
      · cases hother
        exact .inr List.mem_cons_self
      · next hne =>
        rcases hgrown.added key other hother with hbefore | hadded
        · exact .inl hbefore
        · have hname : other.name = key := hgrown.inOrder.keyed key other hother
          refine .inr (List.mem_cons_of_mem _ (List.mem_filter.2 ⟨hadded, ?_⟩))
          simpa [hname] using hne

end Pooling

/-! ## Descriptions without a pool -/

/-- The entry of a type that is described by its shape alone, its parts by their own names. -/
def TypeShape.outline (name : String) : TypeShape → TypeEntry
  | .basic _ => .primitive name
  | .array element length => .array name element.name length
  | .slice element => .slice name element.name
  | .map key element => .map name key.name element.name
  | .chan element direction => .chan name element.name direction
  | .pointer element => .pointer name element.name
  | .struct fields =>
    .struct name (fields.map fun f =>
      { name := f.name, typeName := f.type.name, exported := f.exported })
  | .interface implementers => .interface name implementers
  | .func => .interface name []
  | .typeParam => .interface name []

@[simp] theorem TypeShape.name_outline (name : String) (shape : TypeShape) :
    (shape.outline name).name = name := by
  cases shape <;> rfl

namespace ResolvedType

/-- The entry of a type, its parts by their own names. -/
def outline (type : ResolvedType) : TypeEntry :=
  if type.isNamed then
    .named type.name (type.origin.map (·.path)) type.implementsError type.literalName
  else type.shape.outline type.name

@[simp] theorem name_outline (type : ResolvedType) : type.outline.name = type.name := by
  rw [outline]
  split
  · rfl
  · exact TypeShape.name_outline type.name type.shape

end ResolvedType

mutual

/-- The entries that describing a type can leave in a pool. -/
def ResolvedType.parts : ResolvedType → List TypeEntry
  | ⟨name, origin, shape, methods⟩ =>
    let type : ResolvedType := ⟨name, origin, shape, methods⟩
    if type.isNamed then Pooling.above (shape.outline type.literalName) shape.parts
    else shape.parts

/-- The entries that describing a shape can leave in a pool. -/
def TypeShape.parts : TypeShape → List TypeEntry
  | .array element _ => Pooling.above element.outline element.parts
  | .slice element => Pooling.above element.outline element.parts
  | .map key element =>
    Pooling.above key.outline key.parts ++ Pooling.above element.outline element.parts
  | .chan element _ => Pooling.above element.outline element.parts
  | .pointer element => Pooling.above element.outline element.parts
  | .struct fields => ResolvedField.partsList fields
  | .basic _ => []
  | .interface _ => []
  | .func => []
  | .typeParam => []

def ResolvedField.partsList : List ResolvedField → List TypeEntry
  | [] => []
  | ⟨_, type, _⟩ :: rest =>
    Pooling.above type.outline type.parts ++ ResolvedField.partsList rest

end

/-- The entries that a type can leave in a pool: its own, and those of other names that its parts
leave. -/
def ResolvedType.footprint (type : ResolvedType) : List TypeEntry :=
  Pooling.above type.outline type.parts

section

open Pooling (Gives)

/-- The key of a type whose description is known. -/
theorem ResolvedType.gives_key {type : ResolvedType}
    (h : Gives type.describe type.outline type.outline.references type.parts) :
    Gives (Pooling.key type.name type.describe) type.name [type.name] type.footprint := by
  have hkey := Gives.key h
  rwa [ResolvedType.name_outline] at hkey

mutual

theorem ResolvedType.describe_gives : ∀ type : ResolvedType,
    Gives type.describe type.outline type.outline.references type.parts
  | ⟨name, origin, shape, methods⟩ => by
    have hshape := TypeShape.describe_gives shape
    rw [ResolvedType.describe, ResolvedType.outline, ResolvedType.parts]
    by_cases hnamed : ResolvedType.isNamed ⟨name, origin, shape, methods⟩ = true
    · rw [if_pos hnamed, if_pos hnamed, if_pos hnamed]
      have hunder := Gives.key (hshape (ResolvedType.literalName ⟨name, origin, shape, methods⟩))
      rw [TypeShape.name_outline] at hunder
      exact hunder.map _
    · rw [if_neg hnamed, if_neg hnamed, if_neg hnamed]
      exact hshape name

theorem TypeShape.describe_gives : ∀ (shape : TypeShape) (name : String),
    Gives (shape.describe name) (shape.outline name) (shape.outline name).references shape.parts
  | .basic _, _ | .interface _, _ | .func, _ | .typeParam, _ => by
    simp only [TypeShape.describe, TypeShape.parts]
    exact .pure _
  | .array element _, _ | .slice element, _ | .chan element _, _ | .pointer element, _ => by
    simp only [TypeShape.describe, TypeShape.parts]
    exact (ResolvedType.gives_key (ResolvedType.describe_gives element)).map _
  | .map key element, _ => by
    simp only [TypeShape.describe, TypeShape.parts]
    exact (ResolvedType.gives_key (ResolvedType.describe_gives key)).bind
      ((ResolvedType.gives_key (ResolvedType.describe_gives element)).map _)
  | .struct fields, name => by
    simp only [TypeShape.describe, TypeShape.parts]
    have hrefs : (TypeShape.outline name (.struct fields)).references =
        fields.map fun field => field.type.name := by
      simp [TypeShape.outline, TypeEntry.references, Function.comp_def]
    rw [hrefs]
    exact (ResolvedField.describeAll_gives fields).map _

theorem ResolvedField.describeAll_gives : ∀ fields : List ResolvedField,
    Gives (ResolvedField.describeAll fields)
      (fields.map fun f => { name := f.name, typeName := f.type.name, exported := f.exported })
      (fields.map fun field => field.type.name) (ResolvedField.partsList fields)
  | [] => by
    simp only [ResolvedField.describeAll, ResolvedField.partsList]
    exact .pure _
  | ⟨name, type, exported⟩ :: rest => by
    simp only [ResolvedField.describeAll, ResolvedField.partsList]
    exact (ResolvedType.gives_key (ResolvedType.describe_gives type)).bind
      ((ResolvedField.describeAll_gives rest).map _)

end

namespace ResolvedType

theorem enter_gives (type : ResolvedType) : Gives type.enter type.name [type.name] type.footprint :=
  gives_key type.describe_gives

/-- The entry that a type has in a pool of its own is its description in every pool. -/
theorem entry_eq_outline (type : ResolvedType) : type.entry = type.outline :=
  (type.describe_gives _ TypePool.inOrder_empty).1

/-- A type whose name is new gets its own entry. -/
theorem get?_addTo_of_none {pool : TypePool} (hpool : pool.InOrder) {type : ResolvedType}
    (h : pool.get? type.name = none) : (type.addTo pool).get? type.name = some type.entry := by
  obtain ⟨houtline, -⟩ := type.describe_gives pool hpool
  rw [addTo, enter, Pooling.key_run_of_none type.describe h, houtline, entry_eq_outline,
    name_outline, Dict.get?_insert, if_pos rfl]

/-- The key of a type is its display name, whatever the pool. -/
theorem enter_run {pool : TypePool} (hpool : pool.InOrder) (type : ResolvedType) :
    type.enter.run pool = (type.name, type.addTo pool) :=
  Prod.ext (type.enter_gives pool hpool).1 rfl

theorem addTo_grown {pool : TypePool} (hpool : pool.InOrder) (type : ResolvedType) :
    Pooling.Grown pool (type.addTo pool) [type.name] type.footprint :=
  (type.enter_gives pool hpool).2

end ResolvedType

end

/-! ## Runs -/

namespace TypePool

/-- The pool after entering the types one after another. -/
def addAll (pool : TypePool) (types : List ResolvedType) : TypePool :=
  types.foldl (fun pool type => type.addTo pool) pool

/-- The pool of the types alone. -/
def ofTypes (types : List ResolvedType) : TypePool :=
  addAll .empty types

theorem addAll_append (pool : TypePool) (types more : List ResolvedType) :
    pool.addAll (types ++ more) = (pool.addAll types).addAll more :=
  List.foldl_append

theorem addAll_grown {pool : TypePool} (hpool : pool.InOrder) (types : List ResolvedType) :
    Pooling.Grown pool (pool.addAll types) (types.map (·.name))
      (types.flatMap ResolvedType.footprint) := by
  induction types generalizing pool with
  | nil => exact (Pooling.Gives.pure () pool hpool).2
  | cons type types ih =>
    have hgrown := ResolvedType.addTo_grown hpool type
    exact hgrown.trans (ih hgrown.inOrder)

theorem inOrder_ofTypes (types : List ResolvedType) : (ofTypes types).InOrder :=
  (addAll_grown inOrder_empty types).inOrder

/-- What stands under the name of a type that was entered stays there. -/
theorem get?_ofTypes_append {types : List ResolvedType} {type : ResolvedType} (h : type ∈ types)
    (more : List ResolvedType) :
    (ofTypes (types ++ more)).get? type.name = (ofTypes types).get? type.name := by
  have hbound := (addAll_grown inOrder_empty types).bound _ (List.mem_map_of_mem h)
  obtain ⟨entry, hentry⟩ := Option.isSome_iff_exists.1 hbound
  have hkept := (addAll_grown (inOrder_ofTypes types) more).kept _ _ hentry
  rw [ofTypes, addAll_append]
  exact hkept.trans hentry.symm

/-- After any types have been entered, each entry stands under its own name and refers to keys
only. Entering one more type gives its display name, which is then a key; all entries stay as they
are, and a type whose name is new gets the entry that it has in a pool of its own. -/
theorem enter_ofTypes (types : List ResolvedType) :
    (ofTypes types).Keyed ∧ (ofTypes types).Closed ∧
      ∀ (type : ResolvedType) (key : String) (after : TypePool),
        type.enter.run (ofTypes types) = (key, after) →
          after = ofTypes (types ++ [type]) ∧ key = type.name ∧ after.contains key = true ∧
          (ofTypes types).Kept after ∧
          ((ofTypes types).get? type.name = none → after.get? type.name = some type.entry) := by
  have hpool := inOrder_ofTypes types
  refine ⟨hpool.keyed, hpool.closed, ?_⟩
  intro type key after hrun
  obtain ⟨rfl, rfl⟩ := Prod.mk.inj ((ResolvedType.enter_run hpool type).symm.trans hrun)
  have hgrown := ResolvedType.addTo_grown hpool type
  refine ⟨?_, rfl, hgrown.bound _ List.mem_cons_self, hgrown.kept, ?_⟩
  · exact (addAll_append .empty types [type]).symm
  · exact ResolvedType.get?_addTo_of_none hpool

/-- A slice may have the name of its element: the entry of the element is written first, and the
slice's own stays. -/
theorem enter_ofTypes_slice :
    let type : ResolvedType := ⟨"T", none, .slice ⟨"T", none, .basic "int", []⟩, []⟩
    (type.enter.run (ofTypes [])).1 = "T" ∧
      (ofTypes []).get? "T" = none ∧ (ofTypes [type]).get? "T" = some (.slice "T" "T") := by
  intro type
  obtain ⟨-, hkey, -, -, hentry⟩ := (enter_ofTypes []).2.2 type "T" (ofTypes [type]) rfl
  exact ⟨hkey, rfl, hentry rfl⟩

/-- What stands under the name of a type that was entered: its own entry, or one that an earlier
type left there. -/
theorem get?_ofTypes (earlier later : List ResolvedType) (type : ResolvedType) :
    (ofTypes (earlier ++ type :: later)).get? type.name = some type.entry ∨
      ∃ entry ∈ earlier.flatMap ResolvedType.footprint, entry.name = type.name ∧
        (ofTypes (earlier ++ type :: later)).get? type.name = some entry := by
  have hpool := inOrder_ofTypes earlier
  have hsplit : ofTypes (earlier ++ type :: later) =
      (type.addTo (ofTypes earlier)).addAll later := addAll_append .empty earlier (type :: later)
  have htype := ResolvedType.addTo_grown hpool type
  have hlater := addAll_grown htype.inOrder later
  rw [hsplit]
  cases hfound : (ofTypes earlier).get? type.name with
  | none =>
    exact .inl (hlater.kept _ _ (ResolvedType.get?_addTo_of_none hpool hfound))
  | some entry =>
    refine .inr ⟨entry, ?_, hpool.keyed _ _ hfound, hlater.kept _ _ (htype.kept _ _ hfound)⟩
    rcases (addAll_grown inOrder_empty earlier).added _ _ hfound with hempty | hadded
    · cases hempty
    · exact hadded

end TypePool

end GoProbe
