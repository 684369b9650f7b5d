import Mathlib
import GoProbe.Analysis.Imports
import GoProbe.Proofs.Addresses
import GoProbe.Proofs.AscendingLists

/-!
# Neighbouring identifiers tell dot imports

The imports that a function needs are found by reading its identifiers one after another, with one
cell for the package that the last one named. `Node.Needs` says what is needed without reading
anything in a row: it looks at single identifiers and at the selectors they stand in.

The two agree if packages are named as left operands of selectors only (`Node.NamesPackages`).
Then a package identifier is followed by the name selected from it, in the walk as in the text, and
that name empties the cell. So reading any part with the cell empty leaves it empty
(`Node.readsAs_walk`), and a declaration of another package finds its package in the cell exactly if
it is selected from it.
-/

namespace GoProbe

/-! ## The order of imports -/

namespace RequiredImport

/-- By path, then by local name. -/
def Precedes (a b : RequiredImport) : Prop :=
  a.path < b.path ∨ a.path = b.path ∧ a.localName < b.localName

/-- What imports are ordered by. -/
def key (required : RequiredImport) : String ×ₗ String :=
  toLex (required.path, required.localName)

theorem key_injective : Function.Injective key := by
  rintro ⟨path, localName⟩ ⟨path', localName'⟩ h
  cases toLex.injective h
  rfl

theorem le_iff {a b : RequiredImport} : a.le b = true ↔ a.key ≤ b.key := by
  simp [le, key, Prod.Lex.toLex_le_toLex]

theorem precedes_iff {a b : RequiredImport} : a.Precedes b ↔ a.key < b.key := by
  simp [Precedes, key, Prod.Lex.toLex_lt_toLex]

end RequiredImport

/-- Required imports are in strict order. -/
theorem pairwise_requiredImports (own : String) (ids : List Ident) :
    (requiredImports own ids).Pairwise RequiredImport.Precedes := by
  refine (pairwise_ascending ?_ ?_ ?_ _).imp ?_
  · intro a b c
    simpa only [RequiredImport.le_iff] using le_trans
  · intro a b
    simpa only [Bool.or_eq_true, RequiredImport.le_iff] using le_total a.key b.key
  · intro a b hab hba
    exact RequiredImport.key_injective
      (le_antisymm (RequiredImport.le_iff.1 hab) (RequiredImport.le_iff.1 hba))
  · rintro a b ⟨hle, hne⟩
    exact RequiredImport.precedes_iff.2 (lt_of_le_of_ne (RequiredImport.le_iff.1 hle)
      fun heq => hne (RequiredImport.key_injective heq))

/-! ## What is needed -/

namespace Node

variable {root node : Node} {own : String}

/-- Identifiers that are resolved to packages stand only as left operands of selectors. -/
def NamesPackages (root : Node) : Prop :=
  ∀ address id ref, root.at? address = some (.ident id) → id.resolution = some (.package ref) →
    ∃ outer sel, address = outer ++ [0, 0] ∧
      root.at? outer = some (.expr (.selector (.ident id) sel))

/-- What stands at the address is selected from a package of this path. -/
def SelectedFrom (root : Node) (address : Address) (path : String) : Prop :=
  ∃ outer id sel ref, address = outer ++ [1] ∧
    root.at? outer = some (.expr (.selector (.ident id) sel)) ∧
    id.resolution = some (.package ref) ∧ ref.path = path

/-- What has to be imported: each package by the name it goes by, and without a name each other
package of which a declaration is mentioned that is not selected from it. -/
inductive Needs (own : String) (root : Node) : RequiredImport → Prop
  | named {address : Address} {id : Ident} {ref : PackageRef}
    (hat : root.at? address = some (.ident id)) (hid : id.resolution = some (.package ref)) :
    Needs own root ⟨ref.path, id.name⟩
  | bare {address : Address} {id : Ident} {ref : PackageRef}
    (hat : root.at? address = some (.ident id))
    (hid : id.resolution = some (.declared (some ref) true)) (hother : ref.path ≠ own)
    (hbare : ¬ root.SelectedFrom address ref.path) :
    Needs own root ⟨ref.path, "."⟩

end Node

/-! ## Reading identifiers -/

/-- Any identifier but that of a package empties the cell. What it needs depends on the cell. -/
theorem ImportScan.step_of_not_package (own : String) (previous : Option String) {id : Ident}
    (h : ∀ ref, id.resolution ≠ some (.package ref)) :
    ∃ needed, (∀ required, required ∈ needed ↔
        ∃ ref, id.resolution = some (.declared (some ref) true) ∧ ref.path ≠ own ∧
          previous ≠ some ref.path ∧ required = ⟨ref.path, "."⟩) ∧
      ∀ before, ImportScan.step own ⟨previous, before⟩ id = ⟨none, before ++ needed⟩ := by
  by_cases hdeclared : ∃ ref, id.resolution = some (.declared (some ref) true)
  · obtain ⟨ref, hid⟩ := hdeclared
    by_cases hknown : ref.path = own ∨ previous = some ref.path
    · refine ⟨[], ?_, by simp [ImportScan.step, hid, hknown]⟩
      simp only [hid, List.not_mem_nil, false_iff]
      rintro required ⟨ref', heq, hother, hprevious, -⟩
      cases heq
      exact hknown.elim hother hprevious
    · refine ⟨[⟨ref.path, "."⟩], ?_, by simp [ImportScan.step, hid, hknown]⟩
      simp only [hid, List.mem_singleton]
      intro required
      constructor
      · rintro rfl
        exact ⟨ref, rfl, fun heq => hknown (.inl heq), fun heq => hknown (.inr heq), rfl⟩
      · rintro ⟨ref', heq, -, -, rfl⟩
        cases heq
        rfl
  · refine ⟨[], ?_, ?_⟩
    · intro required
      simp only [List.not_mem_nil, false_iff]
      rintro ⟨ref, hid, -⟩
      exact hdeclared ⟨ref, hid⟩
    · intro before
      rw [ImportScan.step]
      split
      · next ref hid => exact absurd hid (h ref)
      · next ref hid => exact absurd ⟨ref, hid⟩ hdeclared
      · rw [List.append_nil]

/-- Read with an empty cell, the identifiers add just what is needed and leave the cell empty. -/
def ReadsAs (own : String) (ids : List Ident) (needs : RequiredImport → Prop) : Prop :=
  ∃ needed, (∀ required, required ∈ needed ↔ needs required) ∧
    ∀ before, ids.foldl (ImportScan.step own) ⟨none, before⟩ = ⟨none, before ++ needed⟩

theorem ReadsAs.congr {own : String} {ids : List Ident} {needs needs' : RequiredImport → Prop}
    (h : ReadsAs own ids needs) (hneeds : ∀ required, needs required ↔ needs' required) :
    ReadsAs own ids needs' := by
  obtain ⟨needed, hneeded, hread⟩ := h
  exact ⟨needed, fun required => (hneeded required).trans (hneeds required), hread⟩

/-- Lists are read one after another. -/
theorem ReadsAs.flatMap {own : String} {parts : List Node} {ids : Node → List Ident}
    {needs : Node → RequiredImport → Prop}
    (h : ∀ part ∈ parts, ReadsAs own (ids part) (needs part)) :
    ReadsAs own (parts.flatMap ids) fun required => ∃ part ∈ parts, needs part required := by
  induction parts with
  | nil => exact ⟨[], by simp, by simp⟩
  | cons part parts ih =>
    obtain ⟨first, hfirst, hread⟩ := h part List.mem_cons_self
    obtain ⟨others, hothers, hrest⟩ := ih fun part hpart => h part (List.mem_cons_of_mem _ hpart)
    refine ⟨first ++ others, ?_, ?_⟩
    · intro required
      simp only [List.mem_append, hfirst, hothers, List.exists_mem_cons_iff]
    · intro before
      rw [List.flatMap_cons, List.foldl_append, hread, hrest, List.append_assoc]

namespace Node

variable {node part : Node} {own : String} {id sel : Ident} {ref : PackageRef}

/-! ### An identifier -/

theorem at?_ident {address : Address} {found : Node} :
    (Node.ident id).at? address = some found ↔ address = [] ∧ found = .ident id := by
  cases address with
  | nil => simp [eq_comm]
  | cons place rest => simp [at?_cons, parts]

theorem namesPackages_ident :
    (Node.ident id).NamesPackages ↔ ∀ ref, id.resolution ≠ some (.package ref) := by
  constructor
  · intro h ref href
    obtain ⟨outer, sel, heq, -⟩ := h [] id ref rfl href
    simp at heq
  · intro h address found ref hat href
    obtain ⟨-, heq⟩ := at?_ident.1 hat
    cases heq
    exact absurd href (h ref)

theorem readsAs_ident (h : (Node.ident id).NamesPackages) :
    ReadsAs own [id] ((Node.ident id).Needs own) := by
  rw [namesPackages_ident] at h
  obtain ⟨needed, hneeded, hstep⟩ := ImportScan.step_of_not_package own none h
  refine ⟨needed, fun required => (hneeded required).trans ⟨?_, ?_⟩, hstep⟩
  · rintro ⟨ref, href, hother, -, rfl⟩
    refine .bare (at?_nil _) href hother ?_
    rintro ⟨outer, _, _, _, heq, -⟩
    simp at heq
  · rintro (⟨hat, href⟩ | ⟨hat, href, hother, -⟩)
    · obtain ⟨-, heq⟩ := at?_ident.1 hat
      cases heq
      exact absurd href (h _)
    · obtain ⟨-, heq⟩ := at?_ident.1 hat
      cases heq
      exact ⟨_, href, hother, (Option.some_ne_none _).symm, rfl⟩

/-! ### A name selected from a package -/

theorem at?_expr_ident {address : Address} {found : Ident} :
    (Node.expr (.ident id)).at? address = some (.ident found) ↔ address = [0] ∧ found = id := by
  rcases address with _ | ⟨_ | place, rest⟩ <;> simp [at?_cons, at?_ident, parts, Expr.parts]

theorem at?_selector {address : Address} {found : Ident} :
    (Node.expr (.selector (.ident id) sel)).at? address = some (.ident found) ↔
      address = [0, 0] ∧ found = id ∨ address = [1] ∧ found = sel := by
  rcases address with _ | ⟨_ | _ | place, rest⟩ <;>
    simp [at?_cons, at?_ident, at?_expr_ident, parts, Expr.parts]

theorem selectedFrom_selector (hid : id.resolution = some (.package ref)) {path : String} :
    (Node.expr (.selector (.ident id) sel)).SelectedFrom [1] path ↔ ref.path = path := by
  constructor
  · rintro ⟨outer, id', sel', ref', heq, hat, hid', rfl⟩
    obtain rfl : outer = [] := by simpa using heq
    cases hat
    cases hid.symm.trans hid'
    rfl
  · intro hpath
    exact ⟨[], id, sel, ref, rfl, rfl, hid, hpath⟩

theorem namesPackages_selector (hid : id.resolution = some (.package ref)) :
    (Node.expr (.selector (.ident id) sel)).NamesPackages ↔
      ∀ ref, sel.resolution ≠ some (.package ref) := by
  constructor
  · intro h ref href
    obtain ⟨outer, sel', heq, -⟩ := h [1] sel ref rfl href
    simpa using congrArg List.getLast? heq
  · intro h address found ref hat href
    rcases at?_selector.1 hat with ⟨rfl, rfl⟩ | ⟨rfl, rfl⟩
    · exact ⟨[], sel, rfl, rfl⟩
    · exact absurd href (h ref)

theorem readsAs_selector (hid : id.resolution = some (.package ref))
    (h : (Node.expr (.selector (.ident id) sel)).NamesPackages) :
    ReadsAs own [id, sel] ((Node.expr (.selector (.ident id) sel)).Needs own) := by
  have hsel := (namesPackages_selector hid).1 h
  obtain ⟨needed, hneeded, hstep⟩ := ImportScan.step_of_not_package own (some ref.path) hsel
  refine ⟨⟨ref.path, id.name⟩ :: needed, fun required => ?_, fun before => ?_⟩
  · rw [List.mem_cons, hneeded]
    constructor
    · rintro (rfl | ⟨ref', href, hother, hprevious, rfl⟩)
      · exact .named (at?_selector.2 (.inl ⟨rfl, rfl⟩)) hid
      · refine .bare (at?_selector.2 (.inr ⟨rfl, rfl⟩)) href hother fun hselected => ?_
        exact hprevious (congrArg some ((selectedFrom_selector hid).1 hselected))
    · rintro (⟨hat, href⟩ | ⟨hat, href, hother, hbare⟩)
      · rcases at?_selector.1 hat with ⟨rfl, rfl⟩ | ⟨rfl, rfl⟩
        · cases hid.symm.trans href
          exact .inl rfl
        · exact absurd href (hsel _)
      · rcases at?_selector.1 hat with ⟨rfl, rfl⟩ | ⟨rfl, rfl⟩
        · cases hid.symm.trans href
        · refine .inr ⟨_, href, hother, fun heq => hbare ?_, rfl⟩
          exact (selectedFrom_selector hid).2 (Option.some.inj heq)
  · have hfirst : ImportScan.step own ⟨none, before⟩ id =
        ⟨some ref.path, before ++ [⟨ref.path, id.name⟩]⟩ := by
      simp [ImportScan.step, hid]
    rw [List.foldl_cons, hfirst, List.foldl_cons, hstep, List.foldl_nil, List.append_assoc]
    rfl

/-! ### Any other node -/

/-- The node is a selector that takes a name from a package. -/
def SelectsFromPackage (node : Node) : Prop :=
  ∃ id sel ref, node = .expr (.selector (.ident id) sel) ∧ id.resolution = some (.package ref)

/-- An identifier in a node that is none itself stands in one of the parts. -/
theorem exists_part_of_at? (hident : ∀ id, node ≠ .ident id) {address : Address}
    (hat : node.at? address = some (.ident id)) :
    ∃ place rest part, address = place :: rest ∧ node.parts[place]? = some part ∧
      part.at? rest = some (.ident id) := by
  cases address with
  | nil =>
    cases hat
    exact absurd rfl (hident id)
  | cons place rest =>
    obtain ⟨part, hpart, hat⟩ := at?_cons.1 hat
    exact ⟨place, rest, part, rfl, hpart, hat⟩

/-- A selector from a package that is above a place in a part is in that part, unless it is the
node itself. -/
theorem exists_inner (hnode : ¬ node.SelectsFromPackage) {place : Nat}
    (hpart : node.parts[place]? = some part) {address outer last : Address}
    (heq : place :: address = outer ++ last)
    (hat : node.at? outer = some (.expr (.selector (.ident id) sel)))
    (hid : id.resolution = some (.package ref)) :
    ∃ inner, address = inner ++ last ∧
      part.at? inner = some (.expr (.selector (.ident id) sel)) := by
  cases outer with
  | nil =>
    cases hat
    exact absurd ⟨id, sel, ref, rfl, hid⟩ hnode
  | cons first inner =>
    cases heq
    obtain ⟨part', hpart', hat⟩ := at?_cons.1 hat
    cases hpart.symm.trans hpart'
    exact ⟨inner, rfl, hat⟩

theorem namesPackages_iff (hident : ∀ id, node ≠ .ident id) (hnode : ¬ node.SelectsFromPackage) :
    node.NamesPackages ↔ ∀ part ∈ node.parts, part.NamesPackages := by
  constructor
  · intro h part hpart address id ref hat hid
    obtain ⟨place, hplace⟩ := List.mem_iff_getElem?.1 hpart
    obtain ⟨outer, sel, heq, houter⟩ :=
      h (place :: address) id ref (at?_cons.2 ⟨part, hplace, hat⟩) hid
    obtain ⟨inner, heq, hinner⟩ := exists_inner hnode hplace heq houter hid
    exact ⟨inner, sel, heq, hinner⟩
  · intro h address id ref hat hid
    obtain ⟨place, rest, part, rfl, hplace, hat⟩ := exists_part_of_at? hident hat
    obtain ⟨inner, sel, rfl, hinner⟩ := h part (List.mem_of_getElem? hplace) rest id ref hat hid
    exact ⟨place :: inner, sel, rfl, at?_cons.2 ⟨part, hplace, hinner⟩⟩

theorem selectedFrom_cons (hnode : ¬ node.SelectsFromPackage) {place : Nat} {address : Address}
    {path : String} (hpart : node.parts[place]? = some part) :
    node.SelectedFrom (place :: address) path ↔ part.SelectedFrom address path := by
  constructor
  · rintro ⟨outer, id, sel, ref, heq, hat, hid, hpath⟩
    obtain ⟨inner, heq, hinner⟩ := exists_inner hnode hpart heq hat hid
    exact ⟨inner, id, sel, ref, heq, hinner, hid, hpath⟩
  · rintro ⟨inner, id, sel, ref, rfl, hat, hid, hpath⟩
    exact ⟨place :: inner, id, sel, ref, rfl, at?_cons.2 ⟨part, hpart, hat⟩, hid, hpath⟩

/-- A node that is no identifier and selects nothing from a package needs what its parts need. -/
theorem needs_iff (hident : ∀ id, node ≠ .ident id) (hnode : ¬ node.SelectsFromPackage)
    (required : RequiredImport) :
    (∃ part ∈ node.parts, part.Needs own required) ↔ node.Needs own required := by
  constructor
  · rintro ⟨part, hpart, hneeds⟩
    obtain ⟨place, hplace⟩ := List.mem_iff_getElem?.1 hpart
    rcases hneeds with ⟨hat, hid⟩ | ⟨hat, hid, hother, hbare⟩
    · exact .named (at?_cons.2 ⟨part, hplace, hat⟩) hid
    · refine .bare (at?_cons.2 ⟨part, hplace, hat⟩) hid hother ?_
      rwa [selectedFrom_cons hnode hplace]
  · rintro (⟨hat, hid⟩ | ⟨hat, hid, hother, hbare⟩)
    · obtain ⟨place, rest, part, rfl, hplace, hat⟩ := exists_part_of_at? hident hat
      exact ⟨part, List.mem_of_getElem? hplace, .named hat hid⟩
    · obtain ⟨place, rest, part, rfl, hplace, hat⟩ := exists_part_of_at? hident hat
      rw [selectedFrom_cons hnode hplace] at hbare
      exact ⟨part, List.mem_of_getElem? hplace, .bare hat hid hother hbare⟩

/-! ### All nodes -/

/-- Reading the identifiers of a walk finds what the tree needs. -/
theorem readsAs_walk (h : node.NamesPackages) :
    ReadsAs own node.idents (node.Needs own) := by
  induction node using induct with
  | step node ih =>
    by_cases hident : ∃ id, node = .ident id
    · obtain ⟨id, rfl⟩ := hident
      exact readsAs_ident h
    -- a selector from a package is read as a whole: between its identifiers the cell is full
    by_cases hnode : node.SelectsFromPackage
    · obtain ⟨id, sel, ref, rfl, hid⟩ := hnode
      exact readsAs_selector hid h
    · have hident : ∀ id, node ≠ .ident id := fun id heq => hident ⟨id, heq⟩
      rw [namesPackages_iff hident hnode] at h
      rw [idents_eq hident]
      exact (ReadsAs.flatMap fun part hpart => ih part hpart (h part hpart)).congr
        (needs_iff hident hnode)

end Node

/-- Where packages are named as left operands of selectors only, the imports of a function are, in
strict order, exactly what its receiver, type parameters, signature and body need. -/
theorem FuncDecl.mem_requiredImports_iff (own : String) (func : FuncDecl)
    (h : (Node.func func).NamesPackages) :
    (func.requiredImports own).Pairwise RequiredImport.Precedes ∧
      ∀ required, required ∈ func.requiredImports own ↔ (Node.func func).Needs own required := by
  refine ⟨pairwise_requiredImports own _, fun required => ?_⟩
  obtain ⟨needed, hneeded, hread⟩ : ReadsAs own _ ((Node.func func).Needs own) :=
    Node.readsAs_walk h
  have hids : (identsOf (func.walkParts everywhere)).foldl (ImportScan.step own) {} =
      ⟨none, [] ++ needed⟩ := hread []
  rw [requiredImports, GoProbe.requiredImports, mem_ascending, hids, List.nil_append]
  exact hneeded required

namespace FuncDecl

/-- `func upper(limit tm.Duration) { strings.ToUpper(Pi) }` with `Pi` of a dot import. -/
def sampleImporter : FuncDecl :=
  let member (path name : String) : Ident := ⟨name, some (.declared (some ⟨path, path⟩) true)⟩
  let named (path name : String) : Expr := .ident ⟨name, some (.package ⟨path, path⟩)⟩
  { name := "upper"
    receiver := none
    typeParams := []
    signature :=
      ⟨[⟨[⟨"limit", none⟩], .selector (named "time" "tm") (member "time" "Duration"), none, none⟩],
        []⟩
    body := some [.expr (.apply (.selector (named "strings" "strings") (member "strings" "ToUpper"))
      [.ident (member "math" "Pi")])]
    position := ⟨1, 1⟩ }

theorem namesPackages_sampleImporter : (Node.func sampleImporter).NamesPackages := by
  simp [Node.namesPackages_iff, Node.SelectsFromPackage, sampleImporter, Node.parts,
    FuncDecl.parts, FuncType.parts, Stmt.parts, Expr.parts, Expr.apply,
    Node.namesPackages_selector, Node.namesPackages_ident]

theorem mem_requiredImports_iff_sample :
    (Node.func sampleImporter).NamesPackages ∧
      (sampleImporter.requiredImports "main").Pairwise RequiredImport.Precedes ∧
      ⟨"time", "tm"⟩ ∈ sampleImporter.requiredImports "main" ∧
      ⟨"math", "."⟩ ∈ sampleImporter.requiredImports "main" := by
  obtain ⟨hordered, hmem⟩ :=
    mem_requiredImports_iff "main" sampleImporter namesPackages_sampleImporter
  have htm : (Node.func sampleImporter).at? [0, 0, 0, 0] =
      some (.ident ⟨"tm", some (.package ⟨"time", "time"⟩)⟩) := rfl
  have hpi : (Node.func sampleImporter).at? [1, 0, 0, 1, 0] =
      some (.ident ⟨"Pi", some (.declared (some ⟨"math", "math"⟩) true)⟩) := rfl
  refine ⟨namesPackages_sampleImporter, hordered, (hmem _).2 (.named htm rfl),
    (hmem _).2 (.bare hpi rfl (by decide) ?_)⟩
  -- `Pi` stands first in its expression, a selected name second
  rintro ⟨outer, _, _, _, heq, -⟩
  simpa using congrArg List.getLast? heq

end FuncDecl

end GoProbe
