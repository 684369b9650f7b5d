import GoProbe.Probe.Hash
import GoProbe.Proofs.Growth
import GoProbe.Proofs.Occurrences
import GoProbe.Proofs.ProbingRuns

/-!
# Probes in printed text

Reading the text of a probed package from left to right, the name of the table followed by a
bracket is met once for each probe, in the order of the numbers, and nowhere else.

The layout of a node shows the probes of its parts, in order (`Node.shows_of_parts`), and a
placement numbers the probes of the parts in order (`Grown`). So a placed tree shows the numbers
that the placement has used (`Node.shows_place`), and declarations, files and packages those that
the ledger has counted.
-/

namespace GoProbe

open Placing (next)

/-- The strings that a file stores: the name of its package and those of its nodes. -/
def SourceFile.strings (file : SourceFile) : List String :=
  file.packageName :: (file.walk everywhere).flatMap Node.strings

/-! ## From the parts to the whole -/

namespace Node

variable {node : Node}

/-- The name of the table occurs in no string of the tree. -/
def QuietTree (node : Node) : Prop :=
  ∀ found ∈ node.walk everywhere, ∀ text ∈ found.strings, Quiet text

theorem quietTree_iff : node.QuietTree ↔
    (∀ text ∈ node.strings, Quiet text) ∧ ∀ part ∈ node.parts, part.QuietTree := by
  rw [QuietTree, walk_eq_parts, if_pos node.enters_everywhere, List.forall_mem_cons,
    List.forall_mem_flatMap]
  rfl

/-- However the node is written, it shows these probes. -/
def Shows (node : Node) (ids : List Nat) : Prop :=
  ∀ view : View, view.node = node → Shown view.layout ids

theorem shows_of_quietTree (h : node.QuietTree) : node.Shows [] := by
  rintro view rfl
  exact .of_quiet fun piece hpiece text htext =>
    .of_written (View.writtenFrom_layout h piece hpiece text htext)

end Node

theorem FormSlot.shown_layouts {slots : List FormSlot} {idss : List (List Nat)}
    {named : Ident → Prop} (hown : FormSlot.OwnFrom Quiet named slots)
    (hparts : List.Forall₂ (fun part ids => part.2.Shows ids) (nodes slots) idss) :
    Shown (layouts slots) idss.flatten := by
  induction slots generalizing idss with
  | nil =>
    cases hparts
    exact .nil
  | cons slot slots ih =>
    have hrest : FormSlot.OwnFrom Quiet named slots :=
      fun p hp => hown p (List.mem_cons_of_mem _ hp)
    cases slot with
    | piece p =>
      have hp : p.Quiet := fun text htext =>
        .of_written ((hown p List.mem_cons_self).1 text htext)
      exact .quiet hp (ih hrest hparts)
    | part level view =>
      rw [nodes_part] at hparts
      cases hparts with
      | cons hview hparts => exact (hview view rfl).append (ih hrest hparts)

/-- A node with quiet strings shows the probes of its parts. -/
theorem Node.shows_of_parts (node : Node) {idss : List (List Nat)}
    (hkeyed : node.isKeyed = true) (hstrings : ∀ text ∈ node.strings, Quiet text)
    (hparts : List.Forall₂ Node.Shows node.parts idss) : node.Shows idss.flatten := by
  rintro view rfl
  rw [view.layout_eq_form]
  refine FormSlot.shown_layouts (View.own_form hstrings fun _ _ => trivial) ?_
  rw [View.nodes_form hkeyed]
  rwa [← Node.map_snd_leveledParts, List.forall₂_map_left_iff] at hparts

/-! ## Placed trees -/

/-- The probe of the table with this id. -/
def tableProbe (id : Nat) : Stmt :=
  .incDec (.index (.name "__ut_cover_tab__") [.stringLit (toString id)]) .inc

theorem layout_tableProbe (id : Nat) : (tableProbe id).layout = probePieces id := by
  simp [tableProbe, Stmt.layout, Expr.layout, Expr.layoutList, Expr.name, Expr.stringLit,
    IncDecOp.text, probePieces, Piece.wrapIf, Expr.precedence]

/-- A placement keeps the strings of a node. -/
theorem Node.strings_place (probe : Nat → Stmt) (node : Node) (placed : Nat) :
    (node.place probe placed).1.strings = node.strings := by
  cases node with
  | gen decl =>
    obtain ⟨kind, specs, grouped⟩ := decl
    have hspecs : (Spec.placeList (next probe) specs placed).1.flatMap Spec.importStrings =
        specs.flatMap Spec.importStrings := by
      induction specs generalizing placed with
      | nil => rfl
      | cons spec specs ih =>
        cases spec with
        | value names typed values => exact ih _
        | imports spec => exact congrArg ((Spec.imports spec).importStrings ++ ·) (ih placed)
        | type name params isAlias named => exact ih placed
    exact hspecs
  | stmt s => cases s <;> rfl
  | expr x => cases x <;> rfl
  | _ => rfl

theorem Node.isKeyed_place (probe : Nat → Stmt) (node : Node) (placed : Nat) :
    (node.place probe placed).1.isKeyed = node.isKeyed := by
  cases node with
  | stmt s =>
    cases s with
    | range key value define x body => cases key <;> cases value <;> rfl
    | _ => rfl
  | _ => rfl

theorem Node.shows_tableProbe (id : Nat) : (Node.stmt (tableProbe id)).Shows [id] := by
  intro view hview
  cases view <;> cases hview
  have hlayout : (View.whole (.stmt (tableProbe id))).layout = probePieces id ++ [] := by
    rw [List.append_nil]
    exact layout_tableProbe id
  rw [hlayout]
  exact .probe id .nil

theorem Node.shows_asPart {part : Node} {id : Nat} (h : part ∈ (tableProbe id).asPart) :
    part.Shows [id] := by
  have hprobe : List.Forall₂ Node.Shows [.stmt (tableProbe id)] [[id]] :=
    .cons (Node.shows_tableProbe id) .nil
  simp only [Stmt.asPart, List.mem_cons, List.not_mem_nil, or_false] at h
  rcases h with rfl | rfl | rfl
  · exact Node.shows_tableProbe id
  · exact (Node.block [tableProbe id]).shows_of_parts rfl (by simp [Node.strings]) hprobe
  · exact (Node.caseClause (.default [tableProbe id])).shows_of_parts rfl (by simp [Node.strings])
      hprobe

/-- An `if` in a list of its own, after its probe. -/
theorem Node.shows_nested {stmt : IfStmt} {ids : List Nat} (id : Nat)
    (h : (Node.ifElse stmt).Shows ids) :
    (Node.block [tableProbe id, .ifElse stmt]).Shows (id :: ids) := by
  have hstmt : (Node.stmt (.ifElse stmt)).Shows [ids].flatten :=
    (Node.stmt (.ifElse stmt)).shows_of_parts rfl (by simp [Node.strings]) (.cons h .nil)
  have hblock : (Node.block [tableProbe id, .ifElse stmt]).Shows [[id], [ids].flatten].flatten :=
    (Node.block _).shows_of_parts rfl (by simp [Node.strings])
      (.cons (Node.shows_tableProbe id) (.cons hstmt .nil))
  simpa using hblock

/-- The nodes show the numbers up to the last one, each the next ones. -/
def ShowFrom (placed : Nat) (nodes : List Node) (last : Nat) : Prop :=
  ∃ idss count, last = placed + count ∧ List.Forall₂ Node.Shows nodes idss ∧
    idss.flatten = List.range' (placed + 1) count

namespace ShowFrom

variable {placed between last : Nat} {node : Node} {nodes : List Node}

theorem nil (placed : Nat) : ShowFrom placed [] placed := ⟨[], 0, rfl, .nil, rfl⟩

theorem cons (count : Nat) (hnode : node.Shows (List.range' (placed + 1) count))
    (h : ShowFrom (placed + count) nodes last) : ShowFrom placed (node :: nodes) last := by
  obtain ⟨idss, more, rfl, hnodes, hidss⟩ := h
  refine ⟨_ :: idss, count + more, Nat.add_assoc _ _ _, .cons hnode hnodes, ?_⟩
  rw [List.flatten_cons, hidss, Nat.add_right_comm, List.range'_append_1]

theorem keep (hnode : node.QuietTree) (h : ShowFrom placed nodes last) :
    ShowFrom placed (node :: nodes) last :=
  cons 0 (Node.shows_of_quietTree hnode) h

theorem keep_append {kept : List Node} (hkept : ∀ node ∈ kept, node.QuietTree)
    (h : ShowFrom placed nodes last) : ShowFrom placed (kept ++ nodes) last := by
  induction kept with
  | nil => exact h
  | cons node kept ih =>
    rw [List.forall_mem_cons] at hkept
    exact .keep hkept.1 (ih hkept.2)

/-- A node whose parts show the numbers shows them. -/
theorem whole (h : ShowFrom placed node.parts last) (hkeyed : node.isKeyed = true)
    (hstrings : ∀ text ∈ node.strings, Quiet text) :
    ∃ count, last = placed + count ∧ node.Shows (List.range' (placed + 1) count) := by
  obtain ⟨idss, count, hlast, hparts, hidss⟩ := h
  exact ⟨count, hlast, hidss ▸ node.shows_of_parts hkeyed hstrings hparts⟩

/-- The parts of a node after a placement. -/
theorem of_grown {parts parts' : List Node} (h : Grown tableProbe parts placed parts' last)
    (hquiet : ∀ part ∈ parts, part.QuietTree)
    (hparts : ∀ part ∈ parts, ∀ placed, ∃ count,
      (part.place tableProbe placed).2 = placed + count ∧
      (part.place tableProbe placed).1.Shows (List.range' (placed + 1) count)) :
    ShowFrom placed parts' last := by
  induction h with
  | nil placed => exact .nil placed
  | kept part _ ih =>
    rw [List.forall_mem_cons] at hquiet hparts
    exact .keep hquiet.1 (ih hquiet.2 hparts.2)
  | @placed part parts parts' placed last _ ih =>
    rw [List.forall_mem_cons] at hquiet hparts
    obtain ⟨count, hcount, hshows⟩ := hparts.1 placed
    rw [hcount] at ih
    exact .cons count hshows (ih hquiet.2 hparts.2)
  | @added part parts parts' placed last hpart _ ih =>
    exact .cons 1 (Node.shows_asPart hpart) (ih hquiet hparts)
  | @nested stmt parts parts' placed last _ ih =>
    rw [List.forall_mem_cons] at hquiet hparts
    obtain ⟨count, hcount, hshows⟩ := hparts.1 (placed + 1)
    have hblock := Node.shows_nested (placed + 1) hshows
    rw [← List.range'_succ] at hblock
    refine .cons _ hblock ?_
    have hlast : placed + (count + 1) = (stmt.place (next tableProbe) (placed + 1)).2 := by
      rw [← Nat.add_right_comm, Nat.add_assoc] at hcount
      exact hcount.symm
    rw [hlast]
    exact ih hquiet.2 hparts.2

end ShowFrom

/-- A range with a value and no key is written without the value. -/
theorem Node.shows_range {value : Expr} {define : Bool} {x : Expr} {body : Block} {ids : List Nat}
    (h : (Node.stmt (.range none none define x body)).Shows ids) :
    (Node.stmt (.range none (some value) define x body)).Shows ids := by
  intro view hview
  cases view <;> cases hview
  have hlayout : (View.whole (.stmt (.range none (some value) define x body))).layout =
      (View.whole (.stmt (.range none none define x body))).layout := by
    simp [View.layout, Node.layout, Stmt.layout]
  rw [hlayout]
  exact h _ rfl

/-- A placed tree shows the numbers that the placement has used. -/
theorem Node.shows_place (node : Node) (hquiet : node.QuietTree) (placed : Nat) :
    ∃ count, (node.place tableProbe placed).2 = placed + count ∧
      (node.place tableProbe placed).1.Shows (List.range' (placed + 1) count) := by
  induction node using Node.induct generalizing placed with
  | step node ih =>
    obtain ⟨hstrings, hparts⟩ := Node.quietTree_iff.1 hquiet
    have hplaced : ∀ part ∈ node.parts, ∀ placed, ∃ count,
        (part.place tableProbe placed).2 = placed + count ∧
        (part.place tableProbe placed).1.Shows (List.range' (placed + 1) count) :=
      fun part hpart => ih part hpart (hparts part hpart)
    by_cases hkeyed : node.isKeyed = true
    · refine (ShowFrom.of_grown (node.grown_place placed) hparts hplaced).whole ?_ ?_
      · rwa [Node.isKeyed_place]
      · rwa [Node.strings_place]
    · obtain ⟨value, define, x, body, rfl⟩ := Node.exists_of_not_isKeyed hkeyed
      have hsub : ∀ part ∈ (Node.stmt (.range none none define x body)).parts,
          part ∈ (Node.stmt (.range none (some value) define x body)).parts :=
        fun part hpart => List.mem_cons_of_mem _ hpart
      obtain ⟨count, hcount, hshows⟩ := (ShowFrom.of_grown
        ((Node.stmt (.range none none define x body)).grown_place placed)
        (fun part hpart => hparts part (hsub part hpart))
        fun part hpart => hplaced part (hsub part hpart)).whole rfl
          (by rw [Node.strings_place]; simp [Node.strings])
      exact ⟨count, hcount, Node.shows_range hshows⟩

/-! ## Runs -/

/-- A declaration between empty lines, as files have it. -/
def Decl.paragraph (decl : Decl) : List Piece := .newline :: decl.layout ++ [.newline]

theorem Decl.shown_paragraph {decl : Decl} {ids : List Nat} (h : Shown decl.layout ids) :
    Shown decl.paragraph ids := by
  have hnewline : Piece.newline.Quiet := by simp [Piece.Quiet, Piece.text?]
  have hall := (h.append (.quiet hnewline .nil))
  rw [List.append_nil] at hall
  exact .quiet hnewline hall

theorem Decl.parted_layout (decl : Decl) : Parted true decl.layout := by
  obtain ⟨b, hrun⟩ := (View.whole (.decl decl)).exists_run_inline rfl
  have hline : (Piece.run decl.layout ⟨.mid true, 0⟩).line ≠ .stuck := by
    rw [View.layout, Node.layout] at hrun
    simp [hrun]
  exact .of_run hline

/-- Declarations stand between line breaks. -/
theorem SourceFile.parted_layout (file : SourceFile) : Parted true file.layout := by
  have hdecls : Parted true (file.decls.flatMap Decl.paragraph) := by
    induction file.decls with
    | nil => trivial
    | cons decl decls ih =>
      have hrest := decl.parted_layout.append_newline ih
      have hstart : Parted true [] := trivial
      rw [List.flatMap_cons, Decl.paragraph]
      simpa using hstart.append_newline hrest
  have hclause : Parted true [.token "package", .blank, .token file.packageName] := by
    have hblank : Piece.blank.isBreak = true := by decide
    rw [Parted.cons_of_text? rfl, Parted.cons_of_text? rfl, Parted.cons_of_text? rfl, hblank]
    simp [Parted]
  exact hclause.append_newline hdecls

theorem SourceFile.quiet_iff {file : SourceFile} :
    (∀ text ∈ file.strings, Quiet text) ↔
      Quiet file.packageName ∧ ∀ decl ∈ file.decls, (Node.decl decl).QuietTree := by
  simp only [SourceFile.strings, SourceFile.walk, Node.QuietTree, List.forall_mem_cons,
    List.forall_mem_flatMap]
  rfl

namespace Ledger

/-- The pieces show the numbers that have been used between two ledgers. -/
def Shows (before : Ledger) (pieces : List Piece) (after : Ledger) : Prop :=
  ∃ count, after.placed = before.placed + count ∧
    Shown pieces (List.range' (before.placed + 1) count)

variable {before between after : Ledger}

theorem Shows.of_quiet {pieces : List Piece} (h : ∀ piece ∈ pieces, piece.Quiet) :
    before.Shows pieces before :=
  ⟨0, rfl, .of_quiet h⟩

theorem Shows.append {left right : List Piece} (hleft : before.Shows left between)
    (hright : between.Shows right after) : before.Shows (left ++ right) after := by
  obtain ⟨first, hfirst, hleft⟩ := hleft
  obtain ⟨second, hsecond, hright⟩ := hright
  refine ⟨first + second, by omega, ?_⟩
  rw [hfirst, Nat.add_right_comm] at hright
  rw [← List.range'_append_1]
  exact hleft.append hright

end Ledger

namespace ProbePlan

variable [WordHash] {tracked : List String} {before after : Ledger}

theorem probe_default : (ofSettings {} tracked).probe = tableProbe := rfl

theorem DeclStep.shows {decl : Decl} {decls : List Decl}
    (hstep : (ofSettings {} tracked).DeclStep before decl decls after)
    (hquiet : (Node.decl decl).QuietTree) :
    before.Shows (decls.flatMap Decl.paragraph) after := by
  have hkept : Shown decl.layout [] := Node.shows_of_quietTree hquiet (.whole (.decl decl)) rfl
  have hparts := (Node.quietTree_iff.1 hquiet).2
  cases hstep with
  | keptFunc _ =>
    rw [List.flatMap_singleton]
    exact ⟨0, rfl, Decl.shown_paragraph hkept⟩
  | keptGen _ =>
    rw [List.flatMap_singleton]
    exact ⟨0, rfl, Decl.shown_paragraph hkept⟩
  | @func func body hbody =>
    have hdecls (probed : FuncDecl) :
        ((ofSettings {} tracked).backend.finalize func probed).decls = [.func probed] := rfl
    obtain ⟨hstrings, hfunc⟩ := Node.quietTree_iff.1 (hparts (.func func) List.mem_cons_self)
    rw [Node.parts, FuncDecl.parts, List.forall_mem_append, body_of_bodyToProbe? hbody] at hfunc
    obtain ⟨count, hcount, hshows⟩ :=
      (Node.block body).shows_place (hfunc.2 _ List.mem_cons_self) before.placed
    have hshown : ShowFrom before.placed (Node.func { func with
        body := some (Stmt.placeBody (next tableProbe) body before.placed).1 }).parts
        (before.placed + count) := .keep_append hfunc.1 (.cons count hshows (.nil _))
    obtain ⟨count', hcount', hprobed⟩ := hshown.whole rfl hstrings
    rw [hdecls, List.flatMap_singleton, probe_default]
    refine ⟨count', hcount.trans hcount', Decl.shown_paragraph ?_⟩
    exact hprobed (.whole (.func _)) rfl
  | @gen decl _ =>
    obtain ⟨count, hcount, hshows⟩ :=
      (Node.gen decl).shows_place (hparts _ List.mem_cons_self) before.placed
    refine ⟨count, hcount, ?_⟩
    rw [List.flatMap_singleton, probe_default]
    exact Decl.shown_paragraph (hshows (.whole (.gen _)) rfl)

/-- A run over quiet declarations shows the numbers it has used. -/
theorem shows_of_each {steps : List (Decl × List Decl)}
    (hrun : Probing.Each (ofSettings {} tracked).probeDecl before steps after)
    (hquiet : ∀ step ∈ steps, (Node.decl step.1).QuietTree) :
    before.Shows ((steps.flatMap Prod.snd).flatMap Decl.paragraph) after := by
  induction hrun with
  | nil ledger => exact ⟨0, rfl, .nil⟩
  | cons hstep _ ih =>
    rw [List.forall_mem_cons] at hquiet
    rw [List.flatMap_cons, List.flatMap_append]
    exact ((declStep_of_probeDecl hstep).shows hquiet.1).append (ih hquiet.2)

theorem shows_of_probeFile {file probed : SourceFile}
    (hrun : ((ofSettings {} tracked).probeFile file).runOn before = (.ok probed, after))
    (hquiet : ∀ text ∈ file.strings, Quiet text) : before.Shows probed.layout after := by
  obtain ⟨hname, hdecls⟩ := SourceFile.quiet_iff.1 hquiet
  obtain ⟨steps, hsteps, hfst, rfl⟩ := probeFile_ok hrun
  have hsteps := shows_of_each hsteps fun step hstep =>
    hdecls step.1 (hfst ▸ List.mem_map_of_mem hstep)
  have hclause : ∀ piece ∈ [.token "package", .blank, .token file.packageName, .newline],
      Piece.Quiet piece := by
    have hpackage : Quiet "package" := .of_length_lt (by decide)
    have hblank : Quiet " " := .of_length_lt (by decide)
    simp [Piece.Quiet, Piece.text?, hname, hpackage, hblank]
  exact (Ledger.Shows.of_quiet hclause).append hsteps

/-- The work on one file of a package. -/
theorem probeSource_ok {plan : ProbePlan} {source probed : NamedSource}
    (h : Probing.runOn (do return { source with file := ← plan.probeFile source.file }) before =
      (.ok probed, after)) :
    probed.name = source.name ∧
      (plan.probeFile source.file).runOn before = (.ok probed.file, after) := by
  obtain ⟨file, between, hfile, hprobed⟩ := Probing.runOn_bind_ok.1 h
  obtain ⟨rfl, rfl⟩ := Probing.runOn_pure_ok.1 hprobed
  exact ⟨rfl, hfile⟩

/-- Reading the texts of the probed files one after another. -/
theorem occurrences_of_each {steps : List (NamedSource × NamedSource)}
    (hrun : Probing.Each
      (fun source => do
        return { source with file := ← (ofSettings {} tracked).probeFile source.file })
      before steps after)
    (hquiet : ∀ step ∈ steps, ∀ text ∈ step.1.file.strings, Quiet text) :
    steps.map (·.2.name) = steps.map (·.1.name) ∧
    ∃ count, after.placed = before.placed + count ∧
      List.Forall₂ (fun id place => probeText id <+: place)
        (List.range' (before.placed + 1) count)
        (steps.flatMap fun step => occurrences tableOpening step.2.file.print.toList) := by
  induction hrun with
  | nil ledger => exact ⟨rfl, 0, rfl, .nil⟩
  | @cons source probed steps before between after hstep _ ih =>
    rw [List.forall_mem_cons] at hquiet
    obtain ⟨hname, hfile⟩ := probeSource_ok hstep
    obtain ⟨first, hfirst, hshown⟩ := shows_of_probeFile hfile hquiet.1
    obtain ⟨hnames, second, hsecond, hrest⟩ := ih hquiet.2
    have hhere := hshown.occurrences_chars probed.file.parted_layout 0
    refine ⟨by simp [hname, hnames], first + second, by omega, ?_⟩
    rw [hfirst, Nat.add_right_comm] at hrest
    rw [← List.range'_append_1, List.flatMap_cons]
    exact List.rel_append hhere hrest

end ProbePlan

/-- Reading the probed files from left to right, the name of the table with a bracket is met once
for each probe, in the order of the numbers, and it is the start of that probe. -/
theorem probePackage_printed [WordHash] {sources : List NamedSource} {tracked : List String}
    {package : ProbedPackage}
    (hquiet : ∀ source ∈ sources, ∀ text ∈ source.file.strings, Quiet text)
    (hrun : probePackage sources {} tracked = .ok package) :
    (package.files.take sources.length).map (·.name) = sources.map (·.name) ∧
    List.Forall₂ (fun id place => probeText id <+: place) (List.range' 1 package.probes)
      ((package.files.take sources.length).flatMap
        fun file => occurrences tableOpening file.text.toList) := by
  obtain ⟨probed, ledger, hprobed, -, hprobes, hfiles⟩ := probePackage_ok hrun
  obtain ⟨steps, hsteps, rfl, rfl⟩ := Probing.each_of_mapM hprobed
  obtain ⟨hnames, count, hcount, hplaces⟩ :=
    ProbePlan.occurrences_of_each hsteps fun step hstep => hquiet step.1 (List.mem_map_of_mem hstep)
  have htake : package.files.take (steps.map Prod.fst).length =
      (steps.map Prod.snd).map fun source => ⟨source.name, source.file.print⟩ := by
    rw [hfiles, List.take_left' (by simp)]
  rw [htake, hprobes, hcount]
  refine ⟨by simpa using hnames, ?_⟩
  simpa [List.flatMap_map] using hplaces

open Standard in
theorem probePackage_printed_sample :
    (∀ source ∈ NamedSource.samplePackage, ∀ text ∈ source.file.strings, Quiet text) ∧
    ∃ package, probePackage NamedSource.samplePackage {} ["init"] = .ok package ∧
      (package.files.take 2).map (·.name) = ["a.go", "b.go"] ∧
      List.Forall₂ (fun id place => probeText id <+: place) (List.range' 1 23)
        ((package.files.take 2).flatMap fun file => occurrences tableOpening file.text.toList) := by
  have hshort : (NamedSource.samplePackage.all fun source =>
      source.file.strings.all fun text => decide (text.toList.length < 16)) = true := rfl
  have hquiet : ∀ source ∈ NamedSource.samplePackage, ∀ text ∈ source.file.strings, Quiet text := by
    simp only [List.all_eq_true, decide_eq_true_iff] at hshort
    exact fun source hsource text htext => .of_length_lt (hshort source hsource text htext)
  obtain ⟨package, hrun, hprobes⟩ : ∃ package,
      probePackage NamedSource.samplePackage {} ["init"] = .ok package ∧ package.probes = 23 :=
    exists_ok_of_toOption (by decide +kernel)
  exact ⟨hquiet, package, hrun, hprobes ▸ probePackage_printed hquiet hrun⟩

end GoProbe
