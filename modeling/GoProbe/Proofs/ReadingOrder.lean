import GoProbe.Probe.Hash
import GoProbe.Proofs.Growth
import GoProbe.Proofs.ProbeForm
import GoProbe.Proofs.ProbingRuns

/-!
# Probes in the order of the text

The parts of a tree take their probes in the order in which the text shows them, so reading the
probes of a placed tree from left to right gives consecutive numbers. `ProbePlan.reads_place` says
this of any node: the ids of the placed node are those of the numbers that placement has used for
it. It goes from the parts to the whole along `Grown`.
-/

namespace GoProbe

open Placing (next)

/-! ## Consecutive ids -/

namespace IdPolicy

variable [WordHash]

/-- The ids of `count` probes after the first `placed`. -/
def idsFrom (policy : IdPolicy) (placed count : Nat) : List Nat :=
  (List.range' (placed + 1) count).map policy.id

variable (policy : IdPolicy)

@[simp] theorem idsFrom_zero (placed : Nat) : policy.idsFrom placed 0 = [] := rfl

theorem idsFrom_one (placed : Nat) : policy.idsFrom placed 1 = [policy.id (placed + 1)] := rfl

theorem idsFrom_append (placed first second : Nat) :
    policy.idsFrom placed first ++ policy.idsFrom (placed + first) second =
      policy.idsFrom placed (first + second) := by
  rw [idsFrom, idsFrom, idsFrom, ← List.map_append, Nat.add_right_comm, List.range'_append_1]

theorem idsFrom_succ (placed count : Nat) :
    policy.idsFrom placed (1 + count) =
      policy.id (placed + 1) :: policy.idsFrom (placed + 1) count := by
  rw [← idsFrom_append, idsFrom_one, List.singleton_append]

theorem idsBetween_add (placed count : Nat) :
    policy.idsBetween placed (placed + count) = policy.idsFrom placed count := by
  rw [idsBetween, Nat.add_sub_cancel_left, idsFrom]

/-- The hashed policy keeps the low bits of the hash. -/
theorem id_hashed (bits number : Nat) :
    (hashed bits).id number = (WordHash.hash number.toUInt64).toNat % 2 ^ bits := by
  rw [id, lowBits]
  split
  · rfl
  · next hbits =>
    have hpow : 2 ^ 64 ≤ 2 ^ bits := Nat.pow_le_pow_right (by decide) (by omega)
    exact (Nat.mod_eq_of_lt ((WordHash.hash number.toUInt64).toNat_lt.trans_le hpow)).symm

/-- The sequential policy counts. -/
theorem map_id_sequential (numbers : List Nat) : numbers.map sequential.id = numbers :=
  List.map_id'' (fun _ => rfl) numbers

end IdPolicy

/-! ## Reading a placed tree -/

theorem Backend.idsOf_flatMap {backend : Backend} {α : Type} (items : List α)
    (walk : α → List Node) :
    backend.idsOf (items.flatMap walk) = items.flatMap fun item => backend.idsOf (walk item) :=
  List.filterMap_flatMap

/-- A placed node is no probe unless the node was one. -/
theorem Node.probeId?_place {backend : Backend} {probe : Nat → Stmt} {node : Node} {placed : Nat}
    (h : node.probeId? backend = none) : (node.place probe placed).1.probeId? backend = none := by
  cases node with
  | stmt stmt =>
    have hform : backend.isProbe stmt = false := by
      rw [Backend.isProbe, Option.isSome_eq_false_iff, Option.isNone_iff_eq_none]
      exact h
    have hplaced : backend.isProbe (stmt.place (next probe) placed).1 = false :=
      Backend.isProbe_place hform
    rw [Backend.isProbe, Option.isSome_eq_false_iff, Option.isNone_iff_eq_none] at hplaced
    exact hplaced
  | _ => rfl

namespace ProbePlan

variable [WordHash] {plan : ProbePlan} {placed between last : Nat}

/-- What is read of the nodes are the ids of the numbers used for them. -/
def Reads (plan : ProbePlan) (placed : Nat) (nodes : List Node) (last : Nat) : Prop :=
  ∃ count, last = placed + count ∧ plan.backend.idsOf nodes = plan.policy.idsFrom placed count

theorem Reads.of_free {nodes : List Node} (h : plan.backend.idsOf nodes = []) :
    plan.Reads placed nodes placed :=
  ⟨0, rfl, h⟩

theorem Reads.append {left right : List Node} (hleft : plan.Reads placed left between)
    (hright : plan.Reads between right last) : plan.Reads placed (left ++ right) last := by
  obtain ⟨first, rfl, hleft⟩ := hleft
  obtain ⟨second, rfl, hright⟩ := hright
  refine ⟨first + second, Nat.add_assoc _ _ _, ?_⟩
  rw [Backend.idsOf_append, hleft, hright, IdPolicy.idsFrom_append]

theorem Reads.cons {node : Node} {nodes : List Node} (hnode : node.probeId? plan.backend = none)
    (h : plan.Reads placed nodes last) : plan.Reads placed (node :: nodes) last := by
  have hfree : plan.backend.idsOf [node] = [] := by simp [hnode]
  exact (Reads.of_free hfree).append h

theorem reads_probe (placed : Nat) :
    plan.Reads placed ((plan.probe (placed + 1)).walk everywhere) (placed + 1) :=
  ⟨1, rfl, plan.idsOf_walk_probe _⟩

theorem reads_asPart {part : Node} (h : part ∈ (plan.probe (placed + 1)).asPart) :
    plan.Reads placed (part.walk everywhere) (placed + 1) := by
  have hblock : plan.Reads placed (Stmt.walkList everywhere [plan.probe (placed + 1)])
      (placed + 1) := by
    simpa [Stmt.walkList] using plan.reads_probe placed
  simp only [Stmt.asPart, List.mem_cons, List.not_mem_nil, or_false] at h
  rcases h with rfl | rfl | rfl
  · exact plan.reads_probe placed
  · exact .cons rfl hblock
  · exact .cons rfl hblock

/-- The parts of a node are read in order. -/
theorem reads_of_grown {parts parts' : List Node}
    (h : Grown plan.probe parts placed parts' last)
    (hfree : ∀ part ∈ parts, plan.backend.idsOf (part.walk everywhere) = [])
    (hparts : ∀ part ∈ parts, ∀ placed, plan.Reads placed
      ((part.place plan.probe placed).1.walk everywhere) (part.place plan.probe placed).2) :
    plan.Reads placed (parts'.flatMap (Node.walk everywhere)) last := by
  induction h with
  | nil => exact .of_free rfl
  | kept part _ ih =>
    rw [List.forall_mem_cons] at hfree hparts
    exact .append (.of_free hfree.1) (ih hfree.2 hparts.2)
  | placed part _ ih =>
    rw [List.forall_mem_cons] at hfree hparts
    exact .append (hparts.1 _) (ih hfree.2 hparts.2)
  | added hpart _ ih => exact .append (reads_asPart hpart) (ih hfree hparts)
  | @nested stmt parts parts' placed _ _ ih =>
    rw [List.forall_mem_cons] at hfree hparts
    have hstmt := hparts.1 (placed + 1)
    have hhead : (Node.stmt (.ifElse (stmt.place (next plan.probe) (placed + 1)).1)).probeId?
        plan.backend = none := Backend.probeId?_ifElse_place _ stmt
    have hblock := (plan.reads_probe placed).append (.cons hhead hstmt)
    refine .append (.cons rfl ?_) (ih hfree.2 hparts.2)
    simpa [Stmt.walkList, Stmt.walk, Node.place, Node.walk] using hblock

/-- A tree without probes reads, after a placement, as the numbers used for it. -/
theorem reads_place (node : Node) (hfree : plan.backend.idsOf (node.walk everywhere) = [])
    (placed : Nat) :
    plan.Reads placed ((node.place plan.probe placed).1.walk everywhere)
      (node.place plan.probe placed).2 := by
  induction node using Node.induct generalizing placed with
  | step node ih =>
    rw [Node.walk_eq_parts, if_pos node.enters_everywhere, Backend.idsOf_cons_eq_nil,
      Backend.idsOf_flatMap, List.flatMap_eq_nil_iff] at hfree
    rw [Node.walk_eq_parts, if_pos (Node.enters_everywhere _)]
    refine .cons (Node.probeId?_place hfree.1) ?_
    exact reads_of_grown (node.grown_place placed) hfree.2 fun part hpart =>
      ih part hpart (hfree.2 part hpart)

theorem idsOf_placeBody {body : Block}
    (hfree : plan.backend.idsOf (Stmt.walkList everywhere body) = []) (placed : Nat) :
    plan.backend.idsOf (Stmt.walkList everywhere (Stmt.placeBody (next plan.probe) body placed).1) =
      plan.policy.idsFrom placed (Stmt.probeCount (Stmt.normalizeList body)) := by
  obtain ⟨count, hcount, hids⟩ := plan.reads_place (.block body) hfree placed
  have hbody : placed + count = placed + Stmt.probeCount (Stmt.normalizeList body) :=
    hcount.symm.trans (Stmt.placeBody_snd plan.probe body placed)
  rw [Nat.add_left_cancel hbody] at hids
  exact hids

end ProbePlan

/-! ## Reading declarations -/

section

open Backend (idsOf_append_eq_nil idsOf_cons_eq_nil)

variable {backend : Backend}

theorem Field.idsOf_walk (field : Field) :
    backend.idsOf (field.walk everywhere) = backend.idsOf (field.type.walk everywhere) := by
  obtain ⟨names, type, tag, resolved⟩ := field
  simp [Field.walk, Node.probeId?]

theorem Field.idsOf_walkList_eq_nil {fields : List Field} :
    backend.idsOf (Field.walkList everywhere fields) = [] ↔
      ∀ field ∈ fields, backend.idsOf (field.type.walk everywhere) = [] := by
  induction fields with
  | nil => simp [Field.walkList]
  | cons field rest ih =>
    rw [Field.walkList, idsOf_append_eq_nil, ih, Field.idsOf_walk, List.forall_mem_cons]

theorem FuncType.walk_eq (into : Expr → Bool) (signature : FuncType) :
    signature.walk into =
      Field.walkList into signature.params ++ Field.walkList into signature.results := by
  obtain ⟨params, results⟩ := signature
  rw [FuncType.walk]

theorem Field.type_withName (field : Field) : field.withName.type = field.type := by
  unfold Field.withName
  split <;> rfl

theorem mem_insertBeforeVariadic {field other : Field} {variadic : Bool} {params : List Field}
    (h : other ∈ insertBeforeVariadic field variadic params) : other = field ∨ other ∈ params := by
  unfold insertBeforeVariadic at h
  split at h
  · rcases List.mem_append.1 h with h | h
    · exact .inr (List.mem_of_mem_dropLast h)
    · rcases List.mem_cons.1 h with h | h
      · exact .inl h
      · exact .inr (List.mem_of_getLast? (Option.mem_toList.1 h))
  · simpa [or_comm] using h

theorem Decl.idsOf_walk_func (func : FuncDecl) :
    backend.idsOf ((Decl.func func).walk everywhere) =
      backend.idsOf (func.walkParts everywhere) := by
  simp [Decl.walk, Node.probeId?]

/-- The parts of a function before its body. -/
def FuncDecl.walkHead (into : Expr → Bool) (func : FuncDecl) : List Node :=
  func.receiver.elim [] (Field.walk into) ++ Field.walkList into func.typeParams ++
    func.signature.walk into

theorem FuncDecl.idsOf_walkParts (func : FuncDecl) :
    backend.idsOf (func.walkParts everywhere) =
      backend.idsOf (func.walkHead everywhere) ++
        backend.idsOf (Stmt.walkList everywhere (func.body.getD [])) := by
  rw [FuncDecl.walkParts, ← FuncDecl.walkHead, Backend.idsOf_append]
  cases func.body <;> simp [Stmt.walkBlock, Stmt.walkList, Node.probeId?]

/-- The head of the copy that takes a trace has no ids if that of the function has none. -/
theorem FuncDecl.idsOf_walkHead_trace {func : FuncDecl} (parameter name : String)
    (variadic : Bool) (body : Option Block)
    (hfree : backend.idsOf (func.walkHead everywhere) = []) :
    backend.idsOf (FuncDecl.walkHead everywhere
      { func with
        name
        body
        signature :=
          { func.signature with
            params := insertBeforeVariadic (Backend.traceField parameter) variadic
              (func.signature.params.map Field.withName) } }) = [] := by
  simp only [FuncDecl.walkHead, FuncType.walk_eq, idsOf_append_eq_nil,
    Field.idsOf_walkList_eq_nil] at hfree ⊢
  refine ⟨hfree.1, fun field hfield => ?_, hfree.2.2⟩
  rcases mem_insertBeforeVariadic hfield with rfl | hfield
  · simp [Backend.traceField, Field.plain, Expr.sliceOf, Expr.name, Expr.walk, Expr.walkOption,
      Node.probeId?]
  · obtain ⟨param, hparam, rfl⟩ := List.mem_map.1 hfield
    rw [Field.type_withName]
    exact hfree.2.1 param hparam

/-- What stands in place of a function is read in the body of the probed copy only. -/
theorem Backend.idsOf_finalize {func : FuncDecl} {placed : Block}
    (hfree : backend.idsOf ((Decl.func func).walk everywhere) = []) :
    backend.idsOf ((backend.finalize func { func with body := some placed }).decls.flatMap
        (Decl.walk everywhere)) = backend.idsOf (Stmt.walkList everywhere placed) := by
  have hhead : backend.idsOf (func.walkHead everywhere) = [] := by
    rw [Decl.idsOf_walk_func, FuncDecl.idsOf_walkParts, List.append_eq_nil_iff] at hfree
    exact hfree.1
  cases backend with
  | table tableName fileName =>
    have hcopy : (table tableName fileName).idsOf
        (FuncDecl.walkHead everywhere { func with body := some placed }) = [] := hhead
    rw [Backend.finalize, Patch.decls, List.flatMap_singleton, Decl.idsOf_walk_func,
      FuncDecl.idsOf_walkParts, hcopy]
    rfl
  | trace parameter maxLength =>
    rw [Backend.finalize, Patch.decls, List.flatMap_cons, Backend.idsOf_append, hfree,
      List.flatMap_singleton, Decl.idsOf_walk_func, FuncDecl.idsOf_walkParts,
      FuncDecl.idsOf_walkHead_trace _ _ _ _ hhead]
    rfl

end

/-! ## Reading a run -/

namespace ProbePlan

variable [WordHash] {plan : ProbePlan}

theorem DeclStep.reads {decl : Decl} {decls : List Decl} {before after : Ledger}
    (hstep : plan.DeclStep before decl decls after)
    (hfree : plan.backend.idsOf (decl.walk everywhere) = []) :
    plan.Reads before.placed (decls.flatMap (Decl.walk everywhere)) after.placed := by
  cases hstep with
  | keptFunc _ => exact .of_free (by simpa using hfree)
  | keptGen _ => exact .of_free (by simpa using hfree)
  | @func func body hbody =>
    have hparts := hfree
    rw [Decl.idsOf_walk_func, FuncDecl.idsOf_walkParts, List.append_eq_nil_iff,
      body_of_bodyToProbe? hbody] at hparts
    refine ⟨Stmt.probeCount (Stmt.normalizeList body), Stmt.placeBody_snd _ _ _, ?_⟩
    rw [Backend.idsOf_finalize hfree]
    exact idsOf_placeBody hparts.2 before.placed
  | @gen decl _ =>
    rw [Decl.walk, Backend.idsOf_cons_eq_nil] at hfree
    rw [List.flatMap_singleton, Decl.walk]
    exact .cons rfl (reads_place (.gen decl) hfree.2 before.placed)

/-- A run over declarations without probes reads as the numbers it has used. -/
theorem reads_of_each {steps : List (Decl × List Decl)} {before after : Ledger}
    (hrun : Probing.Each plan.probeDecl before steps after)
    (hfree : ∀ step ∈ steps, plan.backend.idsOf (step.1.walk everywhere) = []) :
    plan.Reads before.placed ((steps.flatMap Prod.snd).flatMap (Decl.walk everywhere))
      after.placed := by
  induction hrun with
  | nil ledger => exact .of_free rfl
  | cons hstep _ ih =>
    rw [List.forall_mem_cons] at hfree
    rw [List.flatMap_cons, List.flatMap_append]
    exact ((declStep_of_probeDecl hstep).reads hfree.1).append (ih hfree.2)

end ProbePlan

/-! ## Reading a package -/

/-- The ids in the files, file by file. -/
def Backend.idsOfSources (backend : Backend) (sources : List NamedSource) : List Nat :=
  sources.flatMap fun source => backend.idsOf (source.file.walk everywhere)

theorem Backend.idsOfSources_eq (backend : Backend) (sources : List NamedSource) :
    backend.idsOfSources sources =
      backend.idsOf ((sources.flatMap (·.file.decls)).flatMap (Decl.walk everywhere)) := by
  rw [List.flatMap_assoc, Backend.idsOf_flatMap]
  rfl

/-- A run meets no probe if the files have none. -/
theorem Backend.free_of_sources {backend : Backend} {sources : List NamedSource}
    {steps : List (Decl × List Decl)}
    (hfree : ∀ source ∈ sources, backend.Free (source.file.walk everywhere))
    (hsteps : steps.map Prod.fst = sources.flatMap (·.file.decls)) :
    ∀ step ∈ steps, backend.idsOf (step.1.walk everywhere) = [] := by
  intro step hstep
  have hdecl : step.1 ∈ sources.flatMap (·.file.decls) := by
    rw [← hsteps]
    exact List.mem_map_of_mem hstep
  obtain ⟨source, hsource, hdecl⟩ := List.mem_flatMap.1 hdecl
  have hfile := Backend.free_iff.1 (hfree source hsource)
  rw [SourceFile.walk, Backend.idsOf_flatMap, List.flatMap_eq_nil_iff] at hfile
  exact hfile step.1 hdecl

theorem Backend.free_samplePackage (backend : Backend) :
    ∀ source ∈ NamedSource.samplePackage, backend.Free (source.file.walk everywhere) := by
  intro source hsource
  rw [Backend.free_iff]
  simp only [NamedSource.samplePackage, List.mem_cons, List.not_mem_nil, or_false] at hsource
  rcases hsource with rfl | rfl <;> cases backend <;> rfl

/-- Reading the probed files of a package in order gives the ids of its probes, each once, in the
order of their numbers. The id of a number is the number itself under the sequential policy, and the
low bits of its hash under the hashed one. -/
theorem probePackage_idsOfSources [WordHash] {sources : List NamedSource}
    {settings : ProbeSettings} {tracked : List String} {package : ProbedPackage}
    (hfree : ∀ source ∈ sources, settings.backendOf.Free (source.file.walk everywhere))
    (hrun : probePackage sources settings tracked = .ok package) :
    ∃ probed ledger,
      ((ProbePlan.ofSettings settings tracked).probeSources sources).runOn {} =
        (.ok probed, ledger) ∧
      package.files = probed.map (fun source => ⟨source.name, source.file.print⟩) ++
        (settings.backendOf.supportFiles package.name).map
          (fun file => ⟨file.name, file.file.print⟩) ∧
      settings.backendOf.idsOfSources probed =
        (List.range' 1 package.probes).map settings.policy.id ∧
      (settings.idPolicy = .sequential →
        settings.backendOf.idsOfSources probed = List.range' 1 package.probes ∧
        (settings.backendOf.idsOfSources probed).Nodup) ∧
      (settings.idPolicy = .hashed →
        settings.backendOf.idsOfSources probed = (List.range' 1 package.probes).map fun number =>
          (WordHash.hash number.toUInt64).toNat % 2 ^ settings.hashBucketBits) := by
  obtain ⟨probed, ledger, hprobed, -, hprobes, hfiles⟩ := probePackage_ok hrun
  have hids : settings.backendOf.idsOfSources probed =
      (List.range' 1 package.probes).map settings.policy.id := by
    obtain ⟨steps, hsteps, hfst, hsnd⟩ := ProbePlan.probeSources_ok hprobed
    obtain ⟨count, hcount, hreads⟩ :=
      ProbePlan.reads_of_each hsteps (Backend.free_of_sources hfree hfst)
    rw [hsnd] at hreads
    rw [Backend.idsOfSources_eq, hprobes, hcount, Nat.zero_add]
    exact hreads
  refine ⟨probed, ledger, hprobed, hfiles, hids, fun hsequential => ?_, fun hhashed => ?_⟩
  · have hrange : settings.backendOf.idsOfSources probed = List.range' 1 package.probes := by
      simp [hids, ProbeSettings.policy, hsequential, IdPolicy.map_id_sequential]
    exact ⟨hrange, hrange ▸ List.nodup_range'⟩
  · have hpolicy : settings.policy = .hashed settings.hashBucketBits := by
      rw [ProbeSettings.policy, hhashed]
    rw [hids, hpolicy]
    exact List.map_congr_left fun number _ => IdPolicy.id_hashed _ number

open Standard in
theorem probePackage_idsOfSources_sample :
    ∃ package, probePackage NamedSource.samplePackage {} ["init"] = .ok package ∧
      package.probes = 23 ∧
      ∃ probed ledger,
        ((ProbePlan.ofSettings {} ["init"]).probeSources NamedSource.samplePackage).runOn {} =
          (.ok probed, ledger) ∧
        ({} : ProbeSettings).backendOf.idsOfSources probed = List.range' 1 23 := by
  obtain ⟨package, hrun, hprobes⟩ : ∃ package,
      probePackage NamedSource.samplePackage {} ["init"] = .ok package ∧ package.probes = 23 :=
    exists_ok_of_toOption (by decide +kernel)
  obtain ⟨probed, ledger, hprobed, -, -, hsequential, -⟩ :=
    probePackage_idsOfSources (Backend.free_samplePackage _) hrun
  exact ⟨package, hrun, hprobes, probed, ledger, hprobed, hprobes ▸ (hsequential rfl).1⟩

end GoProbe
