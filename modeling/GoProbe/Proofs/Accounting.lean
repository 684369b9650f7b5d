import Mathlib
import GoProbe.Proofs.AscendingLists
import GoProbe.Proofs.SignatureRecords

/-!
# Every requested name is accounted for

A report sorts the candidates of a request into records and names. `SourceFile.Accounts` says what
this leaves: which declarations are candidates, in which order (`SourceFile.Selects`), and where
each of them, and each name without a declaration, ends up. Declarations are told apart by their
places in the file, since two of them may be equal.

There are three groups.

* The candidates of the names. Names come one after another; each adds the first declaration that
  it stands for, unless it is there already (`foundBy_append`), and `foundBy_ordered` goes from one
  name to all of them.
* The findings. `FuncDecl.finding_cases` says what a report can find out about one candidate, and
  the findings of a successful report go place by place with the candidates.
* The order of the records: a stable sort keeps candidates of one position in candidate order
  (`pairwise_mergeSort_of_nodup`).
-/

namespace GoProbe

theorem eraseDups_append_singleton {α : Type} [BEq α] [LawfulBEq α] [DecidableEq α]
    (items : List α) (item : α) :
    (items ++ [item]).eraseDups =
      if item ∈ items then items.eraseDups else items.eraseDups ++ [item] := by
  rw [List.eraseDups_append, List.removeAll]
  split
  · next h =>
    rw [List.filter_cons_of_neg (by simpa using h), List.filter_nil, List.eraseDups_nil,
      List.append_nil]
  · next h =>
    rw [List.filter_cons_of_pos (by simpa using h), List.filter_nil, List.eraseDups_cons,
      List.filter_nil, List.eraseDups_nil]

/-! ## The names of a request -/

/-- One name of a request. -/
inductive Ask where
  | function (name : String)
  | method (name : String)

namespace Ask

def name : Ask → String
  | function name => name
  | method name => name

/-- The name stands for the declaration: a function goes by its name, a method by its bare or its
qualified name. -/
def Names : Ask → FuncDecl → Prop
  | function name, func => func.receiver = none ∧ func.name = name
  | method name, func => func.receiver ≠ none ∧ (func.qualifiedName = name ∨ func.name = name)

end Ask

/-- The names of a request, functions first. -/
def FileRequest.asks (request : FileRequest) : List Ask :=
  request.functions.map .function ++ request.methods.map .method

theorem FileRequest.isWholeFile_iff {request : FileRequest} :
    request.isWholeFile = true ↔ request.asks = [] := by
  simp [FileRequest.isWholeFile, FileRequest.asks]

namespace SourceFile

variable {file : SourceFile} {ask : Ask} {place : Nat}

/-- The first declaration that the name stands for is at this place. -/
def FirstAt (file : SourceFile) (ask : Ask) (place : Nat) : Prop :=
  ∃ func, file.functions[place]? = some func ∧ ask.Names func ∧
    ∀ earlier < place, ∀ other, file.functions[earlier]? = some other → ¬ ask.Names other

/-- The place of the first declaration that the name stands for. -/
def find? (file : SourceFile) : Ask → Option Nat
  | .function name => file.functionIndex? name
  | .method name => file.methodIndex? name

theorem find?_eq_findIdx? (file : SourceFile) (ask : Ask) :
    ∃ isFor : FuncDecl → Bool, (∀ func, isFor func = true ↔ ask.Names func) ∧
      file.find? ask = file.functions.findIdx? isFor := by
  cases ask with
  | function name => exact ⟨_, fun func => by simp [Ask.Names], rfl⟩
  | method name => exact ⟨_, fun func => by simp [Ask.Names, Option.isSome_iff_ne_none], rfl⟩

theorem find?_eq_some_iff : file.find? ask = some place ↔ file.FirstAt ask place := by
  obtain ⟨isFor, hisFor, hfind⟩ := find?_eq_findIdx? file ask
  rw [hfind, List.findIdx?_eq_some_iff_getElem]
  constructor
  · rintro ⟨hplace, hfor, hearlier⟩
    refine ⟨file.functions[place], List.getElem?_eq_getElem hplace, (hisFor _).1 hfor, ?_⟩
    intro earlier hlt other hother hnames
    obtain ⟨hbound, rfl⟩ := List.getElem?_eq_some_iff.1 hother
    exact hearlier earlier hlt ((hisFor _).2 hnames)
  · rintro ⟨func, hfunc, hnames, hearlier⟩
    obtain ⟨hplace, rfl⟩ := List.getElem?_eq_some_iff.1 hfunc
    refine ⟨hplace, (hisFor _).2 hnames, ?_⟩
    intro earlier hlt hfor
    have hbound : earlier < file.functions.length := hlt.trans hplace
    exact hearlier earlier hlt _ (List.getElem?_eq_getElem hbound) ((hisFor _).1 hfor)

theorem find?_eq_none_iff : file.find? ask = none ↔ ∀ func ∈ file.functions, ¬ ask.Names func := by
  obtain ⟨isFor, hisFor, hfind⟩ := find?_eq_findIdx? file ask
  rw [hfind, List.findIdx?_eq_none_iff]
  refine forall₂_congr fun func _ => ?_
  rw [← hisFor, Bool.not_eq_true]

/-! ## Candidates -/

/-- Some name of the list stands for the declaration at `place` first, before any does for the one
at `other`. -/
def AskedBefore (file : SourceFile) (asks : List Ask) (place other : Nat) : Prop :=
  ∃ before ask after, asks = before ++ ask :: after ∧ file.FirstAt ask place ∧
    ∀ earlier ∈ ask :: before, ¬ file.FirstAt earlier other

/-- The places of the candidates, in order. Without names these are all functions of the file;
otherwise, each once, the first declarations of the names, in the order of the request. -/
inductive Selects (file : SourceFile) (request : FileRequest) : List Nat → Prop
  | whole (h : request.asks = []) :
    Selects file request (List.range file.functions.length)
  | named {places : List Nat} (h : request.asks ≠ []) (nodup : places.Nodup)
    (mem_iff : ∀ place, place ∈ places ↔ ∃ ask ∈ request.asks, file.FirstAt ask place)
    (ordered : places.Pairwise (file.AskedBefore request.asks)) :
    Selects file request places

/-- The places that the names lead to, each once. -/
def foundBy (file : SourceFile) (asks : List Ask) : List Nat :=
  (asks.filterMap file.find?).eraseDups

theorem requestedIndices_eq (file : SourceFile) (request : FileRequest) :
    file.requestedIndices request = file.foundBy request.asks := by
  rw [requestedIndices, foundBy, FileRequest.asks, List.filterMap_append, List.filterMap_map,
    List.filterMap_map]
  rfl

theorem mem_foundBy {asks : List Ask} :
    place ∈ file.foundBy asks ↔ ∃ ask ∈ asks, file.FirstAt ask place := by
  simp only [foundBy, List.mem_eraseDups, List.mem_filterMap, find?_eq_some_iff]

/-- One more name adds the place it leads to at the end, if that is a new one. -/
theorem foundBy_append (asks : List Ask) (ask : Ask) :
    file.foundBy (asks ++ [ask]) = file.foundBy asks ∨
      ∃ place, file.FirstAt ask place ∧ place ∉ file.foundBy asks ∧
        file.foundBy (asks ++ [ask]) = file.foundBy asks ++ [place] := by
  rw [foundBy, List.filterMap_append]
  cases hfind : file.find? ask with
  | none =>
    left
    rw [List.filterMap_cons_none hfind, List.filterMap_nil, List.append_nil, foundBy]
  | some place =>
    rw [List.filterMap_cons_some hfind, List.filterMap_nil, eraseDups_append_singleton, ← foundBy]
    split
    · exact .inl rfl
    · next hnew =>
      refine .inr ⟨place, find?_eq_some_iff.1 hfind, ?_, rfl⟩
      rwa [foundBy, List.mem_eraseDups]

theorem AskedBefore.append {asks : List Ask} {other : Nat} (h : file.AskedBefore asks place other)
    (more : List Ask) : file.AskedBefore (asks ++ more) place other := by
  obtain ⟨before, ask, after, rfl, hfirst, hother⟩ := h
  exact ⟨before, ask, after ++ more, by simp, hfirst, hother⟩

/-- A place that is found is asked for before one that is not. -/
theorem askedBefore_of_mem {asks : List Ask} {other : Nat} (h : place ∈ file.foundBy asks)
    (hother : other ∉ file.foundBy asks) : file.AskedBefore asks place other := by
  obtain ⟨ask, hask, hfirst⟩ := mem_foundBy.1 h
  obtain ⟨before, after, rfl⟩ := List.append_of_mem hask
  refine ⟨before, ask, after, rfl, hfirst, ?_⟩
  intro earlier hearlier hfound
  refine hother (mem_foundBy.2 ⟨earlier, ?_, hfound⟩)
  rcases List.mem_cons.1 hearlier with rfl | hearlier
  · exact hask
  · exact List.mem_append_left _ hearlier

theorem foundBy_ordered (file : SourceFile) (asks : List Ask) :
    (file.foundBy asks).Nodup ∧ (file.foundBy asks).Pairwise (file.AskedBefore asks) := by
  induction asks using List.reverseRecOn with
  | nil => exact ⟨.nil, .nil⟩
  | append_singleton asks ask ih =>
    obtain ⟨hnodup, hordered⟩ := ih
    have hordered' : (file.foundBy asks).Pairwise (file.AskedBefore (asks ++ [ask])) :=
      hordered.imp fun h => h.append [ask]
    rcases file.foundBy_append asks ask with hsame | ⟨place, -, hnew, hplaces⟩
    · rw [hsame]
      exact ⟨hnodup, hordered'⟩
    · rw [hplaces]
      constructor
      · exact List.nodup_append.2 ⟨hnodup, List.nodup_singleton place,
          fun a ha b hb hab => hnew (List.mem_singleton.1 hb ▸ hab ▸ ha)⟩
      · refine List.pairwise_append.2 ⟨hordered', List.pairwise_singleton _ _, ?_⟩
        intro a ha b hb
        rw [List.mem_singleton.1 hb]
        exact (askedBefore_of_mem ha hnew).append [ask]

/-- The candidates stand at the selected places. -/
theorem exists_selects (file : SourceFile) (request : FileRequest) :
    ∃ places, file.Selects request places ∧
      List.Forall₂ (fun place func => file.functions[place]? = some func) places
        (file.candidates request) := by
  by_cases hwhole : request.isWholeFile = true
  · refine ⟨_, .whole (FileRequest.isWholeFile_iff.1 hwhole), ?_⟩
    rw [candidates, if_pos hwhole, List.forall₂_iff_get]
    refine ⟨List.length_range, ?_⟩
    intro i hi hi'
    simp
  · have hasks : request.asks ≠ [] := fun h => hwhole (FileRequest.isWholeFile_iff.2 h)
    obtain ⟨hnodup, hordered⟩ := file.foundBy_ordered request.asks
    refine ⟨file.foundBy request.asks, .named hasks hnodup (fun _ => mem_foundBy) hordered, ?_⟩
    rw [candidates, if_neg hwhole, requestedIndices_eq]
    have hbound : ∀ place ∈ file.foundBy request.asks,
        ∃ func, file.functions[place]? = some func := by
      intro place hplace
      obtain ⟨ask, -, func, hfunc, -⟩ := mem_foundBy.1 hplace
      exact ⟨func, hfunc⟩
    generalize file.foundBy request.asks = places at hbound
    induction places with
    | nil => exact .nil
    | cons place places ih =>
      rw [List.forall_mem_cons] at hbound
      obtain ⟨⟨func, hfunc⟩, hrest⟩ := hbound
      rw [List.filterMap_cons_some hfunc]
      exact .cons hfunc (ih hrest)

end SourceFile

/-! ## Findings -/

/-- The results of a successful traversal go with the items, and with whatever goes with these. -/
theorem forall₂_of_mapM_eq_ok {ε α β γ : Type} {R : γ → α → Prop} {f : α → Except ε β}
    {keys : List γ} {items : List α} {results : List β} (hkeys : List.Forall₂ R keys items)
    (h : items.mapM f = .ok results) :
    List.Forall₂ (fun key result => ∃ item, R key item ∧ f item = .ok result) keys results := by
  induction hkeys generalizing results with
  | nil =>
    cases h
    exact .nil
  | @cons key item keys items hkey _ ih =>
    rw [List.mapM_cons, bind_eq_ok_iff] at h
    obtain ⟨result, hitem, h⟩ := h
    obtain ⟨rest, hrest, h⟩ := bind_eq_ok_iff.1 h
    cases h
    exact .cons ⟨item, hkey, hitem⟩ (ih hrest)

/-- A report has the record of a supported candidate and the name of one that is not. -/
theorem FuncDecl.finding_cases {func : FuncDecl} {package : String} {finding : Finding}
    (h : func.finding package = .ok finding) :
    (∃ pool record, func.checkSupport = .ok pool ∧ func.record package = .ok record ∧
      finding = .supported record) ∨
    ∃ reason, func.checkSupport = .error (.unsupported reason) ∧
      finding = .unsupported func.qualifiedName := by
  rw [FuncDecl.finding] at h
  split at h
  · next pool hpool =>
    cases hrecord : func.record package with
    | error slot =>
      rw [hrecord] at h
      cases h
    | ok record =>
      rw [hrecord] at h
      cases h
      exact .inl ⟨pool, record, hpool, rfl, rfl⟩
  · next reason hreason =>
    cases h
    exact .inr ⟨reason, hreason, rfl⟩
  · cases h

namespace SourceFile

variable {file : SourceFile} {place : Nat}

/-- The declaration at the place is supported. -/
def SupportedAt (file : SourceFile) (place : Nat) : Prop :=
  ∃ func pool, file.functions[place]? = some func ∧ func.checkSupport = .ok pool

/-- The declaration at the place is supported and has this record. -/
def RecordAt (file : SourceFile) (place : Nat) (record : FunctionRecord) : Prop :=
  ∃ func pool, file.functions[place]? = some func ∧ func.checkSupport = .ok pool ∧
    func.record file.packagePath = .ok record

/-- The declaration at the place is not supported and goes by this name. -/
def RefusedAt (file : SourceFile) (place : Nat) (name : String) : Prop :=
  ∃ func reason, file.functions[place]? = some func ∧
    func.checkSupport = .error (.unsupported reason) ∧ func.qualifiedName = name

/-- What a report finds at a place. -/
inductive FindsAt (file : SourceFile) (place : Nat) : Finding → Prop
  | record {record : FunctionRecord} (h : file.RecordAt place record) :
    FindsAt file place (.supported record)
  | refusal {name : String} (h : file.RefusedAt place name) :
    FindsAt file place (.unsupported name)

theorem RefusedAt.not_supportedAt {name : String} (h : file.RefusedAt place name) :
    ¬ file.SupportedAt place := by
  obtain ⟨func, reason, hfunc, hreason, -⟩ := h
  rintro ⟨func', pool, hfunc', hpool⟩
  cases hfunc.symm.trans hfunc'
  cases hreason.symm.trans hpool

theorem RecordAt.supportedAt {record : FunctionRecord} (h : file.RecordAt place record) :
    file.SupportedAt place := by
  obtain ⟨func, pool, hfunc, hpool, -⟩ := h
  exact ⟨func, pool, hfunc, hpool⟩

theorem findsAt_of_finding {func : FuncDecl} {finding : Finding}
    (hfunc : file.functions[place]? = some func)
    (h : func.finding file.packagePath = .ok finding) : file.FindsAt place finding := by
  rcases FuncDecl.finding_cases h with ⟨pool, record, hpool, hrecord, rfl⟩ | ⟨reason, hreason, rfl⟩
  · exact .record ⟨func, pool, hfunc, hpool, hrecord⟩
  · exact .refusal ⟨func, reason, hfunc, hreason, rfl⟩

/-- The findings of a report go with the places of the candidates. -/
theorem exists_findings {request : FileRequest} {report : FileReport}
    (h : file.report request = .ok report) :
    ∃ places findings, file.Selects request places ∧
      List.Forall₂ file.FindsAt places findings ∧
      report.functions = (findings.filterMap Finding.record?).mergeSort
        (fun a b => a.position.le b.position) ∧
      report.notSupported = ascendingNames (findings.filterMap Finding.unsupportedName?) ∧
      report.notFound = ascendingNames
        (if request.isWholeFile then [] else file.missingNames request) := by
  obtain ⟨places, hselects, hcandidates⟩ := file.exists_selects request
  rw [SourceFile.report, bind_eq_ok_iff] at h
  obtain ⟨findings, hfindings, h⟩ := h
  cases h
  refine ⟨places, findings, hselects, ?_, rfl, rfl, rfl⟩
  refine (forall₂_of_mapM_eq_ok hcandidates hfindings).imp ?_
  rintro place finding ⟨func, hfunc, hfinding⟩
  cases hok : func.finding file.packagePath with
  | error slot =>
    rw [hok] at hfinding
    cases hfinding
  | ok other =>
    rw [hok] at hfinding
    cases hfinding
    exact findsAt_of_finding hfunc hok

/-- The records among the findings, with the places of their candidates; the other candidates are
refused. -/
theorem exists_recordPairs {places : List Nat} {findings : List Finding}
    (h : List.Forall₂ file.FindsAt places findings) :
    ∃ pairs : List (Nat × FunctionRecord),
      pairs.map (·.2) = findings.filterMap Finding.record? ∧
      (pairs.map (·.1)).Sublist places ∧
      (∀ pair ∈ pairs, file.RecordAt pair.1 pair.2) ∧
      ∀ place ∈ places, place ∈ pairs.map (·.1) ∨ ∃ name, file.RefusedAt place name := by
  induction h with
  | nil => exact ⟨[], rfl, .slnil, by simp, by simp⟩
  | @cons place finding places findings hfinds _ ih =>
    obtain ⟨pairs, hrecords, hsublist, hpairs, hplaces⟩ := ih
    cases hfinds with
    | @record record hrecord =>
      refine ⟨(place, record) :: pairs, ?_, hsublist.cons_cons place, ?_, ?_⟩
      · simp only [List.filterMap_cons, Finding.record?, ← hrecords, List.map_cons]
      · exact List.forall_mem_cons.2 ⟨hrecord, hpairs⟩
      · refine List.forall_mem_cons.2 ⟨.inl List.mem_cons_self, ?_⟩
        intro other hother
        exact (hplaces other hother).imp_left (List.mem_cons_of_mem _)
    | @refusal name hrefused =>
      refine ⟨pairs, ?_, hsublist.cons place, hpairs, ?_⟩
      · simp only [List.filterMap_cons, Finding.record?, hrecords]
      · exact List.forall_mem_cons.2 ⟨.inr ⟨name, hrefused⟩, hplaces⟩

theorem mem_unsupportedNames {places : List Nat} {findings : List Finding}
    (h : List.Forall₂ file.FindsAt places findings) (name : String) :
    name ∈ findings.filterMap Finding.unsupportedName? ↔
      ∃ place ∈ places, file.RefusedAt place name := by
  induction h with
  | nil => simp
  | @cons place finding places findings hfinds _ ih =>
    rw [List.exists_mem_cons_iff, ← ih]
    cases hfinds with
    | record hrecord =>
      have hnot : ¬ file.RefusedAt place name := fun h => h.not_supportedAt hrecord.supportedAt
      simp [Finding.unsupportedName?, hnot]
    | @refusal other hrefused =>
      simp only [List.filterMap_cons, Finding.unsupportedName?, List.mem_cons]
      refine or_congr_left ⟨?_, ?_⟩
      · rintro rfl
        exact hrefused
      · intro hname
        obtain ⟨func, reason, hfunc, -, rfl⟩ := hname
        obtain ⟨func', reason', hfunc', -, rfl⟩ := hrefused
        cases hfunc.symm.trans hfunc'
        rfl

theorem mem_missingNames {request : FileRequest} {name : String} :
    name ∈ file.missingNames request ↔
      ∃ ask ∈ request.asks, ask.name = name ∧ ∀ func ∈ file.functions, ¬ ask.Names func := by
  have hfunction : ∀ name, file.functionIndex? name = none ↔
      ∀ func ∈ file.functions, ¬ (Ask.function name).Names func :=
    fun name => (find?_eq_none_iff : file.find? (.function name) = none ↔ _)
  have hmethod : ∀ name, file.methodIndex? name = none ↔
      ∀ func ∈ file.functions, ¬ (Ask.method name).Names func :=
    fun name => (find?_eq_none_iff : file.find? (.method name) = none ↔ _)
  rw [missingNames, FileRequest.asks, List.mem_append, List.mem_filter, List.mem_filter,
    Option.isNone_iff_eq_none, Option.isNone_iff_eq_none, hfunction, hmethod]
  constructor
  · rintro (⟨hname, hnone⟩ | ⟨hname, hnone⟩)
    · exact ⟨.function name, List.mem_append_left _ (List.mem_map_of_mem hname), rfl, hnone⟩
    · exact ⟨.method name, List.mem_append_right _ (List.mem_map_of_mem hname), rfl, hnone⟩
  · rintro ⟨ask, hask, rfl, hnone⟩
    rcases List.mem_append.1 hask with hask | hask
    · obtain ⟨name, hname, rfl⟩ := List.mem_map.1 hask
      exact .inl ⟨hname, hnone⟩
    · obtain ⟨name, hname, rfl⟩ := List.mem_map.1 hask
      exact .inr ⟨hname, hnone⟩

end SourceFile

/-! ## The order of the records -/

namespace Position

theorem le_iff {a b : Position} :
    a.le b = true ↔ a.line < b.line ∨ a.line = b.line ∧ a.column ≤ b.column := by
  simp [le]

theorem le_trans (a b c : Position) (hab : a.le b = true) (hbc : b.le c = true) :
    a.le c = true := by
  rw [le_iff, UInt32.lt_iff_toNat_lt, UInt32.le_iff_toNat_le, ← UInt32.toNat_inj] at *
  omega

theorem le_total (a b : Position) : (a.le b || b.le a) = true := by
  rw [Bool.or_eq_true, le_iff, le_iff]
  simp only [UInt32.lt_iff_toNat_lt, UInt32.le_iff_toNat_le, ← UInt32.toNat_inj]
  omega

theorem le_refl (a : Position) : a.le a = true := by
  simpa using le_total a a

end Position

section Stability

variable {α : Type} {items : List α} {a b : α}

/-- In a list without repetitions an earlier item has the lesser index. -/
theorem idxOf_lt_of_sublist [DecidableEq α] (hnodup : items.Nodup) (h : [a, b].Sublist items) :
    items.idxOf a < items.idxOf b := by
  obtain ⟨before, after, rfl, ha, hb⟩ := List.cons_sublist_iff.1 h
  have hb' : b ∉ before := fun hbefore =>
    (List.nodup_append.1 hnodup).2.2 b hbefore b (List.singleton_sublist.1 hb) rfl
  rw [List.idxOf_append, List.idxOf_append, if_pos ha, if_neg hb']
  have hlt : before.idxOf a < before.length := List.idxOf_lt_length_iff.2 ha
  omega

theorem sublist_or_sublist (ha : a ∈ items) (hb : b ∈ items) (hne : a ≠ b) :
    [a, b].Sublist items ∨ [b, a].Sublist items := by
  obtain ⟨before, after, rfl⟩ := List.append_of_mem ha
  rcases List.mem_append.1 hb with hb | hb
  · exact .inr ((List.singleton_sublist.2 hb).append
      (List.singleton_sublist.2 List.mem_cons_self))
  · have hafter : b ∈ after := by
      rcases List.mem_cons.1 hb with rfl | hb
      · exact absurd rfl hne
      · exact hb
    exact .inl (((List.singleton_sublist.2 hafter).cons_cons a).trans
      (List.sublist_append_right before _))

/-- Sorting leaves items of equal rank in their order. -/
theorem pairwise_mergeSort_of_nodup {le : α → α → Bool}
    (trans : ∀ a b c, le a b → le b c → le a c) (total : ∀ a b, le a b || le b a)
    (hnodup : items.Nodup) :
    (items.mergeSort le).Pairwise fun a b =>
      le a b = true ∧ (le b a = true → [a, b].Sublist items) := by
  classical
  have hperm := List.mergeSort_perm items le
  have hnodup' : (items.mergeSort le).Nodup := hperm.nodup_iff.2 hnodup
  rw [List.pairwise_iff_forall_sublist]
  intro a b hab
  have hle : le a b = true :=
    List.pairwise_iff_forall_sublist.1 (List.pairwise_mergeSort trans total items) hab
  refine ⟨hle, fun hback => ?_⟩
  have hne : a ≠ b := by
    rintro rfl
    exact lt_irrefl _ (idxOf_lt_of_sublist hnodup' hab)
  have ha : a ∈ items := hperm.mem_iff.1 (hab.subset List.mem_cons_self)
  have hb : b ∈ items := hperm.mem_iff.1 (hab.subset (List.mem_cons_of_mem _ List.mem_cons_self))
  rcases sublist_or_sublist ha hb hne with hsame | hother
  · exact hsame
  · have hother' := List.pair_sublist_mergeSort trans total hback hother
    have hlt := idxOf_lt_of_sublist hnodup' hab
    have hgt := idxOf_lt_of_sublist hnodup' hother'
    omega

end Stability

/-! ## The account -/

namespace SourceFile

variable {file : SourceFile} {request : FileRequest} {report : FileReport}

/-- `place` comes before `other` among the records: by position, and by the order of the
candidates where the positions are equal. -/
def Precedes (file : SourceFile) (places : List Nat) (place other : Nat) : Prop :=
  ∀ func func', file.functions[place]? = some func → file.functions[other]? = some func' →
    func.position.le func'.position = true ∧
      (func.position = func'.position → [place, other].Sublist places)

/-- Where a report puts the candidates at `places` and the names that have no declaration. -/
structure Accounts (file : SourceFile) (request : FileRequest) (places : List Nat)
    (report : FileReport) : Prop where
  selects : file.Selects request places
  /-- The records are those of the supported candidates, each once and in order. -/
  records : ∃ kept : List Nat, kept.Nodup ∧
    (∀ place, place ∈ kept ↔ place ∈ places ∧ file.SupportedAt place) ∧
    List.Forall₂ file.RecordAt kept report.functions ∧ kept.Pairwise (file.Precedes places)
  /-- The other candidates are not supported. -/
  refused : ∀ place ∈ places, ¬ file.SupportedAt place → ∃ name, file.RefusedAt place name
  notSupported : ∀ name, name ∈ report.notSupported ↔ ∃ place ∈ places, file.RefusedAt place name
  notSupported_ascending : report.notSupported.Pairwise (· < ·)
  notFound : ∀ name, name ∈ report.notFound ↔
    ∃ ask ∈ request.asks, ask.name = name ∧ ∀ func ∈ file.functions, ¬ ask.Names func
  notFound_ascending : report.notFound.Pairwise (· < ·)

theorem Selects.nodup {places : List Nat} (h : file.Selects request places) : places.Nodup := by
  cases h with
  | whole _ => exact List.nodup_range
  | named _ nodup _ _ => exact nodup

/-- A record keeps the position of its declaration. -/
theorem position_of_recordAt {place : Nat} {func : FuncDecl} {record : FunctionRecord}
    (hfunc : file.functions[place]? = some func) (h : file.RecordAt place record) :
    record.position = func.position := by
  obtain ⟨other, pool, hother, hpool, hrecord⟩ := h
  cases hfunc.symm.trans hother
  obtain ⟨made, hmade, -, -, hposition, -⟩ := FuncDecl.record_of_ok hpool file.packagePath
  cases hmade.symm.trans hrecord
  exact hposition

/-- The places of the records in the order of the report. -/
theorem exists_kept {places : List Nat} {pairs : List (Nat × FunctionRecord)}
    (hnodup : places.Nodup) (hsublist : (pairs.map (·.1)).Sublist places)
    (hpairs : ∀ pair ∈ pairs, file.RecordAt pair.1 pair.2) :
    ∃ kept : List Nat, kept.Perm (pairs.map (·.1)) ∧
      List.Forall₂ file.RecordAt kept
        ((pairs.map (·.2)).mergeSort fun a b => a.position.le b.position) ∧
      kept.Pairwise (file.Precedes places) := by
  have hsorted := List.mergeSort_perm pairs fun a b => a.2.position.le b.2.position
  have hstable : (pairs.mergeSort fun a b => a.2.position.le b.2.position).Pairwise fun a b =>
      a.2.position.le b.2.position = true ∧
        (b.2.position.le a.2.position = true → [a, b].Sublist pairs) :=
    pairwise_mergeSort_of_nodup (fun _ _ _ => Position.le_trans _ _ _)
      (fun _ _ => Position.le_total _ _) (List.Nodup.of_map _ (hnodup.sublist hsublist))
  have hrecords : (pairs.map (·.2)).mergeSort (fun a b => a.position.le b.position) =
      (pairs.mergeSort fun a b => a.2.position.le b.2.position).map (·.2) := by
    refine (List.map_mergeSort ?_).symm
    intro a _ b _
    rfl
  refine ⟨(pairs.mergeSort fun a b => a.2.position.le b.2.position).map (·.1),
    hsorted.map _, ?_, ?_⟩
  · rw [hrecords, List.forall₂_map_left_iff, List.forall₂_map_right_iff, List.forall₂_same]
    intro pair hpair
    exact hpairs pair (hsorted.mem_iff.1 hpair)
  · rw [List.pairwise_map]
    refine hstable.imp_of_mem ?_
    intro a b ha hb hab func func' hfunc hfunc'
    have hposition := position_of_recordAt hfunc (hpairs a (hsorted.mem_iff.1 ha))
    have hposition' := position_of_recordAt hfunc' (hpairs b (hsorted.mem_iff.1 hb))
    rw [hposition, hposition'] at hab
    refine ⟨hab.1, fun heq => ?_⟩
    have hback : func'.position.le func.position = true := heq ▸ Position.le_refl _
    exact ((hab.2 hback).map (·.1)).trans hsublist

/-- A report accounts for every candidate and for every name without a declaration. -/
theorem report_accounts (h : file.report request = .ok report) :
    ∃ places, file.Accounts request places report := by
  obtain ⟨places, findings, hselects, hfinds, hfunctions, hnotSupported, hnotFound⟩ :=
    exists_findings h
  obtain ⟨pairs, hrecords, hsublist, hpairs, hplaces⟩ := exists_recordPairs hfinds
  obtain ⟨kept, hperm, hkept, hordered⟩ := exists_kept hselects.nodup hsublist hpairs
  have hsupported : ∀ place ∈ pairs.map (·.1), file.SupportedAt place := by
    intro place hplace
    obtain ⟨pair, hpair, rfl⟩ := List.mem_map.1 hplace
    exact (hpairs pair hpair).supportedAt
  rw [hrecords, ← hfunctions] at hkept
  refine ⟨places, hselects, ⟨kept, ?_, ?_, hkept, hordered⟩, ?_, ?_, ?_, ?_, ?_⟩
  · exact hperm.nodup_iff.2 (hselects.nodup.sublist hsublist)
  · intro place
    rw [hperm.mem_iff]
    constructor
    · intro hplace
      exact ⟨hsublist.subset hplace, hsupported place hplace⟩
    · rintro ⟨hplace, hat⟩
      rcases hplaces place hplace with hkept | ⟨name, hrefused⟩
      · exact hkept
      · exact absurd hat hrefused.not_supportedAt
  · intro place hplace hnot
    exact (hplaces place hplace).resolve_left fun hkept => hnot (hsupported place hkept)
  · intro name
    rw [hnotSupported, mem_ascendingNames, mem_unsupportedNames hfinds]
  · rw [hnotSupported]
    exact pairwise_ascendingNames _
  · intro name
    rw [hnotFound, mem_ascendingNames, ← mem_missingNames]
    by_cases hwhole : request.isWholeFile = true
    · rw [if_pos hwhole, mem_missingNames, FileRequest.isWholeFile_iff.1 hwhole]
      simp
    · rw [if_neg hwhole]
  · rw [hnotFound]
    exact pairwise_ascendingNames _

/-- Two functions, the later one first, and two methods of one bare name. -/
def sampleGeometry : SourceFile where
  packageName := "geometry"
  packagePath := "example.com/geometry"
  decls := [.func (sum "Sub" 10 none), .func (sum "Add" 3 none),
    .func (sum "Area" 20 (some "Rect")), .func (sum "Area" 30 (some "Disc"))]
where
  sum (name : String) (line : UInt32) (receiver : Option String) : FuncDecl :=
    { name
      receiver := receiver.map fun type => .plain ["r"] (.name type)
      typeParams := []
      signature :=
        { params := [⟨[{ name := "a" }, { name := "b" }], .name "int", none, some (.basic "int")⟩]
          results := [⟨[], .name "int", none, some (.basic "int")⟩] }
      body := some []
      position := ⟨line, 1⟩ }

/-- A request with repeated, bare, qualified and unknown names. -/
def sampleRequest : FileRequest where
  path := "geometry.go"
  functions := ["Sub", "Add", "Area", "Sub"]
  methods := ["Area", "Rect.Area", "Disc.Area", "Disc.Rim"]

theorem report_accounts_sample :
    ∃ report, sampleGeometry.report sampleRequest = .ok report ∧
      ∃ places, sampleGeometry.Accounts sampleRequest places report := by
  obtain ⟨report, hreport⟩ : ∃ report, sampleGeometry.report sampleRequest = .ok report :=
    ⟨_, rfl⟩
  exact ⟨report, hreport, report_accounts hreport⟩

end SourceFile

end GoProbe
