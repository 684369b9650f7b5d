import Mathlib
import GoProbe.Proofs.Accounting

/-!
# A report depends on the set of names only

Two requests that name the same functions and the same methods, in any order and any number of
times, get the same report, if no two declarations stand at one position. A request for the whole
file is one for all names of the file.

There are three groups.

* Findings in another order. A traversal of the candidates in another order fails for both or finds
  the same things in another order (`mapM_perm`).
* Records in one order. Records of distinct positions have one sorted order
  (`mergeSort_eq_of_perm`), and names are listed in ascending order anyway.
* The places of the candidates. The same names lead to the same places (`Selects.mem_iff_of_asks`),
  and all names of a file lead to all places (`NamesAll.mem_places_iff`).
-/

namespace GoProbe

/-! ## Findings in another order -/

section Traversals

variable {ε α β : Type} {f : α → Except ε β} {item : α} {items others : List α} {results : List β}

theorem mapM_cons_eq_ok_iff :
    (item :: items).mapM f = .ok results ↔
      ∃ b rest, f item = .ok b ∧ items.mapM f = .ok rest ∧ results = b :: rest := by
  rw [List.mapM_cons, bind_eq_ok_iff]
  constructor
  · rintro ⟨b, hitem, h⟩
    obtain ⟨rest, hrest, h⟩ := bind_eq_ok_iff.1 h
    cases h
    exact ⟨b, rest, hitem, hrest, rfl⟩
  · rintro ⟨b, rest, hitem, hrest, rfl⟩
    exact ⟨b, hitem, bind_eq_ok_iff.2 ⟨rest, hrest, rfl⟩⟩

/-- A traversal that succeeds does so in any order, with its results in another order. -/
theorem mapM_perm (h : items.Perm others) (hok : items.mapM f = .ok results) :
    ∃ results', others.mapM f = .ok results' ∧ results.Perm results' := by
  induction h generalizing results with
  | nil => exact ⟨results, hok, .refl _⟩
  | cons item _ ih =>
    obtain ⟨b, rest, hitem, hrest, rfl⟩ := mapM_cons_eq_ok_iff.1 hok
    obtain ⟨rest', hrest', hperm⟩ := ih hrest
    exact ⟨b :: rest', mapM_cons_eq_ok_iff.2 ⟨b, rest', hitem, hrest', rfl⟩, hperm.cons b⟩
  | swap item next items =>
    obtain ⟨b, tail, hnext, htail, rfl⟩ := mapM_cons_eq_ok_iff.1 hok
    obtain ⟨a, rest, hitem, hrest, rfl⟩ := mapM_cons_eq_ok_iff.1 htail
    refine ⟨a :: b :: rest, ?_, .swap a b rest⟩
    exact mapM_cons_eq_ok_iff.2
      ⟨a, b :: rest, hitem, mapM_cons_eq_ok_iff.2 ⟨b, rest, hnext, hrest, rfl⟩, rfl⟩
  | trans _ _ ih ih' =>
    obtain ⟨results', hok', hperm⟩ := ih hok
    obtain ⟨results'', hok'', hperm'⟩ := ih' hok'
    exact ⟨results'', hok'', hperm.trans hperm'⟩

end Traversals

/-! ## Records in one order -/

theorem Position.le_antisymm {a b : Position} (hab : a.le b = true) (hba : b.le a = true) :
    a = b := by
  rw [Position.le_iff, UInt32.lt_iff_toNat_lt, UInt32.le_iff_toNat_le, ← UInt32.toNat_inj] at *
  have hline : a.line = b.line := UInt32.toNat_inj.1 (by omega)
  have hcolumn : a.column = b.column := UInt32.toNat_inj.1 (by omega)
  cases a
  cases b
  exact Position.mk.injEq .. ▸ ⟨hline, hcolumn⟩

/-- Records of distinct positions have one order by position. -/
theorem mergeSort_eq_of_perm {records others : List FunctionRecord} (h : records.Perm others)
    (hpositions : (records.map (·.position)).Nodup) :
    records.mergeSort (fun a b => a.position.le b.position) =
      others.mergeSort fun a b => a.position.le b.position := by
  have hsorted (items : List FunctionRecord) :
      (items.mergeSort fun a b => a.position.le b.position).Pairwise
        fun a b => a.position.le b.position = true :=
    List.pairwise_mergeSort (fun a b c => Position.le_trans a.position b.position c.position)
      (fun a b => Position.le_total a.position b.position) items
  refine List.Perm.eq_of_pairwise ?_ (hsorted records) (hsorted others)
    ((List.mergeSort_perm records _).trans (h.trans (List.mergeSort_perm others _).symm))
  intro a b ha hb hab hba
  have ha' : a ∈ records := List.mem_mergeSort.1 ha
  have hb' : b ∈ records := h.mem_iff.2 (List.mem_mergeSort.1 hb)
  exact List.inj_on_of_nodup_map hpositions ha' hb' (Position.le_antisymm hab hba)

theorem ascendingNames_congr {names others : List String}
    (h : ∀ name, name ∈ names ↔ name ∈ others) : ascendingNames names = ascendingNames others := by
  refine List.Perm.eq_of_pairwise ?_ (pairwise_ascendingNames names)
    (pairwise_ascendingNames others) ?_
  · intro a b _ _ hab hba
    exact absurd hba (lt_asymm hab)
  · have hnodup (items : List String) : (ascendingNames items).Nodup :=
      (pairwise_ascendingNames items).imp ne_of_lt
    refine (List.perm_ext_iff_of_nodup (hnodup names) (hnodup others)).2 ?_
    intro name
    rw [mem_ascendingNames, mem_ascendingNames, h]

namespace SourceFile

variable {file : SourceFile} {request other : FileRequest}

/-- The records among the findings have the positions of their candidates, in the same order. -/
theorem sublist_positions {package : String} {candidates : List FuncDecl} {findings : List Finding}
    (h : List.Forall₂ (fun func finding => FuncDecl.finding func package = .ok finding)
      candidates findings) :
    ((findings.filterMap Finding.record?).map (·.position)).Sublist
      (candidates.map (·.position)) := by
  induction h with
  | nil => exact .slnil
  | @cons func finding candidates findings hfinding _ ih =>
    rcases FuncDecl.finding_cases hfinding with
      ⟨pool, record, hpool, hrecord, rfl⟩ | ⟨reason, -, rfl⟩
    · obtain ⟨made, hmade, -, -, hposition, -⟩ := FuncDecl.record_of_ok hpool package
      cases hmade.symm.trans hrecord
      rw [List.filterMap_cons_some (rfl : Finding.record? (.supported record) = some record),
        List.map_cons, List.map_cons, hposition]
      exact ih.cons_cons func.position
    · rw [List.filterMap_cons_none (rfl : Finding.record? (.unsupported _) = none), List.map_cons]
      exact ih.cons func.position

/-! ## The places of the candidates -/

/-- The candidates are read off the selected places. -/
theorem exists_candidates_eq (file : SourceFile) (request : FileRequest) :
    ∃ places, file.Selects request places ∧
      file.candidates request = places.filterMap (file.functions[·]?) := by
  obtain ⟨places, hselects, hcandidates⟩ := file.exists_selects request
  refine ⟨places, hselects, ?_⟩
  clear hselects
  generalize file.candidates request = candidates at hcandidates
  induction hcandidates with
  | nil => rfl
  | cons hfunc _ ih => rw [List.filterMap_cons_some hfunc, ih]

/-- The positions at distinct places are distinct. -/
theorem nodup_positions (hpositions : (file.functions.map (·.position)).Nodup)
    (request : FileRequest) : ((file.candidates request).map (·.position)).Nodup := by
  obtain ⟨places, hselects, hcandidates⟩ := file.exists_candidates_eq request
  rw [hcandidates, List.map_filterMap]
  refine hselects.nodup.filterMap ?_
  intro place place' position h h'
  rw [← List.getElem?_map] at h h'
  have hbound : place < (file.functions.map (·.position)).length :=
    (List.getElem?_eq_some_iff.1 h).1
  exact (List.getElem?_inj hbound hpositions).1 (Eq.trans h h'.symm)

/-- The name has no declaration. -/
def Misses (file : SourceFile) (request : FileRequest) (name : String) : Prop :=
  ∃ ask ∈ request.asks, ask.name = name ∧ ∀ func ∈ file.functions, ¬ ask.Names func

theorem mem_missing {name : String} :
    name ∈ (if request.isWholeFile then [] else file.missingNames request) ↔
      file.Misses request name := by
  rw [Misses, ← mem_missingNames]
  by_cases hwhole : request.isWholeFile = true
  · rw [if_pos hwhole, mem_missingNames, FileRequest.isWholeFile_iff.1 hwhole]
    simp
  · rw [if_neg hwhole]

/-- Requests with the same candidates, in any order, and the same missing names have one report. -/
theorem report_of_perm (hpositions : (file.functions.map (·.position)).Nodup)
    (hpath : request.path = other.path)
    (hcandidates : (file.candidates request).Perm (file.candidates other))
    (hmisses : ∀ name, file.Misses request name ↔ file.Misses other name)
    {report : FileReport} (h : file.report request = .ok report) :
    file.report other = .ok report := by
  rw [SourceFile.report, bind_eq_ok_iff] at h
  obtain ⟨findings, hfindings, h⟩ := h
  obtain ⟨findings', hfindings', hperm⟩ := mapM_perm hcandidates hfindings
  have hfinds : List.Forall₂ (fun func finding => func.finding file.packagePath = .ok finding)
      (file.candidates request) findings := by
    refine (forall₂_of_mapM_eq_ok (List.forall₂_same.2 fun _ _ => rfl) hfindings).imp ?_
    rintro func finding ⟨_, rfl, hfinding⟩
    cases hok : func.finding file.packagePath with
    | error slot =>
      rw [hok] at hfinding
      cases hfinding
    | ok found =>
      rw [hok] at hfinding
      cases hfinding
      rfl
  have hrecords := mergeSort_eq_of_perm (hperm.filterMap Finding.record?)
    ((nodup_positions hpositions request).sublist (sublist_positions hfinds))
  have hnotSupported : ascendingNames (findings.filterMap Finding.unsupportedName?) =
      ascendingNames (findings'.filterMap Finding.unsupportedName?) :=
    ascendingNames_congr fun name => (hperm.filterMap Finding.unsupportedName?).mem_iff
  have hnotFound : ascendingNames (if request.isWholeFile then [] else file.missingNames request) =
      ascendingNames (if other.isWholeFile then [] else file.missingNames other) :=
    ascendingNames_congr fun name => by rw [mem_missing, mem_missing, hmisses]
  cases h
  rw [SourceFile.report, ← hpath, bind_eq_ok_iff]
  exact ⟨findings', hfindings', by rw [hrecords, hnotSupported, hnotFound]; rfl⟩

/-- A request that fails fails in any order of its names. -/
theorem report_toOption_of_perm (hpositions : (file.functions.map (·.position)).Nodup)
    (hpath : request.path = other.path)
    (hcandidates : (file.candidates request).Perm (file.candidates other))
    (hmisses : ∀ name, file.Misses request name ↔ file.Misses other name) :
    (file.report request).toOption = (file.report other).toOption := by
  cases h : file.report request with
  | ok report => rw [report_of_perm hpositions hpath hcandidates hmisses h]
  | error err =>
    cases h' : file.report other with
    | error err' => rfl
    | ok report =>
      have hback := report_of_perm hpositions hpath.symm hcandidates.symm
        (fun name => (hmisses name).symm) h'
      cases h.symm.trans hback

/-- Requests that lead to the same places have the same candidates, in some order. -/
theorem candidates_perm {places places' : List Nat} (hselects : file.Selects request places)
    (hselects' : file.Selects other places') (h : ∀ place, place ∈ places ↔ place ∈ places') :
    (places.filterMap (file.functions[·]?)).Perm (places'.filterMap (file.functions[·]?)) :=
  ((List.perm_ext_iff_of_nodup hselects.nodup hselects'.nodup).2 h).filterMap _

theorem function_mem_asks {name : String} :
    .function name ∈ request.asks ↔ name ∈ request.functions := by
  simp [FileRequest.asks]

theorem method_mem_asks {name : String} : .method name ∈ request.asks ↔ name ∈ request.methods := by
  simp [FileRequest.asks]

/-- The places of a request are read off its names. -/
theorem Selects.mem_iff_of_asks {places places' : List Nat} (hselects : file.Selects request places)
    (hselects' : file.Selects other places') (hasks : ∀ ask, ask ∈ request.asks ↔ ask ∈ other.asks)
    (place : Nat) : place ∈ places ↔ place ∈ places' := by
  have hempty : request.asks = [] ↔ other.asks = [] := by
    simp only [List.eq_nil_iff_forall_not_mem, hasks]
  cases hselects with
  | whole hwhole =>
    cases hselects' with
    | whole _ => rfl
    | named hnamed _ _ _ => exact absurd (hempty.1 hwhole) hnamed
  | named hnamed _ hmem _ =>
    cases hselects' with
    | whole hwhole => exact absurd (hempty.2 hwhole) hnamed
    | named _ _ hmem' _ =>
      rw [hmem, hmem']
      simp only [hasks]

end SourceFile

/-! ## The names of a whole file -/

namespace FuncDecl

variable {func other : FuncDecl}

/-- A function asked for by its name, or a method by its qualified name. -/
def ask (func : FuncDecl) : Ask :=
  if func.receiver.isNone then .function func.name else .method func.qualifiedName

theorem qualifiedName_of_function (h : func.receiver = none) : func.qualifiedName = func.name := by
  rw [qualifiedName, receiverName?, h]
  rfl

theorem ask_of_function (h : func.receiver = none) : func.ask = .function func.name := by
  rw [ask, h]
  rfl

theorem ask_of_method (h : func.receiver ≠ none) : func.ask = .method func.qualifiedName :=
  if_neg fun hnone => h (Option.isNone_iff_eq_none.1 hnone)

theorem names_ask (func : FuncDecl) : func.ask.Names func := by
  by_cases h : func.receiver = none
  · rw [ask_of_function h]
    exact ⟨h, rfl⟩
  · rw [ask_of_method h]
    exact ⟨h, .inl rfl⟩

end FuncDecl

namespace SourceFile

variable {file : SourceFile} {request : FileRequest}

/-- The request has the names of all functions and the qualified names of all methods. -/
structure NamesAll (file : SourceFile) (request : FileRequest) : Prop where
  functions : ∀ name, name ∈ request.functions ↔
    ∃ func ∈ file.functions, func.receiver = none ∧ func.name = name
  methods : ∀ name, name ∈ request.methods ↔
    ∃ func ∈ file.functions, func.receiver ≠ none ∧ func.qualifiedName = name

/-- The qualified name of a method is the bare name of no other method. -/
def BareNamesApart (file : SourceFile) : Prop :=
  ∀ method ∈ file.functions, ∀ other ∈ file.functions, method.receiver ≠ none →
    other.receiver ≠ none → other.name = method.qualifiedName → other = method

/-- The request for all names of a file. -/
def allNames (file : SourceFile) (path : String) : FileRequest where
  path
  functions := (file.functions.filter (·.receiver.isNone)).map (·.name)
  methods := (file.functions.filter (·.receiver.isSome)).map (·.qualifiedName)

theorem namesAll_allNames (file : SourceFile) (path : String) :
    file.NamesAll (file.allNames path) := by
  constructor
  · intro name
    simp [allNames, and_assoc]
  · intro name
    simp [allNames, and_assoc, Option.isSome_iff_ne_none]

theorem NamesAll.mem_asks_iff (h : file.NamesAll request) {ask : Ask} :
    ask ∈ request.asks ↔ ∃ func ∈ file.functions, func.ask = ask := by
  constructor
  · intro hask
    cases ask with
    | function name =>
      obtain ⟨func, hfunc, hreceiver, rfl⟩ := (h.functions name).1 (function_mem_asks.1 hask)
      exact ⟨func, hfunc, FuncDecl.ask_of_function hreceiver⟩
    | method name =>
      obtain ⟨func, hfunc, hreceiver, rfl⟩ := (h.methods name).1 (method_mem_asks.1 hask)
      exact ⟨func, hfunc, FuncDecl.ask_of_method hreceiver⟩
  · rintro ⟨func, hfunc, rfl⟩
    by_cases hreceiver : func.receiver = none
    · rw [FuncDecl.ask_of_function hreceiver, function_mem_asks]
      exact (h.functions _).2 ⟨func, hfunc, hreceiver, rfl⟩
    · rw [FuncDecl.ask_of_method hreceiver, method_mem_asks]
      exact (h.methods _).2 ⟨func, hfunc, hreceiver, rfl⟩

/-- What goes by the name of another declaration has its qualified name. -/
theorem qualifiedName_of_names (hapart : file.BareNamesApart) {func other : FuncDecl}
    (hfunc : func ∈ file.functions) (hother : other ∈ file.functions)
    (h : func.ask.Names other) : other.qualifiedName = func.qualifiedName := by
  by_cases hreceiver : func.receiver = none
  · rw [FuncDecl.ask_of_function hreceiver] at h
    obtain ⟨hfunction, hname⟩ := h
    rw [FuncDecl.qualifiedName_of_function hreceiver,
      FuncDecl.qualifiedName_of_function hfunction, hname]
  · rw [FuncDecl.ask_of_method hreceiver] at h
    obtain ⟨hmethod, hname | hbare⟩ := h
    · exact hname
    · rw [hapart func hfunc other hother hreceiver hmethod hbare]

/-- Among distinct qualified names each declaration is the first of its name. -/
theorem firstAt_ask (hnames : (file.functions.map (·.qualifiedName)).Nodup)
    (hapart : file.BareNamesApart) {place : Nat} {func : FuncDecl}
    (hfunc : file.functions[place]? = some func) : file.FirstAt func.ask place := by
  refine ⟨func, hfunc, func.names_ask, ?_⟩
  intro earlier hlt other hother h
  have hsame : other.qualifiedName = func.qualifiedName :=
    qualifiedName_of_names hapart (List.mem_of_getElem? hfunc) (List.mem_of_getElem? hother) h
  have hplace : (file.functions.map (·.qualifiedName))[earlier]? =
      (file.functions.map (·.qualifiedName))[place]? := by
    simp [hother, hfunc, hsame]
  have hbound : earlier < (file.functions.map (·.qualifiedName)).length := by
    rw [List.length_map]
    exact (List.getElem?_eq_some_iff.1 hother).1
  have heq : earlier = place := (List.getElem?_inj hbound hnames).1 hplace
  omega

/-- All names together lead to all places. -/
theorem NamesAll.mem_places_iff (h : file.NamesAll request)
    (hnames : (file.functions.map (·.qualifiedName)).Nodup) (hapart : file.BareNamesApart)
    {places : List Nat} (hselects : file.Selects request places) (place : Nat) :
    place ∈ places ↔ place ∈ List.range file.functions.length := by
  rw [List.mem_range]
  cases hselects with
  | whole hwhole =>
    rw [List.mem_range]
  | named _ _ hmem _ =>
    rw [hmem]
    constructor
    · rintro ⟨ask, -, func, hfunc, -⟩
      exact (List.getElem?_eq_some_iff.1 hfunc).1
    · intro hplace
      have hfunc := List.getElem?_eq_getElem hplace
      exact ⟨_, h.mem_asks_iff.2 ⟨_, List.mem_of_getElem? hfunc, rfl⟩,
        firstAt_ask hnames hapart hfunc⟩

theorem NamesAll.not_misses (h : file.NamesAll request) (name : String) :
    ¬ file.Misses request name := by
  rintro ⟨ask, hask, -, hnone⟩
  obtain ⟨func, hfunc, rfl⟩ := h.mem_asks_iff.1 hask
  exact hnone func hfunc func.names_ask

/-- With distinct positions a report depends on the set of names only: two requests either both
fail or have one report. With distinct names, a request for the whole file is one for all names. -/
theorem report_depends_on_names (file : SourceFile)
    (hpositions : (file.functions.map (·.position)).Nodup) :
    (∀ request other : FileRequest, request.path = other.path →
      (∀ name, name ∈ request.functions ↔ name ∈ other.functions) →
      (∀ name, name ∈ request.methods ↔ name ∈ other.methods) →
      (file.report request).toOption = (file.report other).toOption) ∧
    ((file.functions.map (·.qualifiedName)).Nodup → file.BareNamesApart →
      ∀ whole named : FileRequest, whole.path = named.path → whole.isWholeFile = true →
        file.NamesAll named → (file.report whole).toOption = (file.report named).toOption) := by
  constructor
  · intro request other hpath hfunctions hmethods
    have hasks (ask : Ask) : ask ∈ request.asks ↔ ask ∈ other.asks := by
      cases ask with
      | function name => rw [function_mem_asks, function_mem_asks, hfunctions]
      | method name => rw [method_mem_asks, method_mem_asks, hmethods]
    obtain ⟨places, hselects, hcandidates⟩ := file.exists_candidates_eq request
    obtain ⟨places', hselects', hcandidates'⟩ := file.exists_candidates_eq other
    refine report_toOption_of_perm hpositions hpath ?_ ?_
    · rw [hcandidates, hcandidates']
      exact candidates_perm hselects hselects' (hselects.mem_iff_of_asks hselects' hasks)
    · intro name
      simp only [Misses, hasks]
  · intro hnames hapart whole named hpath hwhole hall
    obtain ⟨places, hselects, hcandidates⟩ := file.exists_candidates_eq whole
    obtain ⟨places', hselects', hcandidates'⟩ := file.exists_candidates_eq named
    refine report_toOption_of_perm hpositions hpath ?_ ?_
    · rw [hcandidates, hcandidates']
      refine candidates_perm hselects hselects' fun place => ?_
      rw [hall.mem_places_iff hnames hapart hselects']
      cases hselects with
      | whole _ => rfl
      | named hnamed _ _ _ => exact absurd (FileRequest.isWholeFile_iff.1 hwhole) hnamed
    · intro name
      refine iff_of_false ?_ (hall.not_misses name)
      rw [Misses, FileRequest.isWholeFile_iff.1 hwhole]
      simp

/-- The names of `sampleRequest` in another order and other numbers. -/
def sampleReordered : FileRequest where
  path := "geometry.go"
  functions := ["Area", "Add", "Sub"]
  methods := ["Disc.Rim", "Disc.Area", "Area", "Rect.Area", "Area"]

theorem bareNamesApart_sampleGeometry : sampleGeometry.BareNamesApart := by
  have hapart : ∀ method ∈ sampleGeometry.functions, ∀ other ∈ sampleGeometry.functions,
      method.receiver.isSome → other.receiver.isSome → other.name ≠ method.qualifiedName := by
    decide +kernel
  intro method hmethod other hother hreceiver hreceiver' hname
  exact absurd hname (hapart method hmethod other hother
    (Option.isSome_iff_ne_none.2 hreceiver) (Option.isSome_iff_ne_none.2 hreceiver'))

theorem report_depends_on_names_sample :
    (∃ report, sampleGeometry.report sampleRequest = .ok report) ∧
      (sampleGeometry.report sampleRequest).toOption =
        (sampleGeometry.report sampleReordered).toOption ∧
      (sampleGeometry.report ⟨"geometry.go", [], []⟩).toOption =
        (sampleGeometry.report (sampleGeometry.allNames "geometry.go")).toOption := by
  have hpositions : (sampleGeometry.functions.map (·.position)).Nodup := by decide
  obtain ⟨hnames, hwhole⟩ := report_depends_on_names sampleGeometry hpositions
  refine ⟨⟨_, rfl⟩, hnames _ _ rfl ?_ ?_, ?_⟩
  · intro name
    simp [sampleRequest, sampleReordered]
    tauto
  · intro name
    simp [sampleRequest, sampleReordered]
    tauto
  · exact hwhole (by decide +kernel) bareNamesApart_sampleGeometry _ _ rfl rfl
      (sampleGeometry.namesAll_allNames "geometry.go")

end SourceFile

end GoProbe
