import Mathlib
import GoProbe.Proofs.Accounting

/-!
# Which requested methods are reported

No method is supported, so a report lists the methods that it looks at by their qualified names. A
request for the whole file looks at all of them. A name leads to one method only, the first in the
file that it stands for (`SourceFile.FirstAt`), so a bare name that several receivers share leaves
the others out: they are neither listed nor missing (`SourceFile.shared_name_hides_methods`).

`SourceFile.report_requested_methods` says what holds instead. Whether a method is listed is read
off the first declarations of the requested names, and all methods of a name are listed if they
have one qualified name, as they do for a qualified name and for a bare name of one receiver.
-/

namespace GoProbe

/-- A method is not supported. -/
theorem FuncDecl.checkSupport_of_method {func : FuncDecl} (h : func.receiver ≠ none) :
    func.checkSupport = .error (.unsupported .receiver) :=
  if_pos (Option.isSome_iff_ne_none.2 h)

namespace SourceFile

variable {file : SourceFile} {request : FileRequest} {report : FileReport} {name : String}

/-- The methods that the name stands for have one qualified name. -/
def MeansOneMethod (file : SourceFile) (name : String) : Prop :=
  ∀ method ∈ file.functions, ∀ other ∈ file.functions, (Ask.method name).Names method →
    (Ask.method name).Names other → method.qualifiedName = other.qualifiedName

theorem refusedAt_of_method {place : Nat} {method : FuncDecl}
    (hmethod : file.functions[place]? = some method) (hreceiver : method.receiver ≠ none) :
    file.RefusedAt place method.qualifiedName :=
  ⟨method, .receiver, hmethod, FuncDecl.checkSupport_of_method hreceiver, rfl⟩

/-- A name that stands for a declaration stands for one first. -/
theorem exists_firstAt {ask : Ask} {func : FuncDecl} (hfunc : func ∈ file.functions)
    (hnames : ask.Names func) : ∃ place, file.FirstAt ask place := by
  have hfound : file.find? ask ≠ none := fun hnone => find?_eq_none_iff.1 hnone func hfunc hnames
  obtain ⟨place, hplace⟩ := Option.ne_none_iff_exists'.1 hfound
  exact ⟨place, find?_eq_some_iff.1 hplace⟩

/-- The first method of a name is one of the methods that the name stands for. -/
theorem FirstAt.exists_method {place : Nat} (h : file.FirstAt (.method name) place) :
    ∃ method, file.functions[place]? = some method ∧ (Ask.method name).Names method ∧
      file.RefusedAt place method.qualifiedName := by
  obtain ⟨method, hmethod, hnames, -⟩ := h
  exact ⟨method, hmethod, hnames, refusedAt_of_method hmethod hnames.1⟩

/-- The unsupported names of a report are those of the refused declarations at the places that the
request selects. -/
theorem mem_notSupported (h : file.report request = .ok report) :
    ∃ places, file.Selects request places ∧
      ∀ name, name ∈ report.notSupported ↔ ∃ place ∈ places, file.RefusedAt place name := by
  obtain ⟨places, findings, hselects, hfinds, -, hnotSupported, -⟩ := exists_findings h
  refine ⟨places, hselects, fun name => ?_⟩
  rw [hnotSupported, mem_ascendingNames, mem_unsupportedNames hfinds]

/-- With names, these are the refused ones among the first declarations of the names. -/
theorem mem_notSupported_of_asks (h : file.report request = .ok report)
    (hasks : request.asks ≠ []) :
    name ∈ report.notSupported ↔
      ∃ ask ∈ request.asks, ∃ place, file.FirstAt ask place ∧ file.RefusedAt place name := by
  obtain ⟨places, hselects, hmem⟩ := mem_notSupported h
  cases hselects with
  | whole hwhole => exact absurd hwhole hasks
  | named _ _ hplaces _ =>
    rw [hmem]
    constructor
    · rintro ⟨place, hplace, hrefused⟩
      obtain ⟨ask, hask, hfirst⟩ := (hplaces place).1 hplace
      exact ⟨ask, hask, place, hfirst, hrefused⟩
    · rintro ⟨ask, hask, place, hfirst, hrefused⟩
      exact ⟨place, (hplaces place).2 ⟨ask, hask, hfirst⟩, hrefused⟩

/-- Without names, these are all refused ones. -/
theorem mem_notSupported_of_whole (h : file.report request = .ok report)
    (hwhole : request.asks = []) {method : FuncDecl} (hmethod : method ∈ file.functions)
    (hreceiver : method.receiver ≠ none) : method.qualifiedName ∈ report.notSupported := by
  obtain ⟨places, hselects, hmem⟩ := mem_notSupported h
  obtain ⟨place, hplace⟩ := List.mem_iff_getElem?.1 hmethod
  cases hselects with
  | named hasks _ _ _ => exact absurd hwhole hasks
  | whole _ =>
    refine (hmem _).2 ⟨place, ?_, refusedAt_of_method hplace hreceiver⟩
    exact List.mem_range.2 (List.getElem?_eq_some_iff.1 hplace).1

theorem asks_ne_nil_of_mem_methods (h : name ∈ request.methods) : request.asks ≠ [] :=
  List.ne_nil_of_mem (List.mem_append_right _ (List.mem_map_of_mem h))

/-- Which methods a report lists. All of them, without names. For each method name that stands for
some method, the first of these. A requested method exactly if a refused first declaration of a
requested name has its qualified name; so all that a name stands for, if it means one method. -/
theorem report_requested_methods (h : file.report request = .ok report) :
    (request.asks = [] → ∀ method ∈ file.functions, method.receiver ≠ none →
      method.qualifiedName ∈ report.notSupported) ∧
    ∀ name ∈ request.methods, ∀ method ∈ file.functions, (Ask.method name).Names method →
      (∃ place first, file.FirstAt (.method name) place ∧ file.functions[place]? = some first ∧
        first.qualifiedName ∈ report.notSupported) ∧
      (method.qualifiedName ∈ report.notSupported ↔
        ∃ ask ∈ request.asks, ∃ place, file.FirstAt ask place ∧
          file.RefusedAt place method.qualifiedName) ∧
      (file.MeansOneMethod name → method.qualifiedName ∈ report.notSupported) := by
  refine ⟨fun hwhole method hmethod => mem_notSupported_of_whole h hwhole hmethod, ?_⟩
  intro name hname method hmethod hnames
  have hasks := asks_ne_nil_of_mem_methods hname
  have hask : Ask.method name ∈ request.asks :=
    List.mem_append_right _ (List.mem_map_of_mem hname)
  obtain ⟨place, hfirst⟩ := exists_firstAt hmethod hnames
  obtain ⟨first, hplace, hfirstNames, hrefused⟩ := hfirst.exists_method
  have hlisted : first.qualifiedName ∈ report.notSupported :=
    (mem_notSupported_of_asks h hasks).2 ⟨_, hask, place, hfirst, hrefused⟩
  refine ⟨⟨place, first, hfirst, hplace, hlisted⟩, mem_notSupported_of_asks h hasks, ?_⟩
  intro hone
  rw [hone method hmethod first (List.mem_of_getElem? hplace) hnames hfirstNames]
  exact hlisted

/-- A request for the two methods of one bare name, one of them by its qualified name. -/
def sampleMethods : FileRequest where
  path := "geometry.go"
  functions := []
  methods := ["Area", "Disc.Area"]

theorem report_requested_methods_sample :
    ∃ report, sampleGeometry.report sampleMethods = .ok report ∧
      "Disc.Area" ∈ report.notSupported ∧
      ∃ place first, sampleGeometry.FirstAt (.method "Area") place ∧
        sampleGeometry.functions[place]? = some first ∧
        first.qualifiedName ∈ report.notSupported := by
  obtain ⟨report, hreport⟩ : ∃ report, sampleGeometry.report sampleMethods = .ok report := ⟨_, rfl⟩
  have hall := (report_requested_methods hreport).2
  have hdisc : sampleGeometry.functions[3]? = some (sampleGeometry.sum "Area" 30 (some "Disc")) :=
    rfl
  have hmem := List.mem_of_getElem? hdisc
  have hmethod : (sampleGeometry.sum "Area" 30 (some "Disc")).receiver ≠ none :=
    Option.some_ne_none _
  have hone : ∀ method ∈ sampleGeometry.functions,
      method.qualifiedName = "Disc.Area" ∨ method.name = "Disc.Area" →
        method.qualifiedName = "Disc.Area" := by
    decide +kernel
  refine ⟨report, hreport, ?_, ?_⟩
  · refine (hall "Disc.Area" (by decide) _ hmem ⟨hmethod, .inl (by decide)⟩).2.2 ?_
    intro method hmethod other hother hnames hnames'
    rw [hone method hmethod hnames.2, hone other hother hnames'.2]
  · exact (hall "Area" (by decide) _ hmem ⟨hmethod, .inr rfl⟩).1

/-- A bare name that two receivers share hides the second method. -/
theorem shared_name_hides_methods :
    ¬ ∀ (file : SourceFile) (request : FileRequest) (report : FileReport),
      file.report request = .ok report → ∀ method ∈ file.functions, method.receiver ≠ none →
        method.qualifiedName ∈ request.methods ∨ method.name ∈ request.methods →
        method.qualifiedName ∈ report.notSupported := by
  intro hall
  have hdisc : sampleGeometry.functions[3]? = some (sampleGeometry.sum "Area" 30 (some "Disc")) :=
    rfl
  have hlisted := hall sampleGeometry ⟨"geometry.go", [], ["Area"]⟩ _ rfl _
    (List.mem_of_getElem? hdisc) (Option.some_ne_none _) (.inr (by decide))
  exact absurd (mem_ascendingNames.1 hlisted) (by decide)

end SourceFile

end GoProbe
