import Mathlib
import GoProbe.Analysis.Batch
import GoProbe.Probe.Stored
import GoProbe.Settings.Stored
import GoProbe.Proofs.StoredTrees

/-!
# Stored records

Requests, reports and settings are stored by their encoders, as trees are. The numbers in them are
written as they are and read as words of 32 or 64 bits, so they have to fit.
-/

namespace GoProbe

open Json (Stored RowStored)

/-! ## Numbers that fit -/

/-- The width fits in 32 bits. -/
def BatchReport.Fits (report : BatchReport) : Prop := report.intSize < wordCount 32

/-- All ids fit in 64 bits. -/
def ProbeReport.Fits (report : ProbeReport) : Prop :=
  ∀ entry ∈ report.counters.entries, ∀ id ∈ entry.2, id < wordCount 64

/-- The widths fit in 32 bits, and the length of traces in 64. -/
structure Settings.Fits (settings : Settings) : Prop where
  intSize : settings.resolver.intSize < wordCount 32
  hashBucketBits : settings.probe.hashBucketBits < wordCount 32
  maxTraceLength : settings.probe.maxTraceLength < wordCount 64

variable {bound : Nat}

/-! ## Dictionaries -/

namespace Json.Stored

variable {α : Type} {decode : Decoder α}

theorem mapM_entries {encode : α → Json} {entries : List (String × α)} {levels : Nat}
    (h : ∀ entry ∈ entries, decode levels (encode entry.2) = .ok entry.2) :
    (entries.map fun entry => (entry.1, encode entry.2)).mapM
      (fun m => (decode levels m.2).map (m.1, ·)) = .ok entries := by
  induction entries with
  | nil => rfl
  | cons entry rest ih =>
    rw [List.forall_mem_cons] at h
    rw [List.map_cons, List.mapM_cons, h.1, ih h.2]
    rfl

theorem dict {encode : α → Json} {dict : Dict α}
    (h : ∀ entry ∈ dict.entries, Stored bound decode (encode entry.2) entry.2) :
    Stored bound decode.dict (dict.toJson encode) dict where
  plain := by
    refine .object fun m hm => ?_
    obtain ⟨entry, hentry, rfl⟩ := List.mem_map.1 hm
    exact (h entry hentry).plain
  decode_eq hbound levels hlevels := by
    cases levels with
    | zero => cases hlevels
    | succ levels =>
      have hentries : ∀ entry ∈ dict.entries, decode levels (encode entry.2) = .ok entry.2 := by
        intro entry hentry
        have hmem : (entry.1, encode entry.2) ∈
            dict.entries.map fun entry => (entry.1, encode entry.2) :=
          List.mem_map.2 ⟨entry, hentry, rfl⟩
        have hdepth : (encode entry.2).depth < (dict.toJson encode).depth :=
          depth_of_mem_object hmem
        exact (h entry hentry).decode_eq (by omega) levels (by omega)
      rw [Dict.toJson, Decoder.dict, mapM_entries hentries]
      exact congrArg Except.ok dict.ofList_entries

end Json.Stored

/-! ## Reports of the analysis -/

theorem EntryField.stored (field : EntryField) : Stored bound decoder field.toJson field :=
  .record (by simp) (.bind (.field (.string field.name)) (.bind (.field (.string field.typeName))
    (.last (.field (.bool field.exported)))))

theorem TypeEntry.stored (entry : TypeEntry) : Stored bound decoder entry.toJson entry := by
  cases entry with
  | named name definingModule isError underlying =>
    exact .kinded "named" rfl (by simp) (.bind (.field (.string name))
      (.bind (.optionalMember .string Json.string_ne_null) (.bind (.field (.bool isError))
        (.last (.field (.string underlying))))))
  | interface name implementers =>
    exact .kinded "interface" rfl (by simp)
      (.bind (.field (.string name)) (.last (.field (storedTexts implementers))))
  | primitive name => exact .kinded "primitive" rfl (by simp) (.last (.field (.string name)))
  | struct name fields =>
    exact .kinded "struct" rfl (by simp) (.bind (.field (.string name))
      (.last (.field (.listOf fun field _ => field.stored))))
  | array name element length =>
    exact .kinded "array" rfl (by simp)
      (.bind (.field (.string name)) (.bind (.field (.string element))
      (.last (.field (.word64 length)))))
  | slice name element =>
    exact .kinded "slice" rfl (by simp)
      (.bind (.field (.string name)) (.last (.field (.string element))))
  | map name key element =>
    exact .kinded "map" rfl (by simp) (.bind (.field (.string name)) (.bind (.field (.string key))
      (.last (.field (.string element)))))
  | chan name element direction =>
    exact .kinded "chan" rfl (by simp)
      (.bind (.field (.string name)) (.bind (.field (.string element))
      (.last (.field (.enumeration direction.ofTag?_tag)))))
  | pointer name element =>
    exact .kinded "pointer" rfl (by simp)
      (.bind (.field (.string name)) (.last (.field (.string element))))

theorem RequiredImport.stored (required : RequiredImport) :
    Stored bound decoder required.toJson required :=
  .record (by simp)
    (.bind (.field (.string required.path)) (.last (.field (.string required.localName))))

theorem Variable.stored (v : Variable) : Stored bound decoder v.toJson v :=
  .record (by simp) (.bind (.field (.string v.name)) (.last (.field (.string v.typeName))))

theorem FunctionRecord.stored (record : FunctionRecord) :
    Stored bound decoder record.toJson record := by
  have hpool : Stored bound (.dict TypeEntry.decoder) (record.pool.toJson TypeEntry.toJson)
      record.pool := .dict fun entry _ => entry.2.stored
  have hparameters : Stored bound (.list Variable.decoder)
      (.listOf Variable.toJson record.parameters) record.parameters := .listOf fun v _ => v.stored
  have hresults : Stored bound (.list Variable.decoder)
      (.listOf Variable.toJson record.results) record.results := .listOf fun v _ => v.stored
  have hconstants : Stored bound (.dict (.list .string))
      (record.constants.toJson (.listOf .string)) record.constants :=
    .dict fun entry _ => storedTexts entry.2
  have himports : Stored bound (.list RequiredImport.decoder)
      (.listOf RequiredImport.toJson record.imports) record.imports :=
    .listOf fun required _ => required.stored
  exact .record (by simp) (.bind (.field (.string record.name)) (.bind (.field hpool)
    (.bind (.optionalMember Variable.stored fun _ => Json.object_ne_null _)
      (.bind (.field hparameters) (.bind (.field hresults) (.bind (.field hconstants)
        (.bind (.field himports) (.last (.field record.position.stored)))))))))

theorem FileReport.stored (report : FileReport) : Stored bound decoder report.toJson report :=
  .record (by simp)
    (.bind (.field (.string report.path)) (.bind (.field (.string report.definingModule))
    (.bind (.field (.listOf fun record _ => record.stored))
      (.bind (.field (storedTexts report.notSupported))
        (.last (.field (storedTexts report.notFound)))))))

theorem BatchReport.stored {report : BatchReport} (h : report.Fits) :
    Stored bound decoder report.toJson report :=
  .record (by simp) (.bind (.field (.listOf fun file _ => file.stored)) (.last (.field (.nat32 h))))

/-! ## Requests -/

theorem FileRequest.stored (request : FileRequest) : Stored bound decoder request.toJson request :=
  .record (by simp)
    (.bind (.field (.string request.path)) (.bind (.fieldOr (storedTexts request.functions))
    (.last (.fieldOr (storedTexts request.methods)))))

theorem BatchRequest.stored (request : BatchRequest) :
    Stored bound decoder request.toJson request :=
  .record (by simp) (.last (.field (.listOf fun target _ => target.stored)))

theorem ProbeRequest.stored (request : ProbeRequest) :
    Stored bound decoder request.toJson request :=
  .record (by simp) (.bind (.field (.string request.package))
    (.last (.fieldOr (storedTexts request.tracked))))

theorem ProbeReport.stored {report : ProbeReport} (h : report.Fits) :
    Stored bound decoder report.toJson report := by
  have hcounters : Stored bound (.dict (.list .nat64)) (report.counters.toJson (.listOf .nat))
      report.counters :=
    .dict fun entry hentry => .listOf fun id hid => .nat64 (h entry hentry id hid)
  exact .record (by simp) (.bind (.field (.string report.package))
    (.bind (.field (.string report.moduleCopy)) (.last (.field hcounters))))

/-! ## Settings -/

theorem ResolverSettings.stored {settings : ResolverSettings}
    (h : settings.intSize < wordCount 32) : Stored bound decoder settings.toJson settings :=
  .record (by simp) (.bind (.fieldOr (.enumeration settings.kind.ofTag?_tag))
    (.bind (.fieldOr (.string settings.dumpSuffix))
      (.bind (.fieldOr (.orNull .string Json.string_ne_null))
        (.bind (.fieldOr (storedTexts settings.args)) (.last (.fieldOr (.nat32 h)))))))

theorem ProbeSettings.stored {settings : ProbeSettings}
    (hbits : settings.hashBucketBits < wordCount 32)
    (hlength : settings.maxTraceLength < wordCount 64) :
    Stored bound decoder settings.toJson settings :=
  .record (by simp) (.bind (.fieldOr (.enumeration settings.backend.ofTag?_tag))
    (.bind (.fieldOr (.enumeration settings.idPolicy.ofTag?_tag))
      (.bind (.fieldOr (.nat32 hbits)) (.bind (.fieldOr (.nat64 hlength))
        (.bind (.fieldOr (.string settings.counterTableName))
          (.bind (.fieldOr (.string settings.traceParameterName))
            (.bind (.fieldOr (.string settings.tableFileName))
              (.bind (.fieldOr (.orNull .string Json.string_ne_null))
                (.last (.fieldOr (storedTexts settings.excludePatterns)))))))))))

theorem Settings.stored {settings : Settings} (h : settings.Fits) :
    Stored bound decoder settings.toJson settings :=
  .record (by simp) (.bind (.fieldOr (ResolverSettings.stored h.intSize))
    (.last (.fieldOr (ProbeSettings.stored h.hashBucketBits h.maxTraceLength))))

/-! ## Round trips -/

/-- Decoding gives back what was stored, for trees, requests, reports and settings: from the value,
and from its text if it nests no deeper than texts may. -/
theorem decoders_invert :
    (∀ file : SourceFile, SourceFile.decoder.Inverts SourceFile.toJson file) ∧
      (∀ request : BatchRequest, BatchRequest.decoder.Inverts BatchRequest.toJson request) ∧
      (∀ report : BatchReport, report.Fits →
        BatchReport.decoder.Inverts BatchReport.toJson report) ∧
      (∀ request : ProbeRequest, ProbeRequest.decoder.Inverts ProbeRequest.toJson request) ∧
      (∀ report : ProbeReport, report.Fits →
        ProbeReport.decoder.Inverts ProbeReport.toJson report) ∧
      ∀ settings : Settings, settings.Fits → Settings.decoder.Inverts Settings.toJson settings :=
  ⟨fun file => Stored.inverts fun _ => file.stored,
    fun request => Stored.inverts fun _ => request.stored,
    fun _ h => Stored.inverts fun _ => BatchReport.stored h,
    fun request => Stored.inverts fun _ => request.stored,
    fun _ h => Stored.inverts fun _ => ProbeReport.stored h,
    fun _ h => Stored.inverts fun _ => Settings.stored h⟩

/-- The texts of a file with a variable, of reports and of the settings that need no file. -/
theorem decoders_invert_sample :
    let file : SourceFile :=
      ⟨"main", "example.com/main", [.gen ⟨.vars, [.value [⟨"x", none⟩] none [.intLit 1]], false⟩]⟩
    let report : BatchReport := ⟨[⟨"main.go", "example.com/main", [], ["f"], []⟩], 64⟩
    let probed : ProbeReport := ⟨"/tmp/main", "/tmp", .ofList [("f", [1, 2]), ("g", [3])]⟩
    let settings : Settings := {}
    SourceFile.decoder.ofText file.toJson.compact = .ok file ∧
      (report.Fits ∧ BatchReport.decoder.ofText report.toJson.pretty = .ok report) ∧
      (probed.Fits ∧ ProbeReport.decoder.ofText probed.toJson.pretty = .ok probed) ∧
      (settings.Fits ∧ Settings.decoder.ofText settings.toJson.compact = .ok settings) := by
  intro file report probed settings
  obtain ⟨hfile, -, hreport, -, hprobed, hsettings⟩ := decoders_invert
  have hreportFits : report.Fits := show 64 < wordCount 32 by decide
  have hprobedFits : probed.Fits := by
    show ∀ entry ∈ [("f", [1, 2]), ("g", [3])], ∀ id ∈ entry.2, id < wordCount 64
    decide
  have hsettingsFits : settings.Fits := ⟨by decide, by decide, by decide⟩
  exact ⟨((hfile file).2 (by decide)).1,
    ⟨hreportFits, ((hreport report hreportFits).2 (by decide)).2.1⟩,
    ⟨hprobedFits, ((hprobed probed hprobedFits).2 (by decide)).2.1⟩,
    ⟨hsettingsFits, ((hsettings settings hsettingsFits).2 (by decide)).1⟩⟩

end GoProbe
