import Mathlib
import GoProbe.Settings.Discovery
import GoProbe.Proofs.PlacePaths
import GoProbe.Toml.Reader

/-!
# Which settings are found

The directories that are searched are the start and those above it, told by their components:
every path above another has its components without the last ones (`components_ancestors`).

A settings file on the way decides if it can be used. One that cannot be used is passed over, so
that the search goes on above it: what the nearest file says (`Host.nearestSettings`) and what is
found (`Host.discoverSettings`) are the same as long as nothing above an unusable nearest file can
be used (`Host.discoverSettings_eq_nearest_iff`).
-/

namespace GoProbe

/-! ## Components of the paths above -/

namespace Path

variable {path above : String} {front tail : List String}

/-- The three ways in which a path can start. -/
theorem start_cases (path : String) :
    (start path = "/" ∧ ∃ rest, path.toList = '/' :: rest) ∨
      (start path = "." ∧ (path.toList = ['.'] ∨ ∃ rest, path.toList = '.' :: '/' :: rest)) ∨
      (start path = "" ∧ (∀ rest, path.toList ≠ '/' :: rest) ∧ path.toList ≠ ['.'] ∧
        ∀ rest, path.toList ≠ '.' :: '/' :: rest) := by
  unfold start
  split
  · next rest h => exact .inl ⟨rfl, rest, h⟩
  · next h => exact .inr (.inl ⟨rfl, .inl h⟩)
  · next rest h => exact .inr (.inl ⟨rfl, .inr ⟨rest, h⟩⟩)
  · next hslash hdot hdots => exact .inr (.inr ⟨rfl, hslash, hdot, hdots⟩)

theorem start_eq_slash_iff : start path = "/" ↔ isAbsolute path = true := by
  rw [isAbsolute, beq_iff_eq, List.head?_eq_some_iff]
  rcases start_cases path with ⟨h, hpath⟩ | ⟨h, hpath⟩ | ⟨h, hpath, -⟩
  · simp [h, hpath]
  · rcases hpath with hpath | ⟨_, hpath⟩ <;> simp [h, hpath]
  · simp [h, hpath]

theorem start_append_drop (path : String) :
    start path ++ String.ofList (path.toList.drop (start path).length) = path := by
  rw [← String.toList_inj, String.toList_append, String.toList_ofList]
  rcases start_cases path with ⟨h, rest, hpath⟩ | ⟨h, hpath | ⟨rest, hpath⟩⟩ | ⟨h, -⟩
  · rw [h, hpath]; rfl
  · rw [h, hpath]; rfl
  · rw [h, hpath]; rfl
  · rw [h]; rfl

/-- A path is its start and the pieces after it. -/
theorem start_append_body (path : String) : start path ++ "/".intercalate (body path) = path := by
  rw [body, intercalate_pieces, start_append_drop]

/-- A path that is cut off before a slash starts as before. -/
theorem start_append {text : String} (more : String) (hpath : start path ++ (text ++ more) = path)
    (hmore : text = "" ∨ more = "" ∨ ∃ rest, more.toList = '/' :: rest) :
    start (start path ++ text) = start path := by
  have hchars : path.toList = (start path).toList ++ (text.toList ++ more.toList) := by
    rw [← String.toList_append, ← String.toList_append, hpath]
  rcases start_cases path with ⟨h, -⟩ | ⟨h, hdot⟩ | ⟨h, hslash, hdot, hdots⟩
  · rw [h, Place.start_slash]
  · -- what follows the dot is nothing or a slash
    rw [h] at hchars ⊢
    cases htext : text.toList with
    | nil => rw [String.toList_eq_nil_iff.1 htext]; rfl
    | cons c rest =>
      have hc : c = '/' := by
        rw [htext] at hchars
        rcases hdot with hdot | ⟨_, hdot⟩
        · simp [hdot] at hchars
        · rw [hdot, show ".".toList = ['.'] from rfl] at hchars
          simp only [List.cons_append, List.nil_append, List.cons.injEq] at hchars
          exact hchars.2.1.symm
      have hall : ("." ++ text).toList = '.' :: '/' :: rest := by simp [htext, hc]
      simp only [start, hall]
  · rw [h, String.toList_empty, List.nil_append] at hchars
    rw [h, String.empty_append]
    rcases start_cases text with ⟨-, rest, htext⟩ | ⟨-, htext | ⟨rest, htext⟩⟩ | ⟨htext, -⟩
    · exact absurd (by rw [hchars, htext]; rfl) (hslash (rest ++ more.toList))
    · rcases hmore with rfl | rfl | ⟨rest, hmore⟩
      · simp at htext
      · exact absurd (by rw [hchars, htext]; rfl) hdot
      · exact absurd (by rw [hchars, htext, hmore]; rfl) (hdots rest)
    · exact absurd (by rw [hchars, htext]; rfl) (hdots (rest ++ more.toList))
    · exact htext

theorem components_eq (path : String) :
    components path = [start path].filter (· != "") ++ (body path).filter (!isIdle ·) := by
  rw [components]
  by_cases h : start path = "" <;> simp [h]

theorem no_slash_of_mem_body {piece : String} (h : piece ∈ body path) : '/' ∉ piece.toList :=
  no_slash_of_mem_pieces h

/-- A path that ends after some of its pieces has the components that these pieces give. -/
theorem cut_body (hbody : body path = front ++ tail) :
    start (start path ++ "/".intercalate front) = start path ∧
      (body (start path ++ "/".intercalate front)).filter (!isIdle ·) =
        front.filter (!isIdle ·) := by
  have hstart : start (start path ++ "/".intercalate front) = start path := by
    have hpath := start_append_body path
    rw [hbody] at hpath
    rcases eq_or_ne front [] with rfl | hfront
    · exact start_append _ (by simpa using hpath) (.inl rfl)
    rcases eq_or_ne tail [] with rfl | htail
    · exact start_append "" (by simpa using hpath) (.inr (.inl rfl))
    · rw [String.intercalate_append_of_ne_nil hfront htail, String.append_assoc] at hpath
      exact start_append _ hpath (.inr (.inr ⟨("/".intercalate tail).toList, by simp⟩))
  refine ⟨hstart, ?_⟩
  have htext : String.ofList ((start path ++ "/".intercalate front).toList.drop
      (start path).length) = "/".intercalate front := by
    rw [← String.toList_inj, String.toList_ofList, String.toList_append, ← String.length_toList,
      List.drop_left]
  rw [body, hstart, htext]
  rcases eq_or_ne front [] with rfl | hfront
  · decide
  · rw [pieces_intercalate _ hfront]
    intro piece hpiece
    exact no_slash_of_mem_body (hbody ▸ List.mem_append_left tail hpiece)

theorem components_cut (hbody : body path = front ++ tail) :
    components (start path ++ "/".intercalate front) =
      [start path].filter (· != "") ++ front.filter (!isIdle ·) := by
  obtain ⟨hstart, hpieces⟩ := cut_body hbody
  rw [components_eq, hstart, hpieces]

/-- The pieces up to the last component, if there is a component besides the start. -/
theorem body_of_dropWhile {last : String} {rest : List String}
    (h : (body path).reverse.dropWhile isIdle = last :: rest) :
    isIdle last = false ∧
      ∃ idle, (∀ piece ∈ idle, isIdle piece = true) ∧
        body path = rest.reverse ++ last :: idle := by
  have hsplit := List.takeWhile_append_dropWhile (p := isIdle) (l := (body path).reverse)
  rw [h] at hsplit
  refine ⟨?_, ((body path).reverse.takeWhile isIdle).reverse, fun piece hpiece => ?_, ?_⟩
  · have hlast := List.head_dropWhile_not isIdle (l := (body path).reverse) (by simp [h])
    simpa [h] using hlast
  · exact List.mem_takeWhile_imp (List.mem_reverse.1 hpiece)
  · simpa using (congrArg List.reverse hsplit).symm

theorem filter_isIdle_nil {idle : List String} (h : ∀ piece ∈ idle, isIdle piece = true) :
    idle.filter (!isIdle ·) = [] := by
  rw [List.filter_eq_nil_iff]
  exact fun piece hpiece => by simp [h piece hpiece]

theorem isAbsolute_congr {path other : String} (h : start other = start path) :
    isAbsolute other = isAbsolute path := by
  rw [Bool.eq_iff_iff, ← start_eq_slash_iff, ← start_eq_slash_iff, h]

/-- Only the root and the empty path have no parent. A parent lacks the last component. -/
theorem parent?_cases (path : String) :
    (parent? path = none ∧ components path = if isAbsolute path = true then ["/"] else []) ∨
      ∃ above, parent? path = some above ∧ isAbsolute above = isAbsolute path ∧
        ∃ last, components path = components above ++ [last] := by
  unfold parent?
  cases hpieces : (body path).reverse.dropWhile isIdle with
  | nil =>
    have hidle : (body path).filter (!isIdle ·) = [] :=
      filter_isIdle_nil (by simpa using List.dropWhile_eq_nil_iff.1 hpieces)
    have hcomponents := components_eq path
    rw [hidle, List.append_nil] at hcomponents
    rcases start_cases path with ⟨h, -⟩ | ⟨h, -⟩ | ⟨h, -⟩
    · rw [h] at hcomponents
      exact .inl ⟨by simp [h], by simp [hcomponents, start_eq_slash_iff.1 h]⟩
    · have hother : isAbsolute "" = isAbsolute path := by
        rw [Bool.eq_iff_iff, ← start_eq_slash_iff, ← start_eq_slash_iff, h]
        simp [start]
      rw [h] at hcomponents
      exact .inr ⟨"", by simp [h], hother, ".", hcomponents⟩
    · have hother : isAbsolute path = false := by
        rw [Bool.eq_false_iff, Ne, ← start_eq_slash_iff, h]
        simp
      rw [h] at hcomponents
      exact .inl ⟨by simp [h], by simp [hcomponents, hother]⟩
  | cons last rest =>
    obtain ⟨hlast, idle, hidle, hbody⟩ := body_of_dropWhile hpieces
    -- the pieces that end the parent are idle too
    have hrest : rest.reverse =
        (rest.dropWhile isIdle).reverse ++ (rest.takeWhile isIdle).reverse := by
      rw [← List.reverse_append, List.takeWhile_append_dropWhile]
    have htrailing : (rest.takeWhile isIdle).reverse.filter (!isIdle ·) = [] :=
      filter_isIdle_nil fun piece hpiece => List.mem_takeWhile_imp (List.mem_reverse.1 hpiece)
    have hcut : body path =
        (rest.dropWhile isIdle).reverse ++ ((rest.takeWhile isIdle).reverse ++ last :: idle) := by
      rw [hbody, hrest, List.append_assoc]
    refine .inr ⟨_, rfl, isAbsolute_congr (cut_body hcut).1, last, ?_⟩
    rw [components_cut hcut, components_eq, hcut]
    simp [htrailing, hlast, filter_isIdle_nil hidle]

/-- The components of a path and of the paths above it are all their first parts, the longest
first. Those of an absolute path start with the root. -/
theorem components_ancestors (count : Nat) (path : String) :
    (ancestors count path).map components =
      ((components path).inits.drop (if isAbsolute path = true then 1 else 0)).reverse.take
        count := by
  induction count generalizing path with
  | zero => simp [ancestors]
  | succ count ih =>
    rcases parent?_cases path with ⟨hnone, hpath⟩ | ⟨above, habove, habs, last, hpath⟩
    · simp only [ancestors, hnone]
      cases hroot : isAbsolute path <;> simp [hroot, hpath]
    · have hdrop : (if isAbsolute path = true then 1 else 0) ≤ (components above).inits.length := by
        split <;> simp
      rw [Place.ancestors_of_parent? habove, List.map_cons, ih, habs, hpath, List.inits_append,
        List.drop_append_of_le_length hdrop]
      simp

end Path

/-! ## The search -/

namespace Host

variable [Faults] {host : Host} {dir start : String} {settings : Settings}

/-- Whether something stands where a directory has its settings file. -/
def holdsSettings (host : Host) (dir : String) : Bool :=
  (host.node? (Path.join dir settingsFileName)).isSome

theorem node?_of_readText {path text : String} (h : host.readText path = .ok text) :
    (host.node? path).isSome = true := by
  rw [node?]
  cases hlocate : host.locate true path with
  | error err => 
    cases hallow : host.allow (.read path) <;>
      simp [readText, read, hlocate, hallow, bind, Except.bind] at h
  | ok found =>
    cases found with
    | node place node => rfl
    | absent place =>
      cases hallow : host.allow (.read path) <;>
        simp [readText, read, hlocate, hallow, bind, Except.bind, throw, throwThe,
          MonadExceptOf.throw] at h

variable [Toml.Dialect]

/-- The settings in the file of a directory, if they can be used. -/
def settingsIn? (host : Host) (dir : String) : Option Settings :=
  host.settingsAt? (Path.join dir settingsFileName)

/-- What the nearest settings file says: its settings, or the defaults if they cannot be used. -/
def nearestSettings (host : Host) (start : String) : Settings :=
  match (Path.ancestors settingsDepth start).find? host.holdsSettings with
  | some dir => (host.settingsIn? dir).getD {}
  | none => {}

theorem settingsIn?_eq_some_iff :
    host.settingsIn? dir = some settings ↔
      ∃ text, host.readText (Path.join dir settingsFileName) = .ok text ∧
        Settings.ofToml text = .ok settings := by
  rw [settingsIn?, settingsAt?]
  cases host.readText (Path.join dir settingsFileName) with
  | error err => simp
  | ok text => cases hparse : Settings.ofToml text <;> simp [Except.toOption, hparse]

theorem holdsSettings_of_settingsIn? (h : host.settingsIn? dir = some settings) :
    host.holdsSettings dir = true := by
  obtain ⟨text, htext, -⟩ := settingsIn?_eq_some_iff.1 h
  exact node?_of_readText htext

theorem settingsIn?_eq_none_of_absent (h : host.holdsSettings dir = false) :
    host.settingsIn? dir = none := by
  rw [Option.eq_none_iff_forall_ne_some]
  intro settings hsettings
  rw [holdsSettings_of_settingsIn? hsettings] at h
  cases h

variable {before above dirs : List String}

/-- Directories without usable settings are passed over. -/
theorem discoverSettings_of_append (hdirs : Path.ancestors settingsDepth start = before ++ dirs)
    (hbefore : ∀ near ∈ before, host.settingsIn? near = none) :
    host.discoverSettings start = (dirs.findSome? host.settingsIn?).getD {} := by
  have hskip : before.findSome? host.settingsIn? = none := List.findSome?_eq_none_iff.2 hbefore
  show ((Path.ancestors settingsDepth start).findSome? host.settingsIn?).getD {} = _
  rw [hdirs, List.findSome?_append, hskip, Option.none_or]

/-- The nearest directory with usable settings decides. -/
theorem discoverSettings_of_first
    (hdirs : Path.ancestors settingsDepth start = before ++ dir :: above)
    (hbefore : ∀ near ∈ before, host.settingsIn? near = none)
    (hdir : host.settingsIn? dir = some settings) : host.discoverSettings start = settings := by
  rw [discoverSettings_of_append hdirs hbefore, List.findSome?_cons, hdir]
  rfl

theorem discoverSettings_of_none
    (h : ∀ dir ∈ Path.ancestors settingsDepth start, host.settingsIn? dir = none) :
    host.discoverSettings start = {} :=
  discoverSettings_of_append (List.append_nil _).symm h

/-- Where the nearest file is found, it decides if it can be used, and if it cannot, what stands
above it does. -/
theorem discoverSettings_of_holds
    (hdirs : Path.ancestors settingsDepth start = before ++ dir :: above)
    (hbefore : ∀ near ∈ before, host.holdsSettings near = false) :
    host.discoverSettings start =
      match host.settingsIn? dir with
      | some settings => settings
      | none => (above.findSome? host.settingsIn?).getD {} := by
  rw [discoverSettings_of_append hdirs fun near hnear =>
    settingsIn?_eq_none_of_absent (hbefore near hnear), List.findSome?_cons]
  cases host.settingsIn? dir <;> rfl

theorem nearestSettings_of_holds
    (hdirs : Path.ancestors settingsDepth start = before ++ dir :: above)
    (hbefore : ∀ near ∈ before, host.holdsSettings near = false)
    (hdir : host.holdsSettings dir = true) :
    host.nearestSettings start = (host.settingsIn? dir).getD {} := by
  have hfind : (Path.ancestors settingsDepth start).find? host.holdsSettings = some dir :=
    List.find?_eq_some_iff_append.2
      ⟨hdir, before, above, hdirs, fun near hnear => by simp [hbefore near hnear]⟩
  rw [nearestSettings, hfind]

/-- What is found is what the nearest file says, unless that file cannot be used and one above it
can, with settings of its own. -/
theorem discoverSettings_eq_nearest_iff :
    host.discoverSettings start = host.nearestSettings start ↔
      ∀ before dir above, Path.ancestors settingsDepth start = before ++ dir :: above →
        (∀ near ∈ before, host.holdsSettings near = false) → host.holdsSettings dir = true →
        host.settingsIn? dir = none → (above.findSome? host.settingsIn?).getD {} = {} := by
  constructor
  · intro h before dir above hdirs hbefore hdir hnone
    rw [discoverSettings_of_holds hdirs hbefore, nearestSettings_of_holds hdirs hbefore hdir,
      hnone] at h
    exact h
  · intro h
    cases hfind : (Path.ancestors settingsDepth start).find? host.holdsSettings with
    | none =>
      rw [nearestSettings, hfind]
      refine discoverSettings_of_none fun dir hdir => settingsIn?_eq_none_of_absent ?_
      simpa using List.find?_eq_none.1 hfind dir hdir
    | some dir =>
      obtain ⟨hdir, before, above, hdirs, hbefore⟩ := List.find?_eq_some_iff_append.1 hfind
      have hnear : ∀ near ∈ before, host.holdsSettings near = false := by simpa using hbefore
      rw [discoverSettings_of_holds hdirs hnear, nearestSettings_of_holds hdirs hnear hdir]
      cases hsettings : host.settingsIn? dir with
      | none => exact h before dir above hdirs hnear hdir hsettings
      | some settings => rfl

end Host

/-- The directories that are searched are the start and those above it, at most ten, the nearest
first. The first of them whose file can be used decides; without one the defaults are taken, so
also where there is no settings file at all. This is what the nearest file says, unless that file
cannot be used and a directory further up has settings that differ from the defaults. -/
theorem Host.discoverSettings_takes_nearest_usable [Faults] [Toml.Dialect] (host : Host)
    (start : String) :
    ((Path.ancestors settingsDepth start).map Path.components =
      ((Path.components start).inits.drop
        (if Path.isAbsolute start = true then 1 else 0)).reverse.take 10) ∧
    (∀ before dir above settings,
      Path.ancestors settingsDepth start = before ++ dir :: above →
      (∀ near ∈ before, host.settingsIn? near = none) → host.settingsIn? dir = some settings →
      host.discoverSettings start = settings) ∧
    ((∀ dir ∈ Path.ancestors settingsDepth start, host.settingsIn? dir = none) →
      host.discoverSettings start = {}) ∧
    (∀ dir, host.holdsSettings dir = false → host.settingsIn? dir = none) ∧
    (host.discoverSettings start = host.nearestSettings start ↔
      ∀ before dir above, Path.ancestors settingsDepth start = before ++ dir :: above →
        (∀ near ∈ before, host.holdsSettings near = false) → host.holdsSettings dir = true →
        host.settingsIn? dir = none → (above.findSome? host.settingsIn?).getD {} = {}) :=
  ⟨Path.components_ancestors settingsDepth start,
    fun _ _ _ _ hdirs hbefore hdir => discoverSettings_of_first hdirs hbefore hdir,
    discoverSettings_of_none, fun _ => settingsIn?_eq_none_of_absent,
    discoverSettings_eq_nearest_iff⟩

/-- Settings in the directory `p`, and a file that is no settings file in the directory below. -/
def Host.unusableNearest : Host :=
  { disk :=
    { nodes :=
      [(["p"], .dir), (["p", "q"], .dir),
       (["p", settingsFileName], .file "[oracle]\nint_size = 32\n".toUTF8 false),
       (["p", "q", settingsFileName], .file "[oracle\n".toUTF8 false)] } }

open Standard in
/-- Below the directory with the unusable file, its file is the nearest, and what is found is from
the directory above. -/
theorem Host.discoverSettings_takes_nearest_usable_sample :
    unusableNearest.settingsIn? "/p/q" = none ∧
      unusableNearest.discoverSettings "/p/q/r" = { resolver := { intSize := 32 } } := by
  have hdirs : Path.ancestors settingsDepth "/p/q/r" = ["/p/q/r", "/p/q"] ++ "/p" :: ["/"] := by
    decide
  exact ⟨by decide +kernel,
    (discoverSettings_takes_nearest_usable unusableNearest "/p/q/r").2.1 _ _ _ _ hdirs
      (by decide +kernel) (by decide +kernel)⟩

open Standard in
/-- A file that cannot be used does not decide, although it is the nearest. -/
theorem Host.discoverSettings_passes_over_nearest :
    unusableNearest.holdsSettings "/p/q" = true ∧ unusableNearest.settingsIn? "/p/q" = none ∧
      unusableNearest.nearestSettings "/p/q" = {} ∧
      unusableNearest.discoverSettings "/p/q" = { resolver := { intSize := 32 } } ∧
      unusableNearest.discoverSettings "/p/q" ≠ unusableNearest.nearestSettings "/p/q" := by
  decide +kernel

end GoProbe
