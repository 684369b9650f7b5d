import Mathlib
import GoProbe.Disk.Locate

/-!
# The paths of places

A place has one absolute path, and that path spells its names again: its steps are the names
(`stepsOf_path`), the path above it is that of the place above it (`parent?_path`), and a path
joined to it is the path of the longer place (`join_path`). All this needs names that hold no slash
and are neither empty nor dots (`Path.IsName`), as the names on a disk are.

`Path.Leads` says that a path spells the names of a place, up to a slash at the end. The paths above
the target of a copy all lead to places above the target (`leads_of_mem_ancestors`).
-/

namespace GoProbe

namespace Path

/-- A name that an entry of a directory can have. -/
structure IsName (name : String) : Prop where
  ne_empty : name ≠ ""
  ne_dot : name ≠ "."
  ne_dots : name ≠ ".."
  no_slash : '/' ∉ name.toList

theorem isName_iff {name : String} :
    IsName name ↔ name ≠ "" ∧ name ≠ "." ∧ name ≠ ".." ∧ '/' ∉ name.toList :=
  ⟨fun h => ⟨h.1, h.2, h.3, h.4⟩, fun ⟨h, h', h'', h'''⟩ => ⟨h, h', h'', h'''⟩⟩

instance (name : String) : Decidable (IsName name) := decidable_of_iff' _ isName_iff

/-- A step of a path: a name or dots. -/
def IsStep (step : String) : Prop := step ≠ "" ∧ '/' ∉ step.toList

variable {name path : String} {names : List String}

theorem IsName.isIdle_eq_false (h : IsName name) : isIdle name = false := by
  simp [isIdle, h.ne_empty, h.ne_dot]

/-! ## Pieces -/

theorem splitChars_eq_splitOn (sep : Char) (cs : List Char) :
    splitChars sep cs = cs.splitOn sep := by
  induction cs with
  | nil => rfl
  | cons c rest ih =>
    rw [splitChars, ih, List.splitOn, List.splitOn, List.splitOnP_cons_eq_if_modifyHead]
    cases hpieces : rest.splitOnP (· == sep) with
    | nil => exact absurd hpieces (List.splitOnP_ne_nil _ _)
    | cons piece pieces => rfl

theorem not_mem_of_mem_splitChars {sep : Char} {cs piece : List Char}
    (h : piece ∈ splitChars sep cs) : sep ∉ piece := by
  induction cs generalizing piece with
  | nil =>
    rw [splitChars, List.mem_singleton] at h
    simp [h]
  | cons c rest ih =>
    rw [splitChars] at h
    split at h
    · next hnil =>
      rw [splitChars_eq_splitOn] at hnil
      exact absurd hnil (List.splitOn_ne_nil sep rest)
    · next first others hsplit =>
      have hothers : ∀ other ∈ first :: others, sep ∉ other := fun other hother =>
        ih (hsplit ▸ hother)
      split at h
      · rcases List.mem_cons.1 h with rfl | h
        · simp
        · exact hothers piece h
      · next hc =>
        rcases List.mem_cons.1 h with rfl | h
        · rw [List.mem_cons, not_or]
          exact ⟨fun heq => hc (by simp [heq]), hothers first List.mem_cons_self⟩
        · exact hothers piece (List.mem_cons_of_mem _ h)

theorem no_slash_of_mem_pieces (h : name ∈ pieces path) : '/' ∉ name.toList := by
  obtain ⟨cs, hcs, rfl⟩ := List.mem_map.1 h
  rw [String.toList_ofList]
  exact not_mem_of_mem_splitChars hcs

/-- Joining names and splitting the text again gives the names. -/
theorem pieces_intercalate (hnames : ∀ name ∈ names, '/' ∉ name.toList) (hne : names ≠ []) :
    pieces ("/".intercalate names) = names := by
  have hchars : ∀ cs ∈ names.map String.toList, '/' ∉ cs := by
    intro cs hcs
    obtain ⟨name, hname, rfl⟩ := List.mem_map.1 hcs
    exact hnames name hname
  rw [pieces, splitChars_eq_splitOn, String.toList_intercalate]
  show ((['/'].intercalate (names.map String.toList)).splitOn '/').map String.ofList = names
  rw [List.splitOn_intercalate '/' hchars (by simpa using hne), List.map_map]
  simp [Function.comp_def]

/-- The pieces of a text, joined again, are the text. -/
theorem intercalate_pieces (path : String) : "/".intercalate (pieces path) = path := by
  rw [← String.toList_inj, String.toList_intercalate, pieces, splitChars_eq_splitOn, List.map_map]
  have htexts : (path.toList.splitOn '/').map (String.toList ∘ String.ofList) =
      path.toList.splitOn '/' := by
    simp [Function.comp_def]
  rw [htexts]
  exact List.intercalate_splitOn '/'

theorem pieces_ne_nil (path : String) : pieces path ≠ [] := by
  rw [pieces, splitChars_eq_splitOn, Ne, List.map_eq_nil_iff]
  exact List.splitOn_ne_nil '/' path.toList

theorem intercalate_ne_empty (hnames : ∀ name ∈ names, IsName name) (hne : names ≠ []) :
    "/".intercalate names ≠ "" := by
  intro hempty
  have hpieces := pieces_intercalate (fun name hname => (hnames name hname).no_slash) hne
  rw [hempty] at hpieces
  exact (hnames "" (hpieces ▸ List.mem_singleton_self "")).ne_empty rfl

/-- The last character of a joined text belongs to the last name. -/
theorem getLast?_intercalate (hnames : ∀ name ∈ names, IsName name) :
    ("/".intercalate names).toList.getLast? ≠ some '/' := by
  rcases names.eq_nil_or_concat' with rfl | ⟨front, last, rfl⟩
  · simp
  · have hlast : IsName last := hnames last (by simp)
    have hend : ("/".intercalate (front ++ [last])).toList.getLast? = last.toList.getLast? := by
      have hne : last.toList ≠ [] := fun h => hlast.ne_empty (String.toList_eq_nil_iff.1 h)
      cases front with
      | nil => simp
      | cons first front =>
        rw [String.intercalate_append_of_ne_nil (by simp) (by simp), String.intercalate_singleton,
          String.toList_append, List.getLast?_append_of_ne_nil _ hne]
    rw [hend]
    exact fun h => hlast.no_slash (List.mem_of_getLast? h)

theorem isAbsolute_intercalate (hnames : ∀ name ∈ names, IsName name) :
    isAbsolute ("/".intercalate names) = false := by
  cases names with
  | nil => rfl
  | cons first rest =>
    have hfirst : IsName first := hnames first List.mem_cons_self
    have hhead : ("/".intercalate (first :: rest)).toList.head? = first.toList.head? := by
      obtain ⟨c, cs, hcs⟩ := List.exists_cons_of_ne_nil fun h =>
        hfirst.ne_empty (String.toList_eq_nil_iff.1 h)
      cases rest with
      | nil => rw [String.intercalate_singleton]
      | cons next rest => simp [String.intercalate_cons_cons, hcs]
    rw [isAbsolute, hhead, beq_eq_false_iff_ne]
    exact fun h => hfirst.no_slash (List.mem_of_head? h)

theorem pieces_name (h : IsName name) : pieces name = [name] := by
  have hname := pieces_intercalate (List.forall_mem_singleton.2 h.no_slash) (List.cons_ne_nil _ _)
  rwa [String.intercalate_singleton] at hname

end Path

namespace Place

open GoProbe.Path (IsName pieces)

variable {place rel : Place} {name : String}

/-- All names of the place are such as a disk has. -/
def Named (place : Place) : Prop := ∀ name ∈ place, IsName name

instance (place : Place) : Decidable place.Named :=
  inferInstanceAs (Decidable (∀ name ∈ place, IsName name))

theorem named_append : Named (place ++ rel) ↔ place.Named ∧ rel.Named := by
  simp only [Named, List.forall_mem_append]

theorem named_singleton : Named [name] ↔ IsName name := by
  simp only [Named, List.forall_mem_singleton]

theorem Named.above {above : Place} (h : place.Named) (habove : above <+: place) :
    above.Named :=
  fun name hname => h name (habove.subset hname)

theorem path_nil : Place.path [] = "/" := by
  rw [Place.path, String.intercalate_nil, String.append_empty]

/-- The path of a place, its root written as an empty name. -/
theorem path_eq_intercalate (hne : place ≠ []) : place.path = "/".intercalate ("" :: place) := by
  obtain ⟨first, rest, rfl⟩ := List.exists_cons_of_ne_nil hne
  rw [Place.path, String.intercalate_cons_cons, String.empty_append]

theorem path_ne_empty (place : Place) : place.path ≠ "" := by
  rw [Place.path, Ne, ← String.toList_eq_nil_iff]
  simp

theorem isAbsolute_path (place : Place) : Path.isAbsolute place.path = true := by
  simp [Path.isAbsolute, Place.path]

theorem no_slash_cons_empty (h : place.Named) : ∀ name ∈ "" :: place, '/' ∉ name.toList := by
  rw [List.forall_mem_cons]
  exact ⟨by simp, fun name hname => (h name hname).no_slash⟩

theorem pieces_path (h : place.Named) (hne : place ≠ []) : pieces place.path = "" :: place := by
  rw [path_eq_intercalate hne]
  exact Path.pieces_intercalate (no_slash_cons_empty h) (by simp)

theorem pieces_path_slash (h : place.Named) (hne : place ≠ []) :
    pieces (place.path ++ "/") = "" :: place ++ [""] := by
  have hpath : place.path ++ "/" = "/".intercalate (("" :: place) ++ [""]) := by
    rw [String.intercalate_append_of_ne_nil (by simp) (by simp), path_eq_intercalate hne,
      String.intercalate_singleton, String.append_empty]
  rw [hpath]
  refine Path.pieces_intercalate ?_ (by simp)
  rw [List.forall_mem_append]
  exact ⟨no_slash_cons_empty h, by simp⟩

theorem filter_names (h : place.Named) : place.filter (· != "") = place := by
  refine List.filter_eq_self.2 fun name hname => ?_
  simpa using (h name hname).ne_empty

/-! ## Steps -/

theorem getLast?_path (h : place.Named) (hne : place ≠ []) :
    place.path.toList.getLast? ≠ some '/' := by
  have hend : place.path.toList.getLast? = ("/".intercalate place).toList.getLast? := by
    have hne' : ("/".intercalate place).toList ≠ [] := fun hnil =>
      Path.intercalate_ne_empty h hne (String.toList_eq_nil_iff.1 hnil)
    rw [Place.path, String.toList_append, List.getLast?_append_of_ne_nil _ hne']
  rw [hend]
  exact Path.getLast?_intercalate h

theorem stepsOf_path (h : place.Named) (hne : place ≠ []) : Disk.stepsOf place.path = place := by
  have hend : (place.path.toList.getLast? == some '/') = false :=
    beq_eq_false_iff_ne.2 (getLast?_path h hne)
  simp only [Disk.stepsOf, hend, pieces_path h hne]
  exact filter_names h

theorem stepsOf_path_slash (h : place.Named) (hne : place ≠ []) :
    Disk.stepsOf (place.path ++ "/") = place ++ ["."] := by
  have hend : ((place.path ++ "/").toList.getLast? == some '/') = true := by simp
  simp only [Disk.stepsOf, hend, pieces_path_slash h hne]
  simp only [List.cons_append, List.filter_cons, List.filter_append, filter_names h]
  simp

theorem stepsOf_root : Disk.stepsOf "/" = ["."] := by
  decide +kernel

/-! ## Joined paths -/

theorem intercalate_append (hrel : rel ≠ []) (hne : place ≠ []) :
    "/".intercalate (place ++ rel) = "/".intercalate place ++ "/" ++ "/".intercalate rel :=
  String.intercalate_append_of_ne_nil hne hrel

/-- A path joined to that of a place is the path of the longer place. -/
theorem join_path (h : place.Named) (hrel : rel.Named) (hne : rel ≠ []) :
    Path.join place.path ("/".intercalate rel) = (place ++ rel).path := by
  rw [Path.join, if_neg (by simp [Path.isAbsolute_intercalate hrel])]
  rcases eq_or_ne place [] with rfl | hplace
  · rw [path_nil, if_pos (by simp), List.nil_append, Place.path]
  · have hend := getLast?_path h hplace
    rw [if_neg (by simp [path_ne_empty, hend]), Place.path, Place.path,
      intercalate_append hne hplace, String.append_assoc, String.append_assoc, String.append_assoc]

theorem join_path_empty (h : place.Named) (hplace : place ≠ []) :
    Path.join place.path "" = place.path ++ "/" := by
  have hend := getLast?_path h hplace
  rw [Path.join, if_neg (by simp [Path.isAbsolute]), if_neg (by simp [path_ne_empty, hend]),
    String.append_empty]

/-- A path joined to a relative path. -/
theorem join_intercalate {names : Place} (hrel : rel.Named) (hnames : names.Named)
    (hne : names ≠ []) :
    Path.join ("/".intercalate rel) ("/".intercalate names) = "/".intercalate (rel ++ names) := by
  rw [Path.join, if_neg (by simp [Path.isAbsolute_intercalate hnames])]
  rcases eq_or_ne rel [] with rfl | hrelne
  · rw [String.intercalate_nil, if_pos (by simp), List.nil_append, String.empty_append]
  · have hbase : ¬ ("/".intercalate rel == "" ||
        ("/".intercalate rel).toList.getLast? == some '/') = true := by
      rw [Bool.or_eq_true, beq_iff_eq, beq_iff_eq, not_or]
      exact ⟨Path.intercalate_ne_empty hrel hrelne, Path.getLast?_intercalate hrel⟩
    rw [if_neg hbase, intercalate_append hne hrelne]

/-! ## The paths above a path -/

theorem start_slash (text : String) : Path.start ("/" ++ text) = "/" := by
  have hslash : ("/" ++ text).toList = '/' :: text.toList := by simp
  simp only [Path.start, hslash]

theorem body_slash (text : String) : Path.body ("/" ++ text) = pieces text := by
  have hrest : ("/" ++ text).toList.drop "/".length = text.toList := by
    simp only [String.toList_append]
    rfl
  rw [Path.body, start_slash, hrest, String.ofList_toList]

theorem parent?_root : Path.parent? "/" = none := by
  decide +kernel

/-- The path above one whose pieces are known. -/
theorem parent?_slash {text : String} (h : Named (place ++ [name])) {idle : List String}
    (hidle : ∀ piece ∈ idle, Path.isIdle piece = true)
    (hpieces : pieces text = place ++ [name] ++ idle) :
    Path.parent? ("/" ++ text) = some place.path := by
  have hname : Path.isIdle name = false := (h name (by simp)).isIdle_eq_false
  have hlast : (place ++ [name] ++ idle).reverse.dropWhile Path.isIdle = name :: place.reverse := by
    rw [List.reverse_append, List.dropWhile_append_of_pos (by simpa using hidle),
      List.reverse_append, List.reverse_singleton, List.singleton_append,
      List.dropWhile_cons_of_neg (by simp [hname])]
  have hplace : place.reverse.dropWhile Path.isIdle = place.reverse := by
    cases hreverse : place.reverse with
    | nil => rfl
    | cons last front =>
      have hlast : last ∈ place := by rw [← List.mem_reverse, hreverse]; exact List.mem_cons_self
      have hidle : Path.isIdle last = false :=
        (h last (List.mem_append_left _ hlast)).isIdle_eq_false
      rw [List.dropWhile_cons_of_neg (by simp [hidle])]
  rw [Path.parent?, body_slash, hpieces, hlast, start_slash]
  simp only [hplace, List.reverse_reverse]
  rfl

/-- The path above that of a place. -/
theorem parent?_path (h : Named (place ++ [name])) :
    Path.parent? (place ++ [name]).path = some place.path := by
  refine parent?_slash h (List.forall_mem_nil _) ?_
  rw [List.append_nil]
  exact Path.pieces_intercalate (fun name hname => (h name hname).no_slash) (by simp)

theorem parent?_path_slash (h : Named (place ++ [name])) :
    Path.parent? ((place ++ [name]).path ++ "/") = some place.path := by
  have hpieces : pieces ("/".intercalate (place ++ [name]) ++ "/") = place ++ [name] ++ [""] := by
    have htext : "/".intercalate (place ++ [name]) ++ "/" =
        "/".intercalate (place ++ [name] ++ [""]) := by
      rw [String.intercalate_append_of_ne_nil (m := [""]) (by simp) (by simp),
        String.intercalate_singleton, String.append_empty]
    rw [htext]
    refine Path.pieces_intercalate ?_ (by simp)
    rw [List.forall_mem_append]
    exact ⟨fun name hname => (h name hname).no_slash, by simp⟩
  rw [Place.path, String.append_assoc]
  exact parent?_slash h (List.forall_mem_singleton.2 rfl) hpieces

theorem ancestors_of_parent? {path above : String} (h : Path.parent? path = some above)
    (count : Nat) : Path.ancestors (count + 1) path = path :: Path.ancestors count above := by
  simp only [Path.ancestors, h]

theorem ancestors_root (count : Nat) : Path.ancestors (count + 1) "/" = ["/"] := by
  simp only [Path.ancestors, parent?_root]

/-- The paths above that of a place are those of the places above it. -/
theorem mem_ancestors_path (h : place.Named) {count : Nat} {path : String}
    (hpath : path ∈ Path.ancestors count place.path) :
    ∃ above : Place, above <+: place ∧ path = above.path := by
  induction count generalizing place with
  | zero => simp [Path.ancestors] at hpath
  | succ count ih =>
    rcases place.eq_nil_or_concat' with rfl | ⟨front, last, rfl⟩
    · rw [path_nil, ancestors_root, List.mem_singleton] at hpath
      exact ⟨[], List.prefix_rfl, hpath.trans path_nil.symm⟩
    · rw [ancestors_of_parent? (parent?_path h)] at hpath
      rcases List.mem_cons.1 hpath with rfl | hpath
      · exact ⟨front ++ [last], List.prefix_rfl, rfl⟩
      · obtain ⟨above, habove, rfl⟩ := ih (named_append.1 h).1 hpath
        exact ⟨above, habove.trans (List.prefix_append front [last]), rfl⟩

end Place

namespace Path

variable {place rel : Place}

/-- The path spells the names of a place, perhaps with a slash at its end. -/
structure Leads (path : String) (place : Place) : Prop where
  absolute : isAbsolute path = true
  steps : Disk.stepsOf path = place ∨ Disk.stepsOf path = place ++ ["."]

theorem leads_path (h : place.Named) : Leads place.path place := by
  refine ⟨place.isAbsolute_path, ?_⟩
  rcases eq_or_ne place [] with rfl | hne
  · exact .inr (by rw [Place.path_nil, Place.stepsOf_root, List.nil_append])
  · exact .inl (Place.stepsOf_path h hne)

theorem leads_path_slash (h : place.Named) (hne : place ≠ []) :
    Leads (place.path ++ "/") place := by
  refine ⟨?_, .inr (Place.stepsOf_path_slash h hne)⟩
  simp [isAbsolute, Place.path]

/-- The path of a target in a copy leads to it. -/
theorem leads_join (h : Place.Named (place ++ rel)) (hne : place ≠ []) :
    Leads (join place.path ("/".intercalate rel)) (place ++ rel) := by
  obtain ⟨hplace, hrel⟩ := Place.named_append.1 h
  rcases eq_or_ne rel [] with rfl | hrelne
  · rw [String.intercalate_nil, Place.join_path_empty hplace hne, List.append_nil]
    exact leads_path_slash hplace hne
  · rw [Place.join_path hplace hrel hrelne]
    exact leads_path h

/-- The paths above the target of a copy lead to places above the target. -/
theorem leads_of_mem_ancestors (h : Place.Named (place ++ rel)) (hne : place ≠ []) {count : Nat}
    {path : String} (hpath : path ∈ ancestors count (join place.path ("/".intercalate rel))) :
    ∃ above, above <+: place ++ rel ∧ Leads path above := by
  obtain ⟨hplace, hrel⟩ := Place.named_append.1 h
  have hleads {count : Nat} {target : Place} (hpre : target <+: place ++ rel)
      (hpath : path ∈ ancestors count target.path) :
      ∃ above, above <+: place ++ rel ∧ Leads path above := by
    obtain ⟨above, habove, rfl⟩ := Place.mem_ancestors_path (h.above hpre) hpath
    exact ⟨above, habove.trans hpre, leads_path (h.above (habove.trans hpre))⟩
  rcases eq_or_ne rel [] with rfl | hrelne
  · -- The target is the place itself, with a slash at the end of its path.
    rw [String.intercalate_nil, Place.join_path_empty hplace hne] at hpath
    obtain ⟨front, last, rfl⟩ := place.eq_nil_or_concat'.resolve_left hne
    cases count with
    | zero => simp [ancestors] at hpath
    | succ count =>
      rw [Place.ancestors_of_parent? (Place.parent?_path_slash hplace)] at hpath
      rcases List.mem_cons.1 hpath with rfl | hpath
      · exact ⟨front ++ [last], List.prefix_append _ [], leads_path_slash hplace hne⟩
      · exact hleads ((List.prefix_append front [last]).trans (List.prefix_append _ [])) hpath
  · rw [Place.join_path hplace hrel hrelne] at hpath
    exact hleads List.prefix_rfl hpath

end Path

end GoProbe
