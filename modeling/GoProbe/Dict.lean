/-!
# Dictionaries in key order

A `Dict α` maps texts to values. Its entries stand in strictly ascending key order, so two
dictionaries with the same bindings are equal, and listing the entries gives the order in which
reports write them. Only insertion and look-up are offered: nothing here ever removes a binding.
-/

namespace GoProbe

/-- A finite map from texts, its entries in strictly ascending order of the keys. -/
structure Dict (α : Type) where
  entries : List (String × α)
  sorted : entries.Pairwise fun a b => a.1 < b.1

namespace Dict

variable {α : Type}

/-- The map without bindings. -/
def empty : Dict α := ⟨[], .nil⟩

instance : EmptyCollection (Dict α) := ⟨empty⟩

instance : Inhabited (Dict α) := ⟨empty⟩

/-- Binds `key` in a list that is in key order, replacing an earlier binding. -/
def insertEntry (key : String) (value : α) : List (String × α) → List (String × α)
  | [] => [(key, value)]
  | (k, v) :: rest =>
    if key < k then (key, value) :: (k, v) :: rest
    else if k < key then (k, v) :: insertEntry key value rest
    else (key, value) :: rest

theorem mem_insertEntry {key : String} {value : α} {entries : List (String × α)}
    {entry : String × α} (h : entry ∈ insertEntry key value entries) :
    entry = (key, value) ∨ entry ∈ entries := by
  induction entries with
  | nil => simpa [insertEntry] using h
  | cons head rest ih =>
    obtain ⟨k, v⟩ := head
    simp only [insertEntry] at h
    split at h
    · simpa using h
    · split at h
      · rcases List.mem_cons.1 h with h | h
        · simp [h]
        · rcases ih h with h | h <;> simp [h]
      · rcases List.mem_cons.1 h with h | h <;> simp [h]

theorem sorted_insertEntry (key : String) (value : α) {entries : List (String × α)}
    (h : entries.Pairwise fun a b => a.1 < b.1) :
    (insertEntry key value entries).Pairwise fun a b => a.1 < b.1 := by
  induction entries with
  | nil => simp [insertEntry]
  | cons head rest ih =>
    obtain ⟨k, v⟩ := head
    rw [List.pairwise_cons] at h
    obtain ⟨hhead, hrest⟩ := h
    simp only [insertEntry]
    split
    · next hlt =>
      refine List.pairwise_cons.2 ⟨fun b hb => ?_, List.pairwise_cons.2 ⟨hhead, hrest⟩⟩
      rcases List.mem_cons.1 hb with rfl | hb
      · exact hlt
      · exact String.lt_trans hlt (hhead b hb)
    · next hnlt =>
      split
      · next hgt =>
        refine List.pairwise_cons.2 ⟨fun b hb => ?_, ih hrest⟩
        rcases mem_insertEntry hb with rfl | hb
        · exact hgt
        · exact hhead b hb
      · next hngt =>
        have hkey : k = key :=
          String.le_antisymm (String.not_lt.1 hnlt) (String.not_lt.1 hngt)
        subst hkey
        exact List.pairwise_cons.2 ⟨hhead, hrest⟩

/-- Binds `key` to `value`, replacing an earlier binding. -/
def insert (dict : Dict α) (key : String) (value : α) : Dict α :=
  ⟨insertEntry key value dict.entries, sorted_insertEntry key value dict.sorted⟩

/-- The value bound to `key`. -/
def get? (dict : Dict α) (key : String) : Option α :=
  dict.entries.lookup key

/-- Whether `key` is bound. -/
def contains (dict : Dict α) (key : String) : Bool :=
  (dict.get? key).isSome

/-- The bound keys in ascending order. -/
def keys (dict : Dict α) : List String :=
  dict.entries.map (·.1)

/-- Binds each pair in turn, so that the last of several pairs with one key stays. -/
def ofList (pairs : List (String × α)) : Dict α :=
  pairs.foldl (fun dict pair => dict.insert pair.1 pair.2) empty

/-- Appends to the list bound to `key`; an unbound key counts as bound to the empty list. -/
def append (dict : Dict (List α)) (key : String) (values : List α) : Dict (List α) :=
  dict.insert key ((dict.get? key).getD [] ++ values)

@[simp] theorem get?_empty (key : String) : (empty : Dict α).get? key = none := rfl

theorem lookup_cons_eq_ite (key other : String) (value : α) (rest : List (String × α)) :
    ((key, value) :: rest).lookup other =
      if other = key then some value else rest.lookup other := by
  by_cases h : other = key
  · simp [h]
  · have hbeq : (other == key) = false := by simpa using h
    simp [List.lookup_cons, hbeq, h]

theorem lookup_insertEntry (key other : String) (value : α) (entries : List (String × α)) :
    (insertEntry key value entries).lookup other =
      if other = key then some value else entries.lookup other := by
  induction entries with
  | nil => simp [insertEntry, lookup_cons_eq_ite]
  | cons head rest ih =>
    obtain ⟨k, v⟩ := head
    simp only [insertEntry]
    split
    · simp [lookup_cons_eq_ite]
    · next hnlt =>
      split
      · next hgt =>
        have hne : k ≠ key := fun heq => String.lt_irrefl k (heq ▸ hgt)
        by_cases hk : other = k <;> simp [lookup_cons_eq_ite, ih, hk, hne]
      · next hngt =>
        have hkey : k = key :=
          String.le_antisymm (String.not_lt.1 hnlt) (String.not_lt.1 hngt)
        subst hkey
        by_cases ho : other = k <;> simp [lookup_cons_eq_ite, ho]

/-- Insertion changes the binding of one key only. -/
theorem get?_insert (dict : Dict α) (key other : String) (value : α) :
    (dict.insert key value).get? other = if other = key then some value else dict.get? other :=
  lookup_insertEntry key other value dict.entries

/-- A key before all others is not bound. -/
theorem lookup_eq_none_of_lt {key : String} {entries : List (String × α)}
    (h : ∀ entry ∈ entries, key < entry.1) : entries.lookup key = none := by
  induction entries with
  | nil => rfl
  | cons head rest ih =>
    obtain ⟨k, v⟩ := head
    rw [List.forall_mem_cons] at h
    have hne : key ≠ k := fun heq => String.lt_irrefl k (heq ▸ h.1)
    rw [lookup_cons_eq_ite, if_neg hne, ih h.2]

/-- The least bound key is the same in lists with the same bindings. -/
theorem not_lt_of_lookup_eq {k k' : String} {v v' : α} {rest rest' : List (String × α)}
    (hrest' : ∀ entry ∈ rest', k' < entry.1)
    (h : ((k, v) :: rest).lookup k = ((k', v') :: rest').lookup k) : ¬ k < k' := by
  intro hlt
  have hnone : ((k', v') :: rest').lookup k = none := by
    apply lookup_eq_none_of_lt
    intro entry hentry
    rcases List.mem_cons.1 hentry with rfl | hentry
    · exact hlt
    · exact String.lt_trans hlt (hrest' entry hentry)
  rw [lookup_cons_eq_ite, if_pos rfl, hnone] at h
  cases h

theorem eq_of_lookup_eq {entries others : List (String × α)}
    (hentries : entries.Pairwise fun a b => a.1 < b.1)
    (hothers : others.Pairwise fun a b => a.1 < b.1)
    (h : ∀ key, entries.lookup key = others.lookup key) : entries = others := by
  induction entries generalizing others with
  | nil =>
    match others with
    | [] => rfl
    | (k, v) :: rest => simpa [lookup_cons_eq_ite] using h k
  | cons head rest ih =>
    obtain ⟨k, v⟩ := head
    match others with
    | [] => simpa [lookup_cons_eq_ite] using h k
    | (k', v') :: rest' =>
      rw [List.pairwise_cons] at hentries hothers
      obtain rfl : k = k' :=
        String.le_antisymm
          (String.not_lt.1 (not_lt_of_lookup_eq hentries.1 (h k').symm))
          (String.not_lt.1 (not_lt_of_lookup_eq hothers.1 (h k)))
      have hvalue := h k
      rw [lookup_cons_eq_ite, lookup_cons_eq_ite, if_pos rfl, if_pos rfl] at hvalue
      obtain rfl := Option.some.inj hvalue
      refine congrArg ((k, v) :: ·) (ih hentries.2 hothers.2 fun key => ?_)
      by_cases hkey : key = k
      · rw [hkey, lookup_eq_none_of_lt hentries.1, lookup_eq_none_of_lt hothers.1]
      · have hrest := h key
        rwa [lookup_cons_eq_ite, lookup_cons_eq_ite, if_neg hkey, if_neg hkey] at hrest

/-- Dictionaries with the same bindings are equal. -/
theorem ext_get? {dict other : Dict α} (h : ∀ key, dict.get? key = other.get? key) :
    dict = other := by
  obtain ⟨entries, hentries⟩ := dict
  obtain ⟨others, hothers⟩ := other
  obtain rfl := eq_of_lookup_eq hentries hothers h
  rfl

/-- A key after all others goes to the end. -/
theorem insertEntry_of_forall_lt {key : String} {entries : List (String × α)}
    (h : ∀ entry ∈ entries, entry.1 < key) (value : α) :
    insertEntry key value entries = entries ++ [(key, value)] := by
  induction entries with
  | nil => rfl
  | cons head rest ih =>
    obtain ⟨k, v⟩ := head
    rw [List.forall_mem_cons] at h
    have hnlt : ¬ key < k := fun hlt => String.lt_irrefl k (String.lt_trans h.1 hlt)
    rw [insertEntry, if_neg hnlt, if_pos h.1, ih h.2, List.cons_append]

theorem entries_foldl_insert (dict : Dict α) (pairs : List (String × α))
    (h : (dict.entries ++ pairs).Pairwise fun a b => a.1 < b.1) :
    (pairs.foldl (fun dict pair => dict.insert pair.1 pair.2) dict).entries =
      dict.entries ++ pairs := by
  induction pairs generalizing dict with
  | nil => simp
  | cons pair rest ih =>
    have hlast : ∀ entry ∈ dict.entries, entry.1 < pair.1 := fun entry hentry =>
      (List.pairwise_append.1 h).2.2 entry hentry pair List.mem_cons_self
    have hinsert : (dict.insert pair.1 pair.2).entries = dict.entries ++ [pair] :=
      insertEntry_of_forall_lt hlast pair.2
    rw [List.foldl_cons, ih _ (by simpa [hinsert] using h), hinsert, List.append_assoc,
      List.singleton_append]

/-- A dictionary is made of its entries. -/
theorem ofList_entries (dict : Dict α) : ofList dict.entries = dict := by
  have hentries : (ofList dict.entries).entries = dict.entries :=
    entries_foldl_insert empty dict.entries dict.sorted
  refine ext_get? fun key => ?_
  rw [get?, get?, hentries]

end Dict

end GoProbe
