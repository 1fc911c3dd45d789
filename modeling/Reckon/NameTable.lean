/-!
# Tables of names

* `NameTable`: values under names, sorted by name, each name once.
* `NameTable.find?`, `NameTable.insert`, `NameTable.names`: look-up, definition or redefinition,
  and the names in order.
* `find?_insert`: a definition is found under its name and changes nothing else.
* `find?_foldl_insert`: what is found after several definitions under different names.
* `ext_find?`: a table is what is found in it.
-/

namespace Reckon

/-- Values under names, sorted by name. -/
structure NameTable (α : Type) where
  entries : List (String × α)
  sorted : (entries.map Prod.fst).Pairwise (· < ·)

namespace NameTable

variable {α : Type}

/-! ## Entries -/

/-- Puts an entry where it belongs, in place of one with the same name. -/
def insertEntry (name : String) (value : α) : List (String × α) → List (String × α)
  | [] => [(name, value)]
  | (key, old) :: rest =>
    if name < key then (name, value) :: (key, old) :: rest
    else if name = key then (name, value) :: rest
    else (key, old) :: insertEntry name value rest

theorem mem_names_insertEntry {name key : String} {value : α} {entries : List (String × α)}
    (h : key ∈ (insertEntry name value entries).map Prod.fst) :
    key = name ∨ key ∈ entries.map Prod.fst := by
  induction entries with
  | nil => simpa [insertEntry] using h
  | cons entry rest ih =>
    obtain ⟨k, old⟩ := entry
    unfold insertEntry at h
    split at h
    · simpa using h
    · split at h
      · next heq => subst heq; simpa using h
      · simp only [List.map_cons, List.mem_cons] at h ⊢
        rcases h with rfl | h
        · exact .inr (.inl rfl)
        · exact (ih h).imp_right .inr

theorem sorted_insertEntry {name : String} {value : α} {entries : List (String × α)}
    (h : (entries.map Prod.fst).Pairwise (· < ·)) :
    ((insertEntry name value entries).map Prod.fst).Pairwise (· < ·) := by
  induction entries with
  | nil => simp [insertEntry]
  | cons entry rest ih =>
    obtain ⟨key, old⟩ := entry
    obtain ⟨hhead, htail⟩ := List.pairwise_cons.1 h
    unfold insertEntry
    split
    · next hlt =>
      refine List.pairwise_cons.2 ⟨fun k hk => ?_, h⟩
      rcases List.mem_cons.1 hk with rfl | hk
      · exact hlt
      · exact String.lt_trans hlt (hhead k hk)
    · split
      · next heq => subst heq; exact List.pairwise_cons.2 ⟨hhead, htail⟩
      · next hlt hne =>
        refine List.pairwise_cons.2 ⟨fun k hk => ?_, ih htail⟩
        rcases mem_names_insertEntry hk with rfl | hk
        · rcases String.le_total k key with hle | hle
          · exact absurd (Std.lt_of_le_of_ne hle hne) hlt
          · exact Std.lt_of_le_of_ne hle (fun heq => hne heq.symm)
        · exact hhead k hk

/-! ## Tables -/

def empty : NameTable α := ⟨[], .nil⟩

instance : Inhabited (NameTable α) := ⟨empty⟩

def find? (t : NameTable α) (name : String) : Option α := t.entries.lookup name

/-- Defines `name`, or redefines it. -/
def insert (t : NameTable α) (name : String) (value : α) : NameTable α :=
  ⟨insertEntry name value t.entries, sorted_insertEntry t.sorted⟩

def names (t : NameTable α) : List String := t.entries.map Prod.fst

theorem lookup_entry (key k : String) (value : α) (entries : List (String × α)) :
    ((k, value) :: entries).lookup key = if key = k then some value else entries.lookup key := by
  rw [List.lookup_cons]
  by_cases h : key = k
  · simp [h]
  · rw [if_neg h, beq_false_of_ne h]

theorem lookup_insertEntry (name key : String) (value : α) (entries : List (String × α)) :
    (insertEntry name value entries).lookup key =
      if key = name then some value else entries.lookup key := by
  induction entries with
  | nil => rw [insertEntry, lookup_entry]
  | cons entry rest ih =>
    obtain ⟨k, old⟩ := entry
    unfold insertEntry
    split
    · rw [lookup_entry]
    · split
      · next heq =>
        subst heq
        rw [lookup_entry, lookup_entry]
        split <;> rfl
      · next hne =>
        rw [lookup_entry, lookup_entry, ih]
        by_cases hk : key = k
        · rw [if_pos hk, if_pos hk, if_neg (fun h => hne (h.symm.trans hk))]
        · rw [if_neg hk, if_neg hk]

/-- A definition is found under its name and changes nothing else. -/
theorem find?_insert (t : NameTable α) (name key : String) (value : α) :
    (t.insert name value).find? key = if key = name then some value else t.find? key :=
  lookup_insertEntry name key value t.entries

theorem find?_foldl_insert {ι : Type} (name : ι → String) (value : ι → α) {items : List ι}
    (hnames : (items.map name).Nodup) (t : NameTable α) (key : String) :
    (items.foldl (fun t i => t.insert (name i) (value i)) t).find? key =
      ((items.find? fun i => name i = key).map value).or (t.find? key) := by
  induction items generalizing t with
  | nil => rfl
  | cons i items ih =>
    obtain ⟨hfirst, hrest⟩ := List.nodup_cons.1 hnames
    rw [List.foldl_cons, ih hrest, find?_insert, List.find?_cons]
    by_cases hkey : name i = key
    · have hnone : items.find? (fun j => name j = key) = none := by
        apply List.find?_eq_none.2
        intro j hj heq
        have hsame : name j = name i := (of_decide_eq_true heq).trans hkey.symm
        exact hfirst (hsame ▸ List.mem_map_of_mem hj)
      rw [hnone, if_pos hkey.symm, decide_eq_true hkey]
      rfl
    · rw [if_neg fun heq => hkey heq.symm, decide_eq_false hkey]

/-! ## Extensionality -/

theorem lookup_eq_none {key : String} {entries : List (String × α)}
    (h : ∀ k ∈ entries.map Prod.fst, key < k) : entries.lookup key = none := by
  apply List.lookup_eq_none_iff.2
  intro entry hentry
  have hlt := h entry.1 (List.mem_map_of_mem hentry)
  apply bne_iff_ne.2
  rintro rfl
  exact String.lt_irrefl _ hlt

/-- A name that is less than all names of the other entries is not found among them. -/
theorem not_lt_of_lookup_eq {k k' : String} {value value' : α} {rest rest' : List (String × α)}
    (hhead : ∀ j ∈ rest'.map Prod.fst, k' < j)
    (h : ((k, value) :: rest).lookup k = ((k', value') :: rest').lookup k) : ¬ k < k' := by
  intro hlt
  have hnone : ((k', value') :: rest').lookup k = none := by
    apply lookup_eq_none
    intro j hj
    rcases List.mem_cons.1 hj with rfl | hj
    · exact hlt
    · exact String.lt_trans hlt (hhead j hj)
  rw [hnone, lookup_entry, if_pos rfl] at h
  cases h

theorem eq_of_lookup_eq {entries entries' : List (String × α)}
    (hsorted : (entries.map Prod.fst).Pairwise (· < ·))
    (hsorted' : (entries'.map Prod.fst).Pairwise (· < ·))
    (h : ∀ key, entries.lookup key = entries'.lookup key) : entries = entries' := by
  induction entries generalizing entries' with
  | nil =>
    cases entries' with
    | nil => rfl
    | cons entry rest =>
      have hfound := h entry.1
      rw [lookup_entry, if_pos rfl] at hfound
      cases hfound
  | cons entry rest ih =>
    obtain ⟨k, value⟩ := entry
    obtain ⟨hhead, htail⟩ := List.pairwise_cons.1 hsorted
    cases entries' with
    | nil =>
      have hfound := h k
      rw [lookup_entry, if_pos rfl] at hfound
      cases hfound
    | cons entry' rest' =>
      obtain ⟨k', value'⟩ := entry'
      obtain ⟨hhead', htail'⟩ := List.pairwise_cons.1 hsorted'
      obtain rfl : k = k' := by
        apply String.le_antisymm
        · exact String.not_lt.1 (not_lt_of_lookup_eq hhead (h k').symm)
        · exact String.not_lt.1 (not_lt_of_lookup_eq hhead' (h k))
      have hvalue := h k
      rw [lookup_entry, lookup_entry, if_pos rfl, if_pos rfl] at hvalue
      obtain rfl := Option.some.inj hvalue
      have hrest : ∀ key, rest.lookup key = rest'.lookup key := by
        intro key
        by_cases hkey : key = k
        · rw [hkey, lookup_eq_none hhead, lookup_eq_none hhead']
        · have hfound := h key
          rwa [lookup_entry, lookup_entry, if_neg hkey, if_neg hkey] at hfound
      rw [ih htail htail' hrest]

/-- A table is what is found in it. -/
theorem ext_find? {t t' : NameTable α} (h : ∀ name, t.find? name = t'.find? name) : t = t' := by
  obtain ⟨entries, hsorted⟩ := t
  obtain ⟨entries', hsorted'⟩ := t'
  obtain rfl := eq_of_lookup_eq hsorted hsorted' h
  rfl

end NameTable

end Reckon
