import FacetedSearch.Entries
import FacetedSearch.Proofs.FirstPlaces
import Mathlib.Data.List.Forall2
import Mathlib.Data.List.Induction
import Mathlib.Data.List.Nodup

/-!
Laws of ordered maps. Setting the value of one name leaves the others alone, in value and in place,
so that erasing a name and setting others can be done in either order. The map of a list has the last
entry of each name, and maps of lists that are related entry by entry are related so again.
-/

namespace FacetedSearch.Entries

variable {α β : Type}

@[simp]
theorem find?_nil (key : String) : find? ([] : Entries α) key = none := rfl

theorem find?_cons (name : String) (a : α) (rest : Entries α) (key : String) :
    find? ((name, a) :: rest) key = if name = key then some a else find? rest key := rfl

theorem find?_put_self (entries : Entries α) (key : String) (a : α) :
    (entries.put key a).find? key = some a := by
  induction entries with
  | nil => simp [put, find?_cons]
  | cons entry rest ih =>
      obtain ⟨name, old⟩ := entry
      by_cases h : name = key
      · rw [put, if_pos h, find?_cons, if_pos h]
      · rw [put, if_neg h, find?_cons, if_neg h, ih]

theorem find?_put_of_ne (entries : Entries α) {key other : String} (a : α) (h : other ≠ key) :
    (entries.put key a).find? other = entries.find? other := by
  induction entries with
  | nil => simp [put, find?_cons, h.symm]
  | cons entry rest ih =>
      obtain ⟨name, old⟩ := entry
      by_cases hkey : name = key
      · subst hkey
        rw [put, if_pos rfl, find?_cons, find?_cons, if_neg h.symm, if_neg h.symm]
      · rw [put, if_neg hkey, find?_cons, find?_cons, ih]

@[simp]
theorem erase_nil (key : String) : erase ([] : Entries α) key = [] := rfl

theorem erase_cons_self (key : String) (a : α) (rest : Entries α) :
    erase ((key, a) :: rest) key = rest.erase key := by
  simp [erase]

theorem erase_cons_of_ne {name key : String} (a : α) (rest : Entries α) (h : name ≠ key) :
    erase ((name, a) :: rest) key = (name, a) :: rest.erase key := by
  simp [erase, h]

theorem find?_erase_of_ne (entries : Entries α) {key other : String} (h : other ≠ key) :
    (entries.erase key).find? other = entries.find? other := by
  induction entries with
  | nil => rfl
  | cons entry rest ih =>
      obtain ⟨name, a⟩ := entry
      by_cases hkey : name = key
      · subst hkey
        rw [erase_cons_self, ih, find?_cons, if_neg h.symm]
      · rw [erase_cons_of_ne _ _ hkey, find?_cons, find?_cons, ih]

/-- Erasing a name undoes setting it. -/
theorem erase_put_self (entries : Entries α) (key : String) (a : α) :
    (entries.put key a).erase key = entries.erase key := by
  induction entries with
  | nil => simp [put, erase]
  | cons entry rest ih =>
      obtain ⟨name, old⟩ := entry
      by_cases h : name = key
      · subst h
        simp only [put, if_pos, erase_cons_self]
      · simp only [put, if_neg h]
        rw [erase_cons_of_ne _ _ h, erase_cons_of_ne _ _ h, ih]

/-- Setting one name and erasing another can be done in either order. -/
theorem erase_put_of_ne (entries : Entries α) {key other : String} (a : α) (h : other ≠ key) :
    (entries.put other a).erase key = (entries.erase key).put other a := by
  induction entries with
  | nil => simp [put, erase, h]
  | cons entry rest ih =>
      obtain ⟨name, old⟩ := entry
      by_cases hother : name = other
      · subst hother
        rw [put, if_pos rfl, erase_cons_of_ne _ _ h, erase_cons_of_ne _ _ h, put, if_pos rfl]
      · rw [put, if_neg hother]
        by_cases hkey : name = key
        · subst hkey
          rw [erase_cons_self, erase_cons_self, ih]
        · rw [erase_cons_of_ne _ _ hkey, erase_cons_of_ne _ _ hkey, put, if_neg hother, ih]

@[simp]
theorem putAll_nil (entries : Entries α) : entries.putAll [] = entries := rfl

theorem putAll_cons (entries : Entries α) (news : Entries α) (entry : String × α) :
    entries.putAll (entry :: news) = (entries.put entry.1 entry.2).putAll news := rfl

theorem putAll_append (entries news more : Entries α) :
    entries.putAll (news ++ more) = (entries.putAll news).putAll more := by
  simp only [putAll, List.foldl_append]

theorem putAll_concat (entries news : Entries α) (entry : String × α) :
    entries.putAll (news ++ [entry]) = (entries.putAll news).put entry.1 entry.2 :=
  putAll_append entries news [entry]

theorem ofList_concat (entries : Entries α) (entry : String × α) :
    ofList (entries ++ [entry]) = (ofList entries).put entry.1 entry.2 :=
  putAll_concat [] entries entry

/-- Without a name, a map with more entries is the map without it and those of other names. -/
theorem erase_putAll (entries news : Entries α) (key : String) :
    (entries.putAll news).erase key = (entries.erase key).putAll (news.erase key) := by
  induction news generalizing entries with
  | nil => rfl
  | cons entry rest ih =>
      obtain ⟨name, a⟩ := entry
      rw [putAll_cons, ih]
      by_cases h : name = key
      · subst h
        rw [erase_put_self, erase_cons_self]
      · rw [erase_put_of_ne _ _ h, erase_cons_of_ne _ _ h, putAll_cons]

theorem erase_mapValues (f : α → β) (entries : Entries α) (key : String) :
    (mapValues f entries).erase key = mapValues f (entries.erase key) := by
  simp only [erase, mapValues, List.filter_map]
  rfl

theorem names_mapValues (f : α → β) (entries : Entries α) :
    (mapValues f entries).names = entries.names := by
  simp [mapValues, names]

theorem mem_of_find? {entries : Entries α} {key : String} {a : α}
    (h : entries.find? key = some a) : (key, a) ∈ entries := by
  induction entries with
  | nil => cases h
  | cons entry rest ih =>
      rw [find?_cons] at h
      split_ifs at h with hkey
      · cases h
        subst hkey
        exact List.mem_cons_self
      · exact List.mem_cons_of_mem _ (ih h)

theorem find?_eq_none_of_not_mem {entries : Entries α} {key : String}
    (h : key ∉ entries.names) : entries.find? key = none := by
  cases hfind : entries.find? key with
  | none => rfl
  | some a => exact absurd (List.mem_map_of_mem (mem_of_find? hfind)) h

theorem contains_eq_false_iff {entries : Entries α} {key : String} :
    entries.contains key = false ↔ key ∉ entries.names := by
  constructor
  · intro h hmem
    induction entries with
    | nil => cases hmem
    | cons entry rest ih =>
        rw [contains, find?_cons] at h
        split_ifs at h with hname
        · cases h
        · rcases List.mem_cons.mp hmem with rfl | hrest
          · exact hname rfl
          · exact ih h hrest
  · intro h
    rw [contains, find?_eq_none_of_not_mem h]
    rfl

theorem contains_iff {entries : Entries α} {key : String} :
    entries.contains key = true ↔ key ∈ entries.names := by
  rw [← not_iff_not, Bool.not_eq_true, contains_eq_false_iff]

/-- Where names are distinct, an entry is what its name finds. -/
theorem find?_of_mem {entries : Entries α} (hnames : entries.names.Nodup) {key : String} {a : α}
    (h : (key, a) ∈ entries) : entries.find? key = some a := by
  induction entries with
  | nil => cases h
  | cons entry rest ih =>
      simp only [names, List.map_cons, List.nodup_cons] at hnames
      rw [find?_cons]
      rcases List.mem_cons.mp h with rfl | hrest
      · rw [if_pos rfl]
      · rw [if_neg, ih hnames.2 hrest]
        rintro rfl
        exact hnames.1 (List.mem_map.mpr ⟨_, hrest, rfl⟩)

theorem put_of_find? {entries : Entries α} {key : String} {a : α}
    (h : entries.find? key = some a) : entries.put key a = entries := by
  induction entries with
  | nil => cases h
  | cons entry rest ih =>
      obtain ⟨name, old⟩ := entry
      rw [find?_cons] at h
      by_cases hname : name = key
      · rw [if_pos hname] at h
        cases h
        rw [put, if_pos hname]
      · rw [if_neg hname] at h
        rw [put, if_neg hname, ih h]

theorem put_of_not_mem {entries : Entries α} {key : String} (h : key ∉ entries.names) (a : α) :
    entries.put key a = entries ++ [(key, a)] := by
  induction entries with
  | nil => rfl
  | cons entry rest ih =>
      simp only [names, List.map_cons, List.mem_cons, not_or] at h
      rw [put, if_neg (Ne.symm h.1), ih h.2, List.cons_append]

theorem names_put (entries : Entries α) (key : String) (a : α) :
    (entries.put key a).names =
      if key ∈ entries.names then entries.names else entries.names ++ [key] := by
  induction entries with
  | nil => rfl
  | cons entry rest ih =>
      obtain ⟨name, old⟩ := entry
      by_cases h : name = key
      · simp [put, names, h]
      · have hne : key ≠ name := Ne.symm h
        simp only [names] at ih
        by_cases hmem : key ∈ rest.map (·.1)
        · simp [put, names, h, hne, ih, hmem]
        · simp [put, names, h, hne, ih, hmem]

theorem nodup_names_put {entries : Entries α} (h : entries.names.Nodup) (key : String) (a : α) :
    (entries.put key a).names.Nodup := by
  rw [names_put]
  split_ifs with hmem
  · exact h
  · simpa using h.concat hmem

theorem mem_names_putAll (entries news : Entries α) (key : String) :
    key ∈ (entries.putAll news).names ↔ key ∈ entries.names ∨ key ∈ news.names := by
  induction news generalizing entries with
  | nil => simp [names]
  | cons entry rest ih =>
      have hput : key ∈ (entries.put entry.1 entry.2).names ↔
          key ∈ entries.names ∨ key = entry.1 := by
        rw [names_put]
        split_ifs with hmem
        · exact ⟨.inl, fun h => h.elim id fun heq => heq ▸ hmem⟩
        · rw [List.mem_append, List.mem_singleton]
      rw [putAll_cons, ih, hput, or_assoc]
      simp [names]

theorem putAll_of_nodup (entries news : Entries α) (h : (entries.names ++ news.names).Nodup) :
    entries.putAll news = entries ++ news := by
  induction news generalizing entries with
  | nil => simp
  | cons entry rest ih =>
      obtain ⟨name, a⟩ := entry
      have hname : name ∉ entries.names := by
        intro hmem
        have hdisjoint := List.disjoint_of_nodup_append h
        exact hdisjoint hmem (by simp [names])
      rw [putAll_cons, put_of_not_mem hname, ih, List.append_assoc, List.singleton_append]
      simpa [names] using h

/-- A list of entries with distinct names is a map as it is. -/
theorem ofList_of_nodup {entries : Entries α} (h : entries.names.Nodup) :
    ofList entries = entries := by
  rw [ofList, putAll_of_nodup [] entries (by simpa [names] using h), List.nil_append]

/-- After a value is set, the entries are the new one and some of those before. -/
theorem eq_or_mem_of_mem_put {entries : Entries α} {key : String} {a : α} {entry : String × α}
    (h : entry ∈ entries.put key a) : entry = (key, a) ∨ entry ∈ entries := by
  induction entries with
  | nil => exact .inl (List.mem_singleton.mp h)
  | cons first rest ih =>
      obtain ⟨name, old⟩ := first
      rw [put] at h
      split_ifs at h with hname
      · subst hname
        exact (List.mem_cons.mp h).imp_right (List.mem_cons_of_mem _)
      · rcases List.mem_cons.mp h with rfl | hrest
        · exact .inr List.mem_cons_self
        · exact (ih hrest).imp_right (List.mem_cons_of_mem _)

theorem mem_or_mem_of_mem_putAll {entries news : Entries α} {entry : String × α}
    (h : entry ∈ entries.putAll news) : entry ∈ news ∨ entry ∈ entries := by
  induction news generalizing entries with
  | nil => exact .inr h
  | cons first rest ih =>
      rcases ih h with hrest | hput
      · exact .inl (List.mem_cons_of_mem _ hrest)
      · rcases eq_or_mem_of_mem_put hput with rfl | hentries
        · exact .inl List.mem_cons_self
        · exact .inr hentries

theorem forall_mem_putAll {p : α → Prop} {entries news : Entries α}
    (h : ∀ entry ∈ entries, p entry.2) (hnews : ∀ entry ∈ news, p entry.2) :
    ∀ entry ∈ entries.putAll news, p entry.2 := by
  intro entry hentry
  exact (mem_or_mem_of_mem_putAll hentry).elim (hnews entry) (h entry)

/-- With distinct names, a value that is set takes the place of the one that its name had. -/
theorem mem_put_iff {entries : Entries α} (hnames : entries.names.Nodup) {key : String} {a : α}
    {entry : String × α} :
    entry ∈ entries.put key a ↔ entry = (key, a) ∨ entry ∈ entries ∧ entry.1 ≠ key := by
  obtain ⟨name, b⟩ := entry
  have hfind : (name, b) ∈ entries.put key a ↔ (entries.put key a).find? name = some b :=
    ⟨find?_of_mem (nodup_names_put hnames key a), mem_of_find?⟩
  rw [hfind]
  by_cases h : name = key
  · subst h
    simp [find?_put_self, eq_comm]
  · rw [find?_put_of_ne _ _ h]
    simp only [Prod.mk.injEq, h, false_and, false_or, ne_eq, not_false_iff, and_true]
    exact ⟨mem_of_find?, find?_of_mem hnames⟩

theorem nodup_names_putAll {entries : Entries α} (h : entries.names.Nodup) (news : Entries α) :
    (entries.putAll news).names.Nodup := by
  induction news generalizing entries with
  | nil => exact h
  | cons first rest ih => exact ih (nodup_names_put h first.1 first.2)

/-- Where names are distinct, new entries take the places of those of their names. -/
theorem mem_putAll_iff {entries news : Entries α} (hnames : entries.names.Nodup)
    (hnews : news.names.Nodup) {entry : String × α} :
    entry ∈ entries.putAll news ↔ entry ∈ news ∨ entry ∈ entries ∧ entry.1 ∉ news.names := by
  induction news generalizing entries with
  | nil => simp [names]
  | cons first rest ih =>
      obtain ⟨key, a⟩ := first
      obtain ⟨hkey, hrest⟩ := List.nodup_cons.mp hnews
      have hmem : entry.1 ∉ names ((key, a) :: rest) ↔ entry.1 ≠ key ∧ entry.1 ∉ names rest := by
        simp [names]
      rw [putAll_cons, ih (nodup_names_put hnames key a) hrest, mem_put_iff hnames, hmem,
        List.mem_cons]
      constructor
      · rintro (hnew | ⟨rfl | ⟨hold, hne⟩, hnot⟩)
        · exact .inl (.inr hnew)
        · exact .inl (.inl rfl)
        · exact .inr ⟨hold, hne, hnot⟩
      · rintro ((rfl | hnew) | ⟨hold, hne, hnot⟩)
        · exact .inr ⟨.inl rfl, hkey⟩
        · exact .inl hnew
        · exact .inr ⟨.inr ⟨hold, hne⟩, hnot⟩

theorem nodup_of_nodup_names {entries : Entries α} (h : entries.names.Nodup) : entries.Nodup :=
  List.Nodup.of_map _ h

/-- Where names are distinct, the entries whose names are not set again stay beside the new ones. -/
theorem putAll_perm {entries news : Entries α} (hnames : entries.names.Nodup)
    (hnews : news.names.Nodup) :
    (entries.putAll news).Perm (entries.filter (·.1 ∉ news.names) ++ news) := by
  have hdisjoint : (entries.filter (·.1 ∉ news.names)).Disjoint news := by
    intro entry hold hnew
    exact of_decide_eq_true (List.mem_filter.mp hold).2 (List.mem_map_of_mem hnew)
  rw [List.perm_ext_iff_of_nodup (nodup_of_nodup_names (nodup_names_putAll hnames news))
    (((nodup_of_nodup_names hnames).filter _).append (nodup_of_nodup_names hnews) hdisjoint)]
  intro entry
  rw [mem_putAll_iff hnames hnews, List.mem_append, List.mem_filter, decide_eq_true_iff, or_comm]

theorem find?_mapValues (f : α → β) (entries : Entries α) (key : String) :
    (mapValues f entries).find? key = (entries.find? key).map f := by
  induction entries with
  | nil => rfl
  | cons entry rest ih =>
      obtain ⟨name, a⟩ := entry
      show find? ((name, f a) :: mapValues f rest) key = _
      rw [find?_cons, find?_cons, ih]
      split_ifs with h
      · rfl
      · rfl

/-- In a map with new entries a name has what the new ones give it, else what it had. -/
theorem find?_putAll (entries news : Entries α) (key : String) :
    (entries.putAll news).find? key = ((ofList news).find? key).or (entries.find? key) := by
  induction news using List.reverseRecOn with
  | nil => rfl
  | append_singleton news entry ih =>
      obtain ⟨name, a⟩ := entry
      rw [putAll_concat, ofList_concat]
      by_cases h : key = name
      · subst h
        rw [find?_put_self, find?_put_self, Option.some_or]
      · rw [find?_put_of_ne _ _ h, find?_put_of_ne _ _ h, ih]

/-- Of the map with the entries of some names, these names have what they have in the map of all. -/
theorem find?_ofList_filter (p : String → Bool) (entries : Entries α) (key : String) :
    (ofList (entries.filter fun entry => p entry.1)).find? key =
      if p key then (ofList entries).find? key else none := by
  induction entries using List.reverseRecOn with
  | nil => simp [ofList]
  | append_singleton entries entry ih =>
      obtain ⟨name, a⟩ := entry
      rw [List.filter_append, List.filter_singleton, ofList_concat]
      cases hp : p name with
      | true =>
          rw [cond_true, ofList_concat]
          by_cases h : key = name
          · subst h
            rw [find?_put_self, find?_put_self, if_pos hp]
          · rw [find?_put_of_ne _ _ h, find?_put_of_ne _ _ h, ih]
      | false =>
          rw [cond_false, List.append_nil, ih]
          by_cases h : key = name
          · subst h
            rw [hp, if_neg Bool.false_ne_true, if_neg Bool.false_ne_true]
          · rw [find?_put_of_ne _ _ h]

/-- Setting a value again takes the place of the value set before. -/
theorem put_put (entries : Entries α) (key : String) (a b : α) :
    (entries.put key a).put key b = entries.put key b := by
  induction entries with
  | nil => simp [put]
  | cons entry rest ih =>
      obtain ⟨name, old⟩ := entry
      by_cases h : name = key
      · rw [put, if_pos h, put, if_pos h, put, if_pos h]
      · rw [put, if_neg h, put, if_neg h, put, if_neg h, ih]

/-- A name that is there already keeps its place, so that it can be set before or after another. -/
theorem put_put_of_ne {entries : Entries α} {key other : String} (hkey : key ∈ entries.names)
    (h : other ≠ key) (a b : α) :
    (entries.put other b).put key a = (entries.put key a).put other b := by
  induction entries with
  | nil => cases hkey
  | cons entry rest ih =>
      obtain ⟨name, old⟩ := entry
      by_cases hname : name = key
      · subst hname
        rw [put, if_neg h.symm, put, if_pos rfl, put, if_pos rfl, put, if_neg h.symm]
      · have hrest : key ∈ names rest :=
          (List.mem_cons.mp hkey).resolve_left fun heq => hname heq.symm
        by_cases hother : name = other
        · subst hother
          rw [put, if_pos rfl, put, if_neg hname, put, if_neg hname, put, if_pos rfl]
        · rw [put, if_neg hother, put, if_neg hname, put, if_neg hname, put, if_neg hother, ih hrest]

theorem putAll_put_of_mem {entries news : Entries α} {key : String} (hkey : key ∈ entries.names)
    (hnews : key ∉ news.names) (a : α) :
    (entries.putAll news).put key a = (entries.put key a).putAll news := by
  induction news generalizing entries with
  | nil => rfl
  | cons entry rest ih =>
      obtain ⟨hname, hrest⟩ : key ≠ entry.1 ∧ key ∉ names rest := by simpa [names] using hnews
      have hput : key ∈ (entries.put entry.1 entry.2).names := by
        rw [names_put]
        split_ifs
        · exact hkey
        · exact List.mem_append_left _ hkey
      rw [putAll_cons, putAll_cons, ih hput hrest, put_put_of_ne hkey (Ne.symm hname)]

theorem mem_names_put_self (entries : Entries α) (key : String) (a : α) :
    key ∈ (entries.put key a).names := by
  rw [names_put]
  split_ifs with h
  · exact h
  · simp

/-- A map that is set in one more place adds the same as it did before, and then that place. -/
theorem putAll_put (entries : Entries α) {news : Entries α} (hnames : news.names.Nodup)
    (key : String) (a : α) : entries.putAll (news.put key a) = (entries.putAll news).put key a := by
  induction news generalizing entries with
  | nil => rfl
  | cons entry rest ih =>
      obtain ⟨name, old⟩ := entry
      obtain ⟨hname, hrest⟩ := List.nodup_cons.mp hnames
      by_cases h : name = key
      · subst h
        rw [put, if_pos rfl, putAll_cons, putAll_cons,
          putAll_put_of_mem (mem_names_put_self _ _ _) hname, put_put]
      · rw [put, if_neg h, putAll_cons, putAll_cons, ih _ hrest]

theorem nodup_names_ofList (entries : List (String × α)) : (ofList entries).names.Nodup :=
  nodup_names_putAll (show (names ([] : Entries α)).Nodup from .nil) entries

/-- The names of the map of a list are in the order of their first entries. -/
theorem names_ofList (entries : List (String × α)) :
    (ofList entries).names = (names entries).eraseDups := by
  induction entries using List.reverseRecOn with
  | nil => rfl
  | append_singleton entries entry ih =>
      have hnames : names (entries ++ [entry]) = names entries ++ [entry.1] := by simp [names]
      rw [ofList_concat, names_put, hnames, eraseDups_concat, ih]
      simp only [List.mem_eraseDups]

/-- Entries can be made a map before they are added to another one. -/
theorem putAll_ofList (entries news : Entries α) : entries.putAll (ofList news) = entries.putAll news := by
  induction news using List.reverseRecOn with
  | nil => rfl
  | append_singleton news entry ih =>
      rw [ofList_concat, putAll_concat, putAll_put _ (nodup_names_ofList news), ih]

/-- A name has what the last of its entries gives it. -/
theorem find?_ofList (entries : Entries α) (key : String) :
    (ofList entries).find? key = (entries.filter (·.1 = key)).getLast?.map (·.2) := by
  induction entries using List.reverseRecOn with
  | nil => rfl
  | append_singleton entries entry ih =>
      obtain ⟨name, a⟩ := entry
      rw [ofList_concat, List.filter_append]
      by_cases h : name = key
      · subst h
        simp [find?_put_self]
      · rw [find?_put_of_ne _ _ (Ne.symm h), ih]
        simp [h]

/-- Two entries of one name whose values are related. -/
def Relates (r : α → β → Prop) (x : String × α) (y : String × β) : Prop := x.1 = y.1 ∧ r x.2 y.2

theorem forall₂_put {r : α → β → Prop} {xs : Entries α} {ys : Entries β}
    (h : List.Forall₂ (Relates r) xs ys) {x : String × α} {y : String × β} (hxy : Relates r x y) :
    List.Forall₂ (Relates r) (xs.put x.1 x.2) (ys.put y.1 y.2) := by
  obtain ⟨key, a⟩ := x
  obtain ⟨_, b⟩ := y
  obtain ⟨rfl, hab⟩ := hxy
  induction h with
  | nil => exact .cons ⟨rfl, hab⟩ .nil
  | cons hfirst hrest ih =>
      rw [put, put, hfirst.1]
      split_ifs
      · exact .cons ⟨rfl, hab⟩ hrest
      · exact .cons ⟨rfl, hfirst.2⟩ ih

theorem forall₂_putAll {r : α → β → Prop} {xs news : Entries α} {ys news' : Entries β}
    (h : List.Forall₂ (Relates r) xs ys) (hnews : List.Forall₂ (Relates r) news news') :
    List.Forall₂ (Relates r) (xs.putAll news) (ys.putAll news') := by
  induction hnews generalizing xs ys with
  | nil => exact h
  | cons hfirst _ ih => exact ih (forall₂_put h hfirst)

/-- What is required of related values is required alike of maps of related entries. -/
theorem forall_mem_ofList_iff {p : α → Prop} {q : β → Prop} {xs : List (String × α)}
    {ys : List (String × β)} (h : List.Forall₂ (Relates fun a b => p a ↔ q b) xs ys) :
    (∀ x ∈ ofList xs, p x.2) ↔ ∀ y ∈ ofList ys, q y.2 := by
  have hmaps : List.Forall₂ (Relates fun a b => p a ↔ q b) (ofList xs) (ofList ys) :=
    forall₂_putAll .nil h
  generalize ofList xs = map, ofList ys = map' at hmaps
  induction hmaps with
  | nil => simp
  | cons hfirst _ ih =>
      obtain ⟨-, hiff⟩ := hfirst
      rw [List.forall_mem_cons, List.forall_mem_cons]
      exact and_congr hiff ih

/-- In the map of a list is an entry where no later one has its name. -/
theorem mem_ofList_iff {entries : Entries α} {entry : String × α} :
    entry ∈ ofList entries ↔
      ∃ before after, entries = before ++ entry :: after ∧ entry.1 ∉ names after := by
  induction entries using List.reverseRecOn with
  | nil => simp [ofList]
  | append_singleton entries last ih =>
      rw [ofList_concat, mem_put_iff (nodup_names_ofList entries), ih]
      constructor
      · rintro (rfl | ⟨⟨before, after, rfl, hafter⟩, hlast⟩)
        · exact ⟨entries, [], rfl, by simp [names]⟩
        · refine ⟨before, after ++ [last], by simp, ?_⟩
          simpa [names] using ⟨by simpa [names] using hafter, hlast⟩
      · rintro ⟨before, after, heq, hafter⟩
        rcases List.eq_nil_or_concat after with rfl | ⟨between, other, rfl⟩
        · obtain ⟨-, rfl⟩ := List.append_singleton_inj.mp heq
          exact .inl rfl
        · rw [List.concat_eq_append, ← List.cons_append, ← List.append_assoc] at heq
          obtain ⟨rfl, rfl⟩ := List.append_singleton_inj.mp heq
          simp only [names, List.concat_eq_append, List.map_append, List.mem_append, not_or] at hafter
          exact .inr ⟨⟨before, between, rfl, hafter.1⟩, by simpa using hafter.2⟩

end FacetedSearch.Entries
