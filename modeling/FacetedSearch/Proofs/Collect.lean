import FacetedSearch.Lowering.Conditions
import FacetedSearch.Proofs.Entries
import Mathlib.Data.List.Induction

/-!
Collecting entries by name. The names of a collection are those of the entries in the order of first
occurrence, and under each name stand all of its values in their order.
-/

namespace FacetedSearch.Lowering

variable {α : Type}

/-- The values of a name. -/
def valuesNamed (key : String) (entries : List (String × α)) : List α :=
  (entries.filter (·.1 == key)).map (·.2)

theorem mem_valuesNamed {key : String} {entries : List (String × α)} {a : α} :
    a ∈ valuesNamed key entries ↔ (key, a) ∈ entries := by
  simp only [valuesNamed, List.mem_map, List.mem_filter, beq_iff_eq]
  constructor
  · rintro ⟨⟨name, b⟩, ⟨hmem, rfl⟩, rfl⟩
    exact hmem
  · intro hmem
    exact ⟨(key, a), ⟨hmem, rfl⟩, rfl⟩

theorem valuesNamed_append (key : String) (entries news : List (String × α)) :
    valuesNamed key (entries ++ news) = valuesNamed key entries ++ valuesNamed key news := by
  simp [valuesNamed]

theorem collect_append_singleton (entries : List (String × α)) (entry : String × α) :
    collect (entries ++ [entry]) =
      (collect entries).put entry.1
        ((Entries.find? (collect entries) entry.1).getD [] ++ [entry.2]) := by
  simp [collect]

theorem find?_collect (entries : List (String × α)) (key : String) :
    ((collect entries).find? key).getD [] = valuesNamed key entries := by
  induction entries using List.reverseRecOn with
  | nil => rfl
  | append_singleton entries entry ih =>
      obtain ⟨name, a⟩ := entry
      rw [collect_append_singleton, valuesNamed_append]
      by_cases h : key = name
      · subst h
        rw [Entries.find?_put_self, Option.getD_some, ih]
        simp [valuesNamed]
      · rw [Entries.find?_put_of_ne _ _ h, ih]
        simp [valuesNamed, Ne.symm h]

theorem names_collect (entries : List (String × α)) :
    (collect entries).names = (entries.map Prod.fst).eraseDups := by
  induction entries using List.reverseRecOn with
  | nil => rfl
  | append_singleton entries entry ih =>
      rw [collect_append_singleton, Entries.names_put, List.map_append, List.map_singleton,
        eraseDups_concat, ih]
      simp only [List.mem_eraseDups]

theorem nodup_names_collect (entries : List (String × α)) : (collect entries).names.Nodup := by
  induction entries using List.reverseRecOn with
  | nil => exact List.nodup_nil
  | append_singleton entries entry ih =>
      rw [collect_append_singleton]
      exact Entries.nodup_names_put ih _ _

/-- Entries of one name are collected under it, in their order. -/
theorem collect_of_same_name (key : String) {values : List α} (h : values ≠ []) :
    collect (values.map fun a => (key, a)) = [(key, values)] := by
  induction values using List.reverseRecOn with
  | nil => exact absurd rfl h
  | append_singleton values a ih =>
      rw [List.map_append, List.map_singleton, collect_append_singleton]
      by_cases hvalues : values = []
      · subst hvalues
        rfl
      · rw [ih hvalues]
        simp [Entries.find?_cons, Entries.put]

/-- Under a name of a collection stand all values that the entries have of it, and there are some. -/
theorem values_of_mem_collect {entries : List (String × α)} {key : String} {values : List α}
    (h : (key, values) ∈ collect entries) : values = valuesNamed key entries ∧ values ≠ [] := by
  have hvalues : values = valuesNamed key entries := by
    rw [← find?_collect, Entries.find?_of_mem (nodup_names_collect entries) h, Option.getD_some]
  have hkey : key ∈ entries.map Prod.fst := by
    rw [← List.mem_eraseDups, ← names_collect]
    exact List.mem_map_of_mem h
  obtain ⟨⟨name, a⟩, hentry, rfl⟩ := List.mem_map.mp hkey
  refine ⟨hvalues, List.ne_nil_of_mem (a := a) ?_⟩
  rw [hvalues, mem_valuesNamed]
  exact hentry

/-- A collection without a name is the collection of the entries of other names. -/
theorem erase_collect (entries : List (String × α)) (key : String) :
    (collect entries).erase key = collect (entries.filter (·.1 != key)) := by
  induction entries using List.reverseRecOn with
  | nil => rfl
  | append_singleton entries entry ih =>
      obtain ⟨name, a⟩ := entry
      rw [collect_append_singleton, List.filter_append]
      by_cases h : name = key
      · subst h
        rw [Entries.erase_put_self, ih]
        simp
      · rw [Entries.erase_put_of_ne _ _ h, ih]
        have hkept : [(name, a)].filter (·.1 != key) = [(name, a)] := by simp [h]
        rw [hkept, collect_append_singleton, ← ih, Entries.find?_erase_of_ne _ h]

end FacetedSearch.Lowering
