import FacetedSearch.Catalog.Definition
import FacetedSearch.Proofs.Entries
import FacetedSearch.Proofs.Outcome

/-!
The fields of catalogs as they are made. Whatever fields a catalog is made of, and under whatever
names they were defined, it keeps each of them under its own id.
-/

namespace FacetedSearch.FieldCatalog

variable {catalog : FieldCatalog}

/-- Every field stands under its own id. -/
def IsKeyed (catalog : FieldCatalog) : Prop := ∀ entry ∈ catalog.entries, entry.2.id = entry.1

theorem IsKeyed.withImplicit (h : catalog.IsKeyed) (id : String) :
    (catalog.withImplicit id).IsKeyed := by
  unfold FieldCatalog.withImplicit
  split_ifs
  · exact h
  · intro entry hentry
    rcases Entries.eq_or_mem_of_mem_put hentry with rfl | hdeclared
    · rfl
    · exact h entry hdeclared

theorem isKeyed_ofFields {fields : List SearchField} {settings : Entries Value}
    (h : ofFields fields settings = .ok catalog) : catalog.IsKeyed := by
  obtain ⟨languageField, -, h⟩ := Outcome.bind_eq_ok.mp h
  obtain ⟨datasourceField, -, h⟩ := Outcome.bind_eq_ok.mp h
  obtain rfl := Outcome.pure_eq_ok.mp h
  apply IsKeyed.withImplicit
  apply IsKeyed.withImplicit
  intro entry hentry
  rcases Entries.mem_or_mem_of_mem_putAll hentry with hfield | hnone
  · obtain ⟨field, -, rfl⟩ := List.mem_map.mp hfield
    rfl
  · cases hnone

theorem IsKeyed.id_of_get? (h : catalog.IsKeyed) {id : String} {field : SearchField}
    (hfield : catalog.get? id = some field) : field.id = id :=
  h _ (Entries.mem_of_find? hfield)

end FacetedSearch.FieldCatalog
