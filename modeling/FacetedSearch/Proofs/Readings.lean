import FacetedSearch.Result.Reading
import Mathlib.Data.List.Basic

/-!
Readings of lists. Each entry of a list is read for itself: the values are those of the entries that
count and the warnings those about the malformed ones, both in the order of the entries.
-/

namespace FacetedSearch.Readings

variable {α β : Type}

/-- Entries that are malformed give their warnings, and of the others those that count a value. -/
theorem ofList_map {read : α → Reading β} {isMalformed counts : α → Bool} {value : α → β}
    {warning : α → String} {items : List α}
    (h : ∀ item ∈ items, read item =
      if isMalformed item then .malformed (warning item)
      else if counts item then .value (value item) else .nothing) :
    ofList (items.map read) =
      { values := (items.filter fun item => !isMalformed item && counts item).map value
        warnings := (items.filter isMalformed).map warning } := by
  simp only [ofList, Readings.mk.injEq]
  induction items with
  | nil => exact ⟨rfl, rfl⟩
  | cons item rest ih =>
      obtain ⟨hitem, hrest⟩ := List.forall_mem_cons.mp h
      obtain ⟨hvalues, hwarnings⟩ := ih hrest
      simp only [List.map_cons, List.filterMap_cons, List.filter_cons, hitem, hvalues, hwarnings]
      cases isMalformed item with
      | true => exact ⟨rfl, rfl⟩
      | false =>
          cases counts item with
          | true => exact ⟨rfl, rfl⟩
          | false => exact ⟨rfl, rfl⟩

/-- Every entry is malformed, counts or does not count, and only one of these. -/
theorem length_filter_parts (isMalformed counts : α → Bool) (items : List α) :
    (items.filter fun item => !isMalformed item && counts item).length +
        (items.filter isMalformed).length +
        (items.filter fun item => !isMalformed item && !counts item).length =
      items.length := by
  have hall := items.length_eq_length_filter_add isMalformed
  have hothers := (items.filter fun item => !isMalformed item).length_eq_length_filter_add counts
  simp only [List.filter_filter, Bool.and_comm] at hothers ⊢
  omega

/-- Readings that are appended one after another. -/
theorem foldl_append (read : α → Readings β) (items : List α) (start : Readings β) :
    items.foldl (fun readings item => readings.append (read item)) start =
      { values := start.values ++ items.flatMap fun item => (read item).values
        warnings := start.warnings ++ items.flatMap fun item => (read item).warnings } := by
  induction items generalizing start with
  | nil => simp
  | cons item rest ih =>
      rw [List.foldl_cons, ih]
      simp only [append, List.flatMap_cons, List.append_assoc]

end FacetedSearch.Readings
