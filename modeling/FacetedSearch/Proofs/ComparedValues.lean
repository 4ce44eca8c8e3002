import FacetedSearch.Proofs.ConditionAcceptance

/-!
Values as fields compare them. Lists and tuples are converted element by element, so that a field
compares every element as it would compare the element alone.
-/

namespace FacetedSearch

namespace FieldCatalog

theorem coerceAll_eq_mapM (type : Option FieldType) (values : List Value) :
    coerceAll type values = values.mapM (coerceTo type) := by
  induction values with
  | nil => rfl
  | cons value rest ih => rw [coerceAll, ih, List.mapM_cons]

theorem sequence?_coerceTo {type : Option FieldType} {value converted : Value} {items : List Value}
    (hitems : value.sequence? = some items) (h : coerceTo type value = .ok converted) :
    ∃ results, converted.sequence? = some results ∧
      List.Forall₂ (fun item result => coerceTo type item = .ok result) items results := by
  cases value with
  | list | tuple =>
      cases hitems
      obtain ⟨results, hresults, h⟩ := Outcome.bind_eq_ok.mp h
      obtain rfl := Outcome.pure_eq_ok.mp h
      rw [coerceAll_eq_mapM, Outcome.mapM_eq_ok_iff] at hresults
      exact ⟨results, rfl, hresults⟩
  | _ => cases hitems

end FieldCatalog

namespace Lowering

variable {catalog : FieldCatalog}

/-- A condition with another value on the same field. -/
def withValue (c : Condition) (value : Value) : Condition := { c with value }

/-- The elements of a sequence are compared as they would be alone. -/
theorem comparedValue_of_sequence (catalog : FieldCatalog) (c : Condition) {items : List Value}
    (hitems : c.value.sequence? = some items) :
    ∃ compared results, comparedValue catalog c = .ok compared ∧
      compared.sequence? = some results ∧
      List.Forall₂ (fun item result => comparedValue catalog (withValue c item) = .ok result)
        items results := by
  by_cases htype : catalog.typeOf? c.field = some .boolean
  · obtain ⟨compared, hcompared, -⟩ := comparedValue_total catalog c
    rw [comparedValue, if_pos htype] at hcompared
    obtain ⟨results, hresults, hitem⟩ := FieldCatalog.sequence?_coerceTo hitems hcompared
    refine ⟨compared, results, by rwa [comparedValue, if_pos htype], hresults, ?_⟩
    apply hitem.imp
    intro item result hresult
    rw [comparedValue, withValue, if_pos htype]
    exact hresult
  · refine ⟨c.value, items, by rw [comparedValue, if_neg htype], hitems, ?_⟩
    rw [List.forall₂_same]
    intro item _
    rw [comparedValue, withValue, if_neg htype]

end Lowering

end FacetedSearch
