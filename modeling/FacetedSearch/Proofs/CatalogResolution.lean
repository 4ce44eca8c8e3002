import FacetedSearch.Catalog.Basic
import FacetedSearch.Proofs.Outcome

/-!
Which field ids a catalog knows. An id is known when it is declared or the first segment of its path
is; every other id is refused.
-/

namespace FacetedSearch.FieldCatalog

variable {catalog : FieldCatalog}

/-- An id is declared, or the first segment of its path is. -/
def Knows (catalog : FieldCatalog) (id : String) : Prop :=
  (catalog.get? id).isSome = true ∨ (catalog.get? (FieldPath.root id)).isSome = true

instance (catalog : FieldCatalog) (id : String) : Decidable (catalog.Knows id) :=
  inferInstanceAs (Decidable (_ ∨ _))

theorem resolve_acceptsIff (catalog : FieldCatalog) (id : String) :
    Outcome.AcceptsIff (catalog.Knows id) (catalog.resolve id) := by
  unfold resolve Knows
  cases catalog.get? id with
  | some field => exact .accepted field (.inl rfl)
  | none =>
      cases catalog.get? (FieldPath.root id) with
      | some field => exact .accepted field (.inr rfl)
      | none => exact .refused rfl (by simp)

theorem resolve_of_knows {id : String} (h : catalog.Knows id) :
    ∃ known, catalog.resolve id = .ok known :=
  (catalog.resolve_acceptsIff id).exists_ok_iff.mpr h

/-- A list of ids is resolved where each of them is known. -/
theorem forIn_resolve_acceptsIff (catalog : FieldCatalog) (ids : List String) :
    Outcome.AcceptsIff (∀ id ∈ ids, catalog.Knows id)
      (forIn ids PUnit.unit fun id _ => do
        let _ ← catalog.resolve id
        pure (ForInStep.yield PUnit.unit)) := by
  induction ids with
  | nil => exact .accepted _ (by simp)
  | cons id rest ih =>
      rw [List.forIn_cons, bind_assoc]
      refine ((catalog.resolve_acceptsIff id).bind fun field _ => ?_).congr
        List.forall_mem_cons.symm
      exact ih

end FacetedSearch.FieldCatalog
