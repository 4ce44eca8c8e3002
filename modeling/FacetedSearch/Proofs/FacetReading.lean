import FacetedSearch.Proofs.AggregationAnswers
import FacetedSearch.Proofs.FacetLowering

/-!
Reading the results of facets. The aggregation of a facet leads to one bucket aggregation, or to the
two measures of a range, through as many results under the id of the facet as its reading passes.
-/

namespace FacetedSearch

theorem Value.path_cons (value : Value) (name : String) (names : List String) :
    value.path (name :: names) = (value.path [name]).path names := by
  cases value with
  | object entries => rfl
  | _ => cases names <;> rfl

theorem Value.path_object (entries : Entries Value) (name : String) :
    (Value.object entries).path [name] = Value.member entries name := rfl

namespace Lowering

open Aggregation

variable {catalog : FieldCatalog} {facet : FacetRequest}

/-- The bucket aggregation of a facet; top hits are only held for nested objects. -/
structure IsLeafOf (facet : FacetRequest) (isNested : Bool) (leaf : Aggregation) : Prop where
  isBucketed : leaf.isBucketed = true
  hasDateKeys : facet.hasDateKeys = leaf.isDateHistogram
  held : leaf.held = [] ∨ isNested = true ∧ ∃ path, leaf.held = [(facet.id, .topHit path)]

theorem histogramAggregation_isLeafOf {field : String} {leaf : Aggregation} {isNested : Bool}
    (hkind : facet.kind.isHistogram = true) (h : histogramAggregation facet field = .ok leaf) :
    IsLeafOf facet isNested leaf := by
  unfold histogramAggregation at h
  split_ifs at h with hdate
  · cases h
    exact ⟨rfl, by simp [FacetRequest.hasDateKeys, hdate, hkind, isDateHistogram], .inl rfl⟩
  · obtain ⟨interval, -, h⟩ := Outcome.bind_eq_ok.mp h
    obtain rfl := Outcome.pure_eq_ok.mp h
    exact ⟨rfl, by simp [FacetRequest.hasDateKeys, hdate, isDateHistogram], .inl rfl⟩

theorem facetAggregations_of_isHistogram {field : String} {limit : Value} {source : Option String}
    (hkind : facet.kind.isHistogram = true) :
    facetAggregations facet field limit source =
      (do return [(facet.id, ← histogramAggregation facet field)]) := by
  unfold facetAggregations
  cases hfacet : facet.kind with
  | date | granular => rfl
  | string | range | nested => simp [hfacet, FacetKind.isHistogram] at hkind

theorem facetAggregations_of_terms {field : String} {limit : Value} {source : Option String}
    (hrange : facet.kind ≠ .range) (hkind : facet.kind.isHistogram = false) :
    facetAggregations facet field limit source =
      .ok [(facet.id, .terms field facet.minCount limit facet.missing
        (source.toList.map fun path => (facet.id, .topHit path)))] := by
  unfold facetAggregations
  cases hfacet : facet.kind with
  | range => exact absurd hfacet hrange
  | date | granular => simp [hfacet, FacetKind.isHistogram] at hkind
  | string | nested => rfl

theorem facetAggregations_leaf {field : String} {limit : Value} {source : Option String}
    {aggs : Entries Aggregation} (hrange : facet.kind ≠ .range)
    (h : facetAggregations facet field limit source = .ok aggs) :
    ∃ leaf, aggs = [(facet.id, leaf)] ∧ IsLeafOf facet source.isSome leaf := by
  cases hkind : facet.kind.isHistogram with
  | true =>
      rw [facetAggregations_of_isHistogram hkind] at h
      obtain ⟨leaf, hleaf, h⟩ := Outcome.bind_eq_ok.mp h
      obtain rfl := Outcome.pure_eq_ok.mp h
      exact ⟨leaf, rfl, histogramAggregation_isLeafOf hkind hleaf⟩
  | false =>
      rw [facetAggregations_of_terms hrange hkind] at h
      obtain rfl := Except.ok.inj h
      refine ⟨_, rfl, rfl, by simp [FacetRequest.hasDateKeys, hkind, isDateHistogram], ?_⟩
      cases source with
      | none => exact .inl rfl
      | some path => exact .inr ⟨rfl, path, rfl⟩

/-- The names that lead from the result of a facet to its buckets. -/
def bucketPath (catalog : FieldCatalog) (facet : FacetRequest) : List String :=
  List.replicate (if facet.hasNestedBuckets catalog then 3 else 1) facet.id

/-- What a facet is lowered to: its aggregations, on their own or in the objects of a group. -/
theorem lowerFacet_aggregations {part : FacetPart} (h : lowerFacet catalog facet = .ok part) :
    (isNestedFacet catalog facet = false ∧ ∃ field limit,
      facetAggregations facet field limit none = .ok part.aggregations) ∨
    (isNestedFacet catalog facet = true ∧ ∃ field limit path group inner,
      facetAggregations facet field limit (some path) = .ok inner ∧
      part.aggregations = [(facet.id, .nested path [(facet.id, .filter group inner)])]) := by
  rcases lowerFacet_cases h with
    ⟨hnested, options, inner, -, hinner, rfl⟩ | ⟨hnested, aggregations, haggregations, rfl⟩
  · exact .inr ⟨hnested, _, _, _, _, inner, hinner, rfl⟩
  · exact .inl ⟨hnested, _, _, haggregations⟩

/-- The aggregations of a facet that is no range lead to one bucket aggregation. -/
theorem lowerFacet_leaf (own : List String) {part : FacetPart} (hkind : facet.kind ≠ .range)
    (h : lowerFacet catalog facet = .ok part) :
    ∃ leaf, IsLeafOf facet (facet.hasNestedBuckets catalog) leaf ∧ ∀ result,
      leafResultsOf part.aggregations result = [(leaf, result.path (bucketPath catalog facet))] ∧
      (AllAnswer own part.aggregations result →
        leaf.Answers own (result.path (bucketPath catalog facet))) := by
  have hsame : isNestedFacet catalog facet = facet.hasNestedBuckets catalog := rfl
  rcases lowerFacet_aggregations h with
    ⟨hnested, field, limit, haggs⟩ | ⟨hnested, field, limit, path, group, inner, hinner, haggs⟩
  · obtain ⟨leaf, haggregations, hleaf⟩ := facetAggregations_leaf hkind haggs
    rw [hsame] at hnested
    refine ⟨leaf, hnested ▸ hleaf, fun result => ?_⟩
    rw [bucketPath, hnested, haggregations]
    refine ⟨?_, fun hall => hall.1⟩
    simp [leafResultsOf, leafResults_of_isBucketed hleaf.isBucketed]
  · obtain ⟨leaf, rfl, hleaf⟩ := facetAggregations_leaf hkind hinner
    rw [hsame] at hnested
    refine ⟨leaf, hnested ▸ hleaf, fun result => ?_⟩
    have hpath : result.path (bucketPath catalog facet) =
        ((result.path [facet.id]).path [facet.id]).path [facet.id] := by
      rw [bucketPath, hnested, ← Value.path_cons, ← Value.path_cons]
      rfl
    rw [hpath, haggs]
    refine ⟨?_, fun hall => hall.1.2.1.2.1⟩
    simp [leafResultsOf, leafResults, leafResults_of_isBucketed hleaf.isBucketed]

end Lowering

end FacetedSearch
