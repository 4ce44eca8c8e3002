import FacetedSearch.Lowering.Facets
import FacetedSearch.Proofs.Entries
import FacetedSearch.Proofs.Outcome

/-!
Lowered facets. Every facet gives one part, of which the aggregation under its id and the selection
are made. The selected values of a facet matter to its selection only.
-/

namespace FacetedSearch.Lowering

variable {catalog : FieldCatalog} {facets : List FacetRequest} {postFilters : Entries Clause}

/-- The aggregation of a facet under its id, for the post filters of all facets. -/
def aggregationEntry (postFilters : Entries Clause) (part : FacetPart) : String × Aggregation :=
  (part.facet.id, .filter (countedDocuments part.facet postFilters) part.aggregations)

theorem lowerFacets_eq_ok_iff {result : FacetParts} :
    lowerFacets catalog facets postFilters = .ok result ↔
      ∃ parts, List.Forall₂ (fun facet part => lowerFacet catalog facet = .ok part) facets parts ∧
        { aggregations := Entries.ofList
            (parts.map (aggregationEntry (postFilters.putAll (alternativeSelections parts))))
          postFilters := postFilters.putAll (alternativeSelections parts)
          rootFilters := rootSelections parts : FacetParts } = result := by
  simp only [lowerFacets, Outcome.bind_eq_ok, Outcome.pure_eq_ok, Outcome.mapM_eq_ok_iff]
  rfl

/-- The facet without selected values. -/
def unselectedFacet (facet : FacetRequest) : FacetRequest := { facet with activeValues := [] }

/-- The part of a facet without its selection. -/
def FacetPart.unselected (part : FacetPart) : FacetPart :=
  { part with facet := unselectedFacet part.facet, selection := none }

/-- The nested objects of the group of a facet. -/
def groupFilter (options : NestedFacetOptions) : Clause :=
  .term (FieldPath.dotted options.groupField) options.groupValue

/-- One nested object is of the group of a facet and has a selected value. -/
def selectionClause (facet : FacetRequest) (options : NestedFacetOptions) : Clause :=
  .nested (nestedPath facet options)
    (.allOf [groupFilter options, selectedValues facet (FieldPath.dotted facet.field)])

/-- The part of a nested facet, for the aggregations in its group. -/
def nestedFacetPart (facet : FacetRequest) (options : NestedFacetOptions)
    (inner : Entries Aggregation) : FacetPart where
  facet
  aggregations :=
    [(facet.id, .nested (nestedPath facet options)
      [(facet.id, .filter (groupFilter options) inner)])]
  selection := if facet.activeValues.isEmpty then none else some (selectionClause facet options)

section Part

variable {facet : FacetRequest} {part : FacetPart}

theorem lowerNestedFacet_eq_ok_iff :
    lowerNestedFacet facet = .ok part ↔
      ∃ options inner, facet.nested = some options ∧
        facetAggregations facet (FieldPath.dotted facet.field) (.int nestedFacetLimit)
          (some (nestedPath facet options)) = .ok inner ∧
        nestedFacetPart facet options inner = part := by
  unfold lowerNestedFacet
  cases facet.nested with
  | none => simp
  | some options =>
      simp only [Outcome.bind_eq_ok, Outcome.pure_eq_ok, Option.some.injEq, exists_and_left,
        exists_eq_left']
      rfl

/-- An accepted facet is nested and has options, or all that is made of it are aggregations. -/
theorem lowerFacet_cases (h : lowerFacet catalog facet = .ok part) :
    (isNestedFacet catalog facet = true ∧ ∃ options inner, facet.nested = some options ∧
      facetAggregations facet (FieldPath.dotted facet.field) (.int nestedFacetLimit)
        (some (nestedPath facet options)) = .ok inner ∧
      nestedFacetPart facet options inner = part) ∨
    (isNestedFacet catalog facet = false ∧ ∃ aggregations,
      facetAggregations facet (FieldPath.dotted facet.field) (bucketLimit catalog facet) none =
        .ok aggregations ∧
      { facet, aggregations : FacetPart } = part) := by
  obtain ⟨_, -, h⟩ := Outcome.bind_eq_ok.mp h
  split_ifs at h with hnested
  · exact .inl ⟨hnested, lowerNestedFacet_eq_ok_iff.mp h⟩
  · obtain ⟨aggregations, haggregations, h⟩ := Outcome.bind_eq_ok.mp h
    exact .inr ⟨Bool.eq_false_iff.mpr hnested, aggregations, haggregations,
      Outcome.pure_eq_ok.mp h⟩

theorem lowerNestedFacet_spec (h : lowerNestedFacet facet = .ok part) :
    part.facet = facet ∧ lowerNestedFacet (unselectedFacet facet) = .ok part.unselected := by
  obtain ⟨options, inner, hoptions, hinner, rfl⟩ := lowerNestedFacet_eq_ok_iff.mp h
  exact ⟨rfl, lowerNestedFacet_eq_ok_iff.mpr ⟨options, inner, hoptions, hinner, rfl⟩⟩

/-- Without selected values a facet has the same aggregations and no selection. -/
theorem lowerFacet_spec (h : lowerFacet catalog facet = .ok part) :
    part.facet = facet ∧ lowerFacet catalog (unselectedFacet facet) = .ok part.unselected := by
  unfold lowerFacet at h ⊢
  have hnested : isNestedFacet catalog (unselectedFacet facet) = isNestedFacet catalog facet := rfl
  obtain ⟨field, hfield, h⟩ := Outcome.bind_eq_ok.mp h
  rw [hnested, show (unselectedFacet facet).field = facet.field from rfl, hfield, Outcome.bind_ok]
  split_ifs at h ⊢
  · exact lowerNestedFacet_spec h
  · obtain ⟨aggregations, haggregations, h⟩ := Outcome.bind_eq_ok.mp h
    obtain rfl := Outcome.pure_eq_ok.mp h
    exact ⟨rfl, Outcome.bind_eq_ok.mpr ⟨aggregations, haggregations, rfl⟩⟩

end Part

/-- A facet can take the place of another one of its id and operator that is lowered to the same
aggregations and the same selection. -/
theorem lowerFacets_replace {facet other : FacetRequest} {part part' : FacetPart}
    (h : lowerFacet catalog facet = .ok part) (hother : lowerFacet catalog other = .ok part')
    (hid : other.id = facet.id) (hoperator : other.operator = facet.operator)
    (haggregations : part'.aggregations = part.aggregations)
    (hselection : part'.selection = part.selection) (before after : List FacetRequest)
    (postFilters : Entries Clause) :
    lowerFacets catalog (before ++ other :: after) postFilters =
      lowerFacets catalog (before ++ facet :: after) postFilters := by
  have hfacet := (lowerFacet_spec h).1
  have hfacet' := (lowerFacet_spec hother).1
  simp only [lowerFacets, List.mapM_append, List.mapM_cons, h, hother, Outcome.bind_ok, bind_assoc,
    pure_bind, alternativeSelections, rootSelections, List.filterMap_append, List.filterMap_cons,
    List.map_append, List.map_cons, hfacet, hfacet', hid, hoperator, haggregations, hselection,
    countedDocuments]

theorem map_facet_of_lowered {parts : List FacetPart}
    (h : List.Forall₂ (fun facet part => lowerFacet catalog facet = .ok part) facets parts) :
    parts.map (·.facet) = facets := by
  induction h with
  | nil => rfl
  | cons hpart _ ih => rw [List.map_cons, ih, (lowerFacet_spec hpart).1]

theorem names_aggregationEntries {parts : List FacetPart}
    (h : List.Forall₂ (fun facet part => lowerFacet catalog facet = .ok part) facets parts) :
    Entries.names (parts.map (aggregationEntry postFilters)) = facets.map (·.id) := by
  rw [← map_facet_of_lowered h]
  simp [Entries.names, aggregationEntry]

/-- Facets with distinct ids have one aggregation each, in their order. -/
theorem aggregations_of_lowerFacets {result : FacetParts} (hids : (facets.map (·.id)).Nodup)
    (h : lowerFacets catalog facets postFilters = .ok result) :
    ∃ parts, List.Forall₂ (fun facet part => lowerFacet catalog facet = .ok part) facets parts ∧
      result.aggregations = parts.map (aggregationEntry result.postFilters) := by
  obtain ⟨parts, hparts, rfl⟩ := lowerFacets_eq_ok_iff.mp h
  refine ⟨parts, hparts, Entries.ofList_of_nodup ?_⟩
  rwa [names_aggregationEntries hparts]

theorem names_aggregations {result : FacetParts} (hids : (facets.map (·.id)).Nodup)
    (h : lowerFacets catalog facets postFilters = .ok result) :
    result.aggregations.names = facets.map (·.id) := by
  obtain ⟨parts, hparts, haggregations⟩ := aggregations_of_lowerFacets hids h
  rw [haggregations, names_aggregationEntries hparts]

theorem find?_aggregations {result : FacetParts} (hids : (facets.map (·.id)).Nodup)
    (h : lowerFacets catalog facets postFilters = .ok result) {facet : FacetRequest}
    (hfacet : facet ∈ facets) :
    ∃ part, lowerFacet catalog facet = .ok part ∧
      result.aggregations.find? facet.id =
        some (.filter (countedDocuments facet result.postFilters) part.aggregations) := by
  obtain ⟨parts, hparts, haggregations⟩ := aggregations_of_lowerFacets hids h
  obtain ⟨part, hpart, hlowered⟩ := Outcome.exists_of_forall₂ hparts hfacet
  obtain ⟨rfl, -⟩ := lowerFacet_spec hlowered
  refine ⟨part, hlowered, Entries.find?_of_mem ?_ ?_⟩
  · rwa [names_aggregations hids h]
  · rw [haggregations]
    exact List.mem_map_of_mem hpart

end FacetedSearch.Lowering
