import FacetedSearch.Proofs.ResponseReading

/-!
What the parts of a response give. Its items are read from its hits and its suggestions from its
suggestion entries, and the warnings about each part follow those about the parts before it. Where
nothing is counted, a response of the expected shape can always be read.
-/

namespace FacetedSearch

namespace FacetRequest

variable {catalog : FieldCatalog} {facet : FacetRequest}

theorem isReadable_null (catalog : FieldCatalog) (facet : FacetRequest) :
    facet.IsReadable catalog .null := by
  have hbuckets := (facet.readBuckets_readsIff catalog .null).exists_ok_iff.mp ⟨_, rfl⟩
  have hstats := (facet.readStats_readsIff catalog .null).exists_ok_iff.mp ⟨_, rfl⟩
  unfold IsReadable
  cases facet.kind with
  | range => exact hstats
  | _ => exact hbuckets

theorem warningsIn_null (catalog : FieldCatalog) (facet : FacetRequest) :
    facet.warningsIn catalog .null = [] := by
  unfold warningsIn
  cases facet.kind with
  | range => rfl
  | _ => rfl

end FacetRequest

namespace ResultSet

open Lowering (IsNullOrObject)

variable {catalog : FieldCatalog} {query : SearchQuery} {response : Value} {results : ResultSet}

/-- The warnings about the facets of a query; beside completions none are counted. -/
def facetWarnings (catalog : FieldCatalog) (query : SearchQuery) (response : Value) :
    List String :=
  match query.autocomplete with
  | some _ => []
  | none => query.facets.flatMap fun facet =>
    facet.warningsIn catalog (response.path ["aggregations", facet.id])

/-- The items, suggestions and warnings of results are those of the parts of a response. -/
structure HasParts (catalog : FieldCatalog) (query : SearchQuery) (response : Value)
    (results : ResultSet) : Prop where
  items : results.items = (Hit.readAll catalog (response.path ["hits", "hits"]).walked).values
  suggestions : results.suggestions =
    (Suggestion.readAll (response.path ["suggest", "spelling_suggestion"])).values
  warnings : results.warnings =
    (Hit.readAll catalog (response.path ["hits", "hits"]).walked).warnings ++
      facetWarnings catalog query response ++
      (Suggestion.readAll (response.path ["suggest", "spelling_suggestion"])).warnings ++
      (completionsIn query (response.path ["aggregations", "autocomplete"])
        (response.path ["suggest", "autocomplete"])).warnings

/-- Adding facets leaves everything alone but what is counted and the warnings. -/
theorem parts_of_addFacets {aggregations : Value} (h : IsNullOrObject aggregations)
    {start : ResultSet} (hresults : addFacets catalog query aggregations start = .ok results) :
    results.items = start.items ∧
      results.warnings = start.warnings ++
        match query.autocomplete with
        | some _ => []
        | none => query.facets.flatMap fun facet =>
          facet.warningsIn catalog (aggregations.path [facet.id]) := by
  cases hautocomplete : query.autocomplete with
  | some request =>
      rw [addFacets, hautocomplete] at hresults
      cases hresults
      exact ⟨rfl, (List.append_nil _).symm⟩
  | none =>
      rw [addFacets_eq_ok h hautocomplete hresults]
      exact ⟨rfl, rfl⟩

/-- What is read of a well shaped response is put together from its parts. -/
theorem hasParts_of_ofResponse (h : IsWellShaped response)
    (hresults : ofResponse catalog query response = .ok results) :
    HasParts catalog query response results := by
  obtain ⟨block, suggest, hsuggest, hread⟩ := ofResponse_eq h catalog query
  rw [hread] at hresults
  obtain ⟨counted, hcounted, hresults⟩ := Outcome.bind_eq_ok.mp hresults
  obtain ⟨hitems, hwarnings⟩ := parts_of_addFacets h.aggregations hcounted
  have hadded := addSuggestions_eq_ok h.aggregations hresults
  simp only [hsuggest, ← Value.path_cons] at hadded hwarnings
  rw [hadded]
  refine ⟨hitems, rfl, ?_⟩
  rw [hwarnings]
  rfl

theorem completionsIn_null (query : SearchQuery) :
    (completionsIn query .null .null).warnings = [] := by
  unfold completionsIn
  cases query.autocomplete with
  | none => rfl
  | some request => rfl

/-- A well shaped response without aggregations is read, as its hits and its suggestions. -/
theorem ofResponse_uncounted (h : IsWellShaped response)
    (haggregations : response.path ["aggregations"] = .null)
    (hcompletions : response.path ["suggest", "autocomplete"] = .null)
    (catalog : FieldCatalog) (query : SearchQuery) :
    ∃ results, ofResponse catalog query response = .ok results ∧
      results.items = (Hit.readAll catalog (response.path ["hits", "hits"]).walked).values ∧
      results.suggestions =
        (Suggestion.readAll (response.path ["suggest", "spelling_suggestion"])).values ∧
      results.warnings =
        (Hit.readAll catalog (response.path ["hits", "hits"]).walked).warnings ++
          (Suggestion.readAll (response.path ["suggest", "spelling_suggestion"])).warnings := by
  have hnull : ∀ names, response.path ("aggregations" :: names) = .null := by
    intro names
    rw [Value.path_cons, haggregations]
    cases names with
    | nil => rfl
    | cons name rest => rfl
  have hreadable : IsReadable catalog query response := by
    refine ⟨fun _ facet _ => ?_, fun _ => ?_⟩
    · rw [hnull]
      exact facet.isReadable_null catalog
    · rw [hnull]
      exact nofun
  obtain ⟨results, hresults⟩ := (ofResponse_readsIff h catalog query).exists_ok_iff.mpr hreadable
  have hparts := hasParts_of_ofResponse h hresults
  have hfacets : facetWarnings catalog query response = [] := by
    unfold facetWarnings
    cases query.autocomplete with
    | some request => rfl
    | none =>
        apply List.flatMap_eq_nil_iff.mpr
        intro facet _
        rw [hnull, facet.warningsIn_null]
  refine ⟨results, hresults, hparts.items, hparts.suggestions, ?_⟩
  rw [hparts.warnings, hfacets, hnull, hcompletions, completionsIn_null, List.append_nil,
    List.append_nil]

end ResultSet

end FacetedSearch
