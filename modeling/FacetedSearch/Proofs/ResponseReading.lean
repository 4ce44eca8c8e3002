import FacetedSearch.Proofs.BucketReading
import FacetedSearch.Proofs.ConditionLowering

/-!
Which responses can be read. A response of the expected outer shape gives results unless the
aggregation of some facet, or of the completions, cannot be read; malformed hits and suggestions are
skipped. Each facet has what is read from its own aggregation, whatever the others give.
-/

namespace FacetedSearch.ResultSet

open Outcome (ReadsIff)
open Lowering (IsNullOrObject exists_entriesOrEmpty exists_elements)

variable {catalog : FieldCatalog} {query : SearchQuery} {response : Value}

theorem addFacet_readsIff (catalog : FieldCatalog) (aggregations : Entries Value)
    (facet : FacetRequest) (results : ResultSet) :
    ReadsIff (facet.IsReadable catalog (Value.member aggregations facet.id))
      (addFacet catalog aggregations results facet) := by
  have hbuckets := facet.readBuckets_readsIff catalog (Value.member aggregations facet.id)
  have hstats := facet.readStats_readsIff catalog (Value.member aggregations facet.id)
  unfold addFacet FacetRequest.IsReadable
  cases facet.kind with
  | range =>
      refine hstats.bind_total fun stats _ => ?_
      cases stats with
      | none => exact ⟨_, rfl⟩
      | some stats => exact ⟨_, rfl⟩
  | _ => exact hbuckets.bind_total fun _ _ => ⟨_, rfl⟩

/-- Adding a facet puts what is read for it under its id and adds its warnings, and nothing else. -/
theorem addFacet_eq_ok {aggregations : Entries Value} {facet : FacetRequest}
    {results added : ResultSet} (h : addFacet catalog aggregations results facet = .ok added) :
    added = { results with
      facets := results.facets.putAll
        (facet.bucketEntries catalog (Value.member aggregations facet.id))
      facetStats := results.facetStats.putAll
        (facet.statsEntries catalog (Value.member aggregations facet.id))
      warnings := results.warnings ++
        facet.warningsIn catalog (Value.member aggregations facet.id) } := by
  unfold addFacet at h
  unfold FacetRequest.bucketEntries FacetRequest.statsEntries FacetRequest.bucketsIn
    FacetRequest.statsIn FacetRequest.warningsIn
  cases hkind : facet.kind with
  | range =>
      rw [hkind] at h
      obtain ⟨stats, hstats, h⟩ := Outcome.bind_eq_ok.mp h
      rw [hstats, List.append_nil]
      cases stats with
      | none =>
          obtain rfl := Outcome.pure_eq_ok.mp h
          rfl
      | some stats =>
          obtain rfl := Outcome.pure_eq_ok.mp h
          rfl
  | _ =>
      rw [hkind] at h
      obtain ⟨buckets, hbuckets, h⟩ := Outcome.bind_eq_ok.mp h
      obtain rfl := Outcome.pure_eq_ok.mp h
      rw [hbuckets]
      rfl

theorem foldlM_addFacet_eq_ok {aggregations : Entries Value} {facets : List FacetRequest}
    {start results : ResultSet}
    (h : facets.foldlM (addFacet catalog aggregations) start = .ok results) :
    results = { start with
      facets := start.facets.putAll (facets.flatMap fun facet =>
        facet.bucketEntries catalog (Value.member aggregations facet.id))
      facetStats := start.facetStats.putAll (facets.flatMap fun facet =>
        facet.statsEntries catalog (Value.member aggregations facet.id))
      warnings := start.warnings ++ facets.flatMap fun facet =>
        facet.warningsIn catalog (Value.member aggregations facet.id) } := by
  induction facets generalizing start with
  | nil =>
      cases h
      simp
  | cons facet rest ih =>
      rw [List.foldlM_cons] at h
      obtain ⟨added, hadded, h⟩ := Outcome.bind_eq_ok.mp h
      rw [ih h, addFacet_eq_ok hadded]
      simp only [List.flatMap_cons, Entries.putAll_append, List.append_assoc]

/-- The outer members of a response are objects, and its hits a list, where they are given. -/
structure IsWellShaped (response : Value) : Prop where
  isObject : ∃ entries, response = .object entries
  hits : IsNullOrObject (response.path ["hits"])
  items : response.path ["hits", "hits"] = .null ∨
    ∃ items, response.path ["hits", "hits"] = .list items
  aggregations : IsNullOrObject (response.path ["aggregations"])
  suggest : IsNullOrObject (response.path ["suggest"])

/-- What a query asks to be counted can be taken over: the aggregations of all of its facets, or of
the completions it asks for. -/
structure IsReadable (catalog : FieldCatalog) (query : SearchQuery) (response : Value) : Prop where
  facets : query.autocomplete = none → ∀ facet ∈ query.facets,
    facet.IsReadable catalog (response.path ["aggregations", facet.id])
  completions : query.autocomplete ≠ none →
    (response.path ["aggregations", "autocomplete", "buckets"]).IsWalkable

/-- Each facet of a query has what is read from its own aggregation, which is nothing where the
aggregation is not there. -/
structure FacetsAreRead (catalog : FieldCatalog) (query : SearchQuery) (response : Value)
    (results : ResultSet) : Prop where
  facets : results.facets = Entries.ofList (query.facets.flatMap fun facet =>
    facet.bucketEntries catalog (response.path ["aggregations", facet.id]))
  stats : results.facetStats = Entries.ofList (query.facets.flatMap fun facet =>
    facet.statsEntries catalog (response.path ["aggregations", facet.id]))
  noBuckets : ∀ facet ∈ query.facets, facet.kind ≠ .range →
    ((response.path ["aggregations", facet.id]).path
      (Lowering.bucketPath catalog facet)).isObject = false →
    facet.bucketEntries catalog (response.path ["aggregations", facet.id]) = [(facet.id, [])]
  noStats : ∀ facet ∈ query.facets,
    ((response.path ["aggregations", facet.id]).path (facet.statsPath catalog)).isObject = false →
    facet.statsEntries catalog (response.path ["aggregations", facet.id]) = []

theorem addFacets_readsIff {aggregations : Value} (h : IsNullOrObject aggregations)
    (catalog : FieldCatalog) (query : SearchQuery) (results : ResultSet) :
    ReadsIff
      (query.autocomplete = none → ∀ facet ∈ query.facets,
        facet.IsReadable catalog (aggregations.path [facet.id]))
      (addFacets catalog query aggregations results) := by
  obtain ⟨entries, hentries, hmember⟩ := exists_entriesOrEmpty h
  unfold addFacets
  cases query.autocomplete with
  | some request => exact .accepted _ (by simp)
  | none =>
      cases query.facets with
      | nil => exact .accepted _ (by simp)
      | cons first rest =>
          simp only [hentries, Outcome.bind_ok, ← hmember]
          exact (Outcome.SucceedsIff.foldlM (fun facet _ results =>
            addFacet_readsIff catalog entries facet results) results).congr (by simp)

theorem addFacets_eq_ok {aggregations : Value} (h : IsNullOrObject aggregations)
    (hautocomplete : query.autocomplete = none) {start results : ResultSet}
    (hresults : addFacets catalog query aggregations start = .ok results) :
    results = { start with
      facets := start.facets.putAll (query.facets.flatMap fun facet =>
        facet.bucketEntries catalog (aggregations.path [facet.id]))
      facetStats := start.facetStats.putAll (query.facets.flatMap fun facet =>
        facet.statsEntries catalog (aggregations.path [facet.id]))
      warnings := start.warnings ++ query.facets.flatMap fun facet =>
        facet.warningsIn catalog (aggregations.path [facet.id]) } := by
  obtain ⟨entries, hentries, hmember⟩ := exists_entriesOrEmpty h
  unfold addFacets at hresults
  rw [hautocomplete] at hresults
  cases hfacets : query.facets with
  | nil =>
      rw [hfacets] at hresults
      cases hresults
      simp
  | cons first rest =>
      rw [hfacets] at hresults
      simp only [hentries, Outcome.bind_ok] at hresults
      simp only [← hmember]
      exact foldlM_addFacet_eq_ok hresults

theorem readSuggestions_readsIff (request : AutocompleteRequest) (agg suggest : Value) :
    ReadsIff (agg.path ["buckets"]).IsWalkable (request.readSuggestions agg suggest) :=
  (elements_readsIff _).bind_total fun _ _ => ⟨_, rfl⟩

theorem addSuggestions_readsIff {aggregations : Value} (h : IsNullOrObject aggregations)
    (query : SearchQuery) (suggest : Entries Value) (results : ResultSet) :
    ReadsIff
      (query.autocomplete ≠ none → (aggregations.path ["autocomplete", "buckets"]).IsWalkable)
      (addSuggestions query aggregations suggest results) := by
  obtain ⟨entries, hentries, hmember⟩ := exists_entriesOrEmpty h
  unfold addSuggestions
  cases query.autocomplete with
  | none => exact .accepted _ (by simp)
  | some request =>
      have hpath : aggregations.path ["autocomplete", "buckets"] =
          (Value.member entries "autocomplete").path ["buckets"] := by
        rw [Value.path_cons, hmember]
      rw [hpath]
      simp only [hentries, Outcome.bind_ok]
      have hread := readSuggestions_readsIff request (Value.member entries "autocomplete")
        (Value.member suggest "autocomplete")
      exact (hread.bind_total fun _ _ => ⟨_, rfl⟩).congr (by simp)

/-- What is read of the completions that a query asks for. -/
def completionsIn (query : SearchQuery) (agg suggest : Value) : Readings AutocompleteSuggestion :=
  match query.autocomplete with
  | none => {}
  | some request =>
    match request.readSuggestions agg suggest with
    | .ok readings => readings
    | .error _ => {}

/-- Adding suggestions sets them and adds their warnings, and nothing else. -/
theorem addSuggestions_eq_ok {aggregations : Value} (h : IsNullOrObject aggregations)
    {suggest : Entries Value} {results added : ResultSet}
    (hadded : addSuggestions query aggregations suggest results = .ok added) :
    added = { results with
      suggestions := (Suggestion.readAll (Value.member suggest "spelling_suggestion")).values
      autocomplete := added.autocomplete
      warnings := results.warnings ++
        (Suggestion.readAll (Value.member suggest "spelling_suggestion")).warnings ++
        (completionsIn query (aggregations.path ["autocomplete"])
          (Value.member suggest "autocomplete")).warnings } := by
  obtain ⟨entries, hentries, hmember⟩ := exists_entriesOrEmpty h
  unfold addSuggestions at hadded
  unfold completionsIn
  cases hautocomplete : query.autocomplete with
  | none =>
      rw [hautocomplete] at hadded
      obtain rfl := Outcome.pure_eq_ok.mp hadded
      rw [List.append_nil]
  | some request =>
      rw [hautocomplete] at hadded
      simp only [hentries, Outcome.bind_ok] at hadded
      obtain ⟨completed, hcompleted, hadded⟩ := Outcome.bind_eq_ok.mp hadded
      obtain rfl := Outcome.pure_eq_ok.mp hadded
      rw [hmember] at hcompleted
      simp only [hcompleted]

/-- What is read of a response apart from its facets and suggestions. -/
def ofHits (catalog : FieldCatalog) (block : Entries Value) (items : List Value) : ResultSet where
  total := Hit.total (Value.member block "total")
  items := (Hit.readAll catalog items).values
  warnings := (Hit.readAll catalog items).warnings

/-- The hits of a well shaped response can always be read, and facets and suggestions are added to
them. -/
theorem ofResponse_eq (h : IsWellShaped response) (catalog : FieldCatalog) (query : SearchQuery) :
    ∃ block suggest, (∀ name, Value.member suggest name = response.path ["suggest", name]) ∧
      ofResponse catalog query response = (do
        let results ← addFacets catalog query (response.path ["aggregations"])
          (ofHits catalog block (response.path ["hits", "hits"]).walked)
        addSuggestions query (response.path ["aggregations"]) suggest results) := by
  obtain ⟨⟨entries, rfl⟩, hhits, hitems, -, hsuggest⟩ := h
  obtain ⟨block, hblock, hmember⟩ := exists_entriesOrEmpty hhits
  have hlisted : (Value.object entries).path ["hits", "hits"] = Value.member block "hits" := by
    rw [Value.path_cons, hmember]
  rw [hlisted] at hitems ⊢
  obtain ⟨items, hitems⟩ := exists_elements hitems
  obtain ⟨suggest, hsuggest, hsuggested⟩ := exists_entriesOrEmpty hsuggest
  have hgiven : ∀ name, (Value.object entries).path [name] = Value.member entries name :=
    fun _ => rfl
  rw [hgiven] at hblock hsuggest
  refine ⟨block, suggest, fun name => ?_, ?_⟩
  · rw [hsuggested, ← Value.path_cons]
  · rw [← elements_eq_walked hitems]
    simp only [ofResponse, hblock, hitems, hsuggest, Outcome.bind_ok]
    rfl

theorem ofResponse_readsIff (h : IsWellShaped response) (catalog : FieldCatalog)
    (query : SearchQuery) :
    ReadsIff (IsReadable catalog query response) (ofResponse catalog query response) := by
  obtain ⟨block, suggest, -, hread⟩ := ofResponse_eq h catalog query
  have hfacets := addFacets_readsIff h.aggregations catalog query
    (ofHits catalog block (response.path ["hits", "hits"]).walked)
  have hsuggestions := addSuggestions_readsIff h.aggregations query suggest
  rw [hread]
  refine (hfacets.bind fun results _ => hsuggestions results).congr ?_
  simp only [← Value.path_cons]
  exact ⟨fun h => ⟨h.1, h.2⟩, fun h => ⟨h.facets, h.completions⟩⟩

theorem facetsAreRead_of_ofResponse (h : IsWellShaped response)
    (hautocomplete : query.autocomplete = none) {results : ResultSet}
    (hresults : ofResponse catalog query response = .ok results) :
    FacetsAreRead catalog query response results := by
  obtain ⟨block, suggest, -, hread⟩ := ofResponse_eq h catalog query
  rw [hread] at hresults
  obtain ⟨counted, hcounted, hresults⟩ := Outcome.bind_eq_ok.mp hresults
  have hfacets := addFacets_eq_ok h.aggregations hautocomplete hcounted
  have hadded := addSuggestions_eq_ok h.aggregations hresults
  simp only [← Value.path_cons] at hfacets
  rw [hadded, hfacets]
  exact ⟨rfl, rfl, fun _ _ hkind => FacetRequest.bucketEntries_of_not_object hkind,
    fun _ _ => FacetRequest.statsEntries_of_not_object⟩

/-- A well shaped response is read exactly when what it counts can be taken over, and each facet
then has what is read from its own aggregation. -/
theorem ofResponse_readable_iff (h : IsWellShaped response) (catalog : FieldCatalog)
    (query : SearchQuery) :
    ((∃ results, ofResponse catalog query response = .ok results) ↔
        IsReadable catalog query response) ∧
      ∀ results, ofResponse catalog query response = .ok results → query.autocomplete = none →
        FacetsAreRead catalog query response results := by
  constructor
  · exact (ofResponse_readsIff h catalog query).exists_ok_iff
  · intro results hresults hautocomplete
    exact facetsAreRead_of_ofResponse h hautocomplete hresults

def goodsQuery : SearchQuery where
  facets := [{ id := "color", field := "color" }, { id := "size", field := "size" }]

def answerOf (buckets : Value) : Value := .object [("buckets", buckets)]

/-- An answer in which the colors have a number in place of their buckets. -/
def numberAnswer : Value :=
  .object [("aggregations", .object
    [("color", .object [("color", answerOf (.int 5))]),
      ("size", .object [("size", answerOf (.list []))])])]

/-- An answer without colors, in which one of the sizes is malformed. -/
def sizesAnswer : Value :=
  .object [("aggregations", .object
    [("color", .str "gone"),
      ("size", .object [("size", answerOf (.list
        [.object [("key", .str "L"), ("doc_count", .int 3)], .int 7]))])])]

def sizesResults : ResultSet where
  facets := [("color", []), ("size", [{ filter := "\"L\"", count := 3 }])]
  warnings := ["Skipped malformed bucket of facet \x60size\x60: 7"]

theorem isWellShaped_of_aggregations {aggregations : Entries Value} :
    IsWellShaped (.object [("aggregations", .object aggregations)]) :=
  ⟨⟨_, rfl⟩, .inl rfl, .inl rfl, .inr ⟨_, rfl⟩, .inl rfl⟩

theorem sizesAnswer_isRead :
    IsWellShaped sizesAnswer ∧
      ofResponse Lowering.goodsCatalog goodsQuery sizesAnswer = .ok sizesResults ∧
      IsReadable Lowering.goodsCatalog goodsQuery sizesAnswer ∧
      FacetsAreRead Lowering.goodsCatalog goodsQuery sizesAnswer sizesResults := by
  have hresults : ofResponse Lowering.goodsCatalog goodsQuery sizesAnswer = .ok sizesResults := rfl
  obtain ⟨hiff, hread⟩ :=
    ofResponse_readable_iff isWellShaped_of_aggregations Lowering.goodsCatalog goodsQuery
  exact ⟨isWellShaped_of_aggregations, hresults, hiff.mp ⟨_, hresults⟩, hread _ hresults rfl⟩

/-- Not every well shaped response is read: the number in place of the buckets of one facet leaves
the whole query without results. -/
theorem numberAnswer_not_read :
    ¬∀ (catalog : FieldCatalog) (query : SearchQuery) (response : Value),
      IsWellShaped response → ∃ results, ofResponse catalog query response = .ok results := by
  intro hread
  obtain ⟨results, hresults⟩ :=
    hread Lowering.goodsCatalog goodsQuery numberAnswer isWellShaped_of_aggregations
  have hfault : ofResponse Lowering.goodsCatalog goodsQuery numberAnswer = .error .wrongKind := rfl
  rw [hfault] at hresults
  cases hresults

end FacetedSearch.ResultSet
