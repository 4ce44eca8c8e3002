import FacetedSearch.Lowering.Query
import FacetedSearch.Proofs.Outcome

/-!
How a compiled query is put together. A query compiles exactly when each of its parts does, and the
compiled query and its request are made of these parts. The sorts of a query that is not sorted by
chance give no seed, and they do not depend on the seed that is drawn.
-/

namespace FacetedSearch.Lowering

variable {setting : Setting} {drawn : Value} {query : SearchQuery}

/-- The parts of a query. -/
structure QueryParts where
  filter : FilterParts
  language : List Clause
  fulltext : BoolQuery
  similar : List Clause
  suggestion : SuggestionParts
  facets : FacetParts
  sorts : SortParts

namespace QueryParts

/-- The parts are what the query has them compiled to, each for itself. -/
structure AreOf (setting : Setting) (drawn : Value) (query : SearchQuery) (parts : QueryParts) :
    Prop where
  filter : lowerConditions setting.catalog query.conditions = .ok parts.filter
  language : languageFilter setting.catalog query = .ok parts.language
  fulltext : fulltextPart setting query = .ok parts.fulltext
  similar : similarPart setting query = .ok parts.similar
  suggestion : suggestionParts setting query = .ok parts.suggestion
  facets : facetPart setting.catalog query parts.filter.postFilters = .ok parts.facets
  sorts : lowerSorts setting drawn query = .ok parts.sorts

/-- The root query of the parts. -/
def root (parts : QueryParts) : BoolQuery :=
  ((((parts.filter.query.addFilter parts.language).merge parts.fulltext).addMust
    parts.similar).addMust parts.suggestion.must).addFilter parts.facets.rootFilters

def assemble (query : SearchQuery) (parts : QueryParts) : CompiledQuery where
  root := parts.root
  seed := parts.sorts.seed
  postFilters := parts.facets.postFilters
  sorts := parts.sorts.sorts
  size := parts.suggestion.size.getD (pageSize query.limit)
  start := query.offset.getD 0
  excludes := query.excludeSourceFields
  aggregations := parts.suggestion.aggregations.putAll parts.facets.aggregations
  suggester := parts.suggestion.suggester

end QueryParts

theorem compileQuery_eq_ok_iff {compiled : CompiledQuery} :
    compileQuery setting drawn query = .ok compiled ↔
      ∃ parts, QueryParts.AreOf setting drawn query parts ∧ parts.assemble query = compiled := by
  constructor
  · intro h
    obtain ⟨filter, hfilter, h⟩ := Outcome.bind_eq_ok.mp h
    obtain ⟨language, hlanguage, h⟩ := Outcome.bind_eq_ok.mp h
    obtain ⟨fulltext, hfulltext, h⟩ := Outcome.bind_eq_ok.mp h
    obtain ⟨similar, hsimilar, h⟩ := Outcome.bind_eq_ok.mp h
    obtain ⟨suggestion, hsuggestion, h⟩ := Outcome.bind_eq_ok.mp h
    obtain ⟨facets, hfacets, h⟩ := Outcome.bind_eq_ok.mp h
    obtain ⟨sorts, hsorts, h⟩ := Outcome.bind_eq_ok.mp h
    exact ⟨⟨filter, language, fulltext, similar, suggestion, facets, sorts⟩,
      ⟨hfilter, hlanguage, hfulltext, hsimilar, hsuggestion, hfacets, hsorts⟩,
      Outcome.pure_eq_ok.mp h⟩
  · rintro ⟨parts, hparts, rfl⟩
    simp only [compileQuery, hparts.filter, hparts.language, hparts.fulltext, hparts.similar,
      hparts.suggestion, hparts.facets, hparts.sorts, Outcome.bind_ok]
    rfl

theorem suggestionParts_of_no_autocomplete {parts : SuggestionParts}
    (hautocomplete : query.autocomplete = none) (h : suggestionParts setting query = .ok parts) :
    parts.must = [] ∧ parts.aggregations = [] := by
  rw [suggestionParts, hautocomplete] at h
  obtain ⟨suggester, -, h⟩ := Outcome.bind_eq_ok.mp h
  obtain rfl := Outcome.pure_eq_ok.mp h
  exact ⟨rfl, rfl⟩

/-- A query counts its facets, unless it is one for completions. -/
theorem facetPart_eq (catalog : FieldCatalog) (query : SearchQuery)
    (postFilters : Entries Clause) :
    facetPart catalog query postFilters =
      if query.autocomplete.isSome then .ok { postFilters }
      else lowerFacets catalog query.facets postFilters := by
  unfold facetPart
  cases query.autocomplete with
  | some request => simp
  | none => cases query.facets <;> rfl

theorem facetPart_of_autocomplete {request : AutocompleteRequest}
    (hautocomplete : query.autocomplete = some request) (catalog : FieldCatalog)
    (postFilters : Entries Clause) : facetPart catalog query postFilters = .ok { postFilters } := by
  rw [facetPart_eq, hautocomplete]
  rfl

theorem facetPart_eq_lowerFacets (hautocomplete : query.autocomplete = none)
    (catalog : FieldCatalog) (postFilters : Entries Clause) :
    facetPart catalog query postFilters = lowerFacets catalog query.facets postFilters := by
  rw [facetPart_eq, hautocomplete]
  rfl

/-- The facets of a query matter by what they are lowered to. -/
theorem compileQuery_congr_facets {facets facets' : List FacetRequest}
    (h : ∀ postFilters, lowerFacets setting.catalog facets postFilters =
      lowerFacets setting.catalog facets' postFilters) :
    compileQuery setting drawn { query with facets } =
      compileQuery setting drawn { query with facets := facets' } := by
  have hpart : ∀ postFilters, facetPart setting.catalog { query with facets } postFilters =
      facetPart setting.catalog { query with facets := facets' } postFilters := by
    intro postFilters
    rw [facetPart_eq, facetPart_eq]
    dsimp only
    rw [h]
  simp only [compileQuery, hpart]
  rfl

/-- A request has the root query, the post filter and the aggregations of its compiled query. -/
theorem toRequest_eq_ok_iff {compiled : CompiledQuery} {request : SearchRequest} :
    compiled.toRequest = .ok request ↔
      ∃ sorts, compiled.sorts.mapM renderSort? = some sorts ∧
        { query := compiled.renderRoot
          postFilter := Value.nullable Clause.render compiled.postFilter?
          sort := .list sorts
          size := .int compiled.size
          start := .int compiled.start
          source :=
            if compiled.excludes.isEmpty then .null
            else .object [("excludes", .list (compiled.excludes.map .str))]
          aggs := .object (Aggregation.renderAll compiled.aggregations)
          suggest := Value.nullable PhraseSuggester.render compiled.suggester : SearchRequest } =
          request := by
  unfold CompiledQuery.toRequest
  cases compiled.sorts.mapM renderSort? with
  | none => simp
  | some sorts => simp

/-- Hooks that say nothing leave a request as it is. -/
@[simp]
theorem alterRequest_default (request : SearchRequest) :
    ({} : SearchHooks).alterRequest request = request := rfl

theorem compile_eq_ok_iff (hhooks : setting.hooks = {}) {request : SearchRequest} :
    compile setting drawn query = .ok request ↔
      ∃ parts, QueryParts.AreOf setting drawn query parts ∧
        (parts.assemble query).toRequest = .ok request := by
  simp only [compile, Outcome.bind_eq_ok, Outcome.pure_eq_ok, hhooks, alterRequest_default]
  constructor
  · rintro ⟨compiled, hcompiled, _, hrequest, rfl⟩
    obtain ⟨parts, hparts, rfl⟩ := compileQuery_eq_ok_iff.mp hcompiled
    exact ⟨parts, hparts, hrequest⟩
  · rintro ⟨parts, hparts, hrequest⟩
    exact ⟨_, compileQuery_eq_ok_iff.mpr ⟨parts, hparts, rfl⟩, request, hrequest, rfl⟩

/-- Nothing in a query is sorted by chance. -/
def HasFixedOrder (query : SearchQuery) : Prop := ∀ spec ∈ query.sorts, spec.field ≠ "$random"

theorem sortKey_eq_random_iff {catalog : FieldCatalog} {spec : SortSpec} :
    sortKey catalog spec = .ok .random ↔ spec.field = "$random" := by
  unfold sortKey
  split_ifs with hrandom hscore hid hkey hfulltext
  · simp [hrandom]
  · simp [hrandom]
  · simp [hrandom]
  · simp [hrandom]
  · simp [hrandom, Outcome.bind_eq_ok]
  · simp [hrandom, Outcome.bind_eq_ok]

theorem seed_of_lowerSort {parts result : SortParts} {spec : SortSpec}
    (hspec : spec.field ≠ "$random") (h : lowerSort setting drawn query parts spec = .ok result) :
    result.seed = parts.seed := by
  obtain ⟨key, hkey, h⟩ := Outcome.bind_eq_ok.mp h
  cases key with
  | random => exact absurd (sortKey_eq_random_iff.mp hkey) hspec
  | field name direction =>
      obtain rfl := Outcome.pure_eq_ok.mp h
      rfl

theorem seed_of_foldlM {sorts : List SortSpec} {start result : SortParts}
    (hsorts : ∀ spec ∈ sorts, spec.field ≠ "$random")
    (h : sorts.foldlM (lowerSort setting drawn query) start = .ok result) :
    result.seed = start.seed := by
  induction sorts generalizing start with
  | nil =>
      cases h
      rfl
  | cons spec rest ih =>
      rw [List.foldlM_cons] at h
      obtain ⟨next, hnext, h⟩ := Outcome.bind_eq_ok.mp h
      obtain ⟨hspec, hrest⟩ := List.forall_mem_cons.mp hsorts
      rw [ih hrest h, seed_of_lowerSort hspec hnext]

theorem seed_of_lowerSorts {parts : SortParts} (horder : HasFixedOrder query)
    (h : lowerSorts setting drawn query = .ok parts) : parts.seed = none := by
  unfold lowerSorts at h
  split at h
  · cases h
    rfl
  · exact seed_of_foldlM horder h

/-- The order of a query is not up to a drawn seed. -/
def DrawsNoSeed (query : SearchQuery) : Prop :=
  HasFixedOrder query ∨ ∃ seed, query.randomSeed = some seed ∧ seed ≠ 0

/-- Hooks that say nothing leave the seed of a query as it is. -/
theorem randomSeed_default (drawn : Value) (seed : Option Int) :
    randomSeed {} drawn seed = .ok ((Value.nullable .int seed).orElse drawn) := by
  simp [randomSeed, SearchHooks.alterRandomSort, Value.member, Entries.find?]

theorem randomSeed_drawn {seed : Int} (hseed : seed ≠ 0) (drawn : Value) :
    randomSeed {} drawn (some seed) = .ok (.int seed) := by
  have htruthy : (Value.int seed).isTruthy = true := by simp [Value.isTruthy, hseed]
  rw [randomSeed_default, Value.nullable, Value.orElse, htruthy]
  rfl

theorem lowerSort_drawn (hhooks : setting.hooks = {}) {spec : SortSpec}
    (hspec : spec.field ≠ "$random" ∨ ∃ seed, query.randomSeed = some seed ∧ seed ≠ 0)
    (drawn' : Value) (parts : SortParts) :
    lowerSort setting drawn query parts spec = lowerSort setting drawn' query parts spec := by
  unfold lowerSort
  cases hkey : sortKey setting.catalog spec with
  | error fault => rfl
  | ok key =>
      cases key with
      | field name direction => rfl
      | random =>
          rcases hspec with hspec | ⟨seed, hquery, hseed⟩
          · exact absurd (sortKey_eq_random_iff.mp hkey) hspec
          · simp only [Outcome.bind_ok, hhooks, hquery, randomSeed_drawn hseed]

theorem foldlM_lowerSort_drawn (hhooks : setting.hooks = {}) {sorts : List SortSpec}
    (hsorts : ∀ spec ∈ sorts,
      spec.field ≠ "$random" ∨ ∃ seed, query.randomSeed = some seed ∧ seed ≠ 0)
    (drawn' : Value) (start : SortParts) :
    sorts.foldlM (lowerSort setting drawn query) start =
      sorts.foldlM (lowerSort setting drawn' query) start := by
  induction sorts generalizing start with
  | nil => rfl
  | cons spec rest ih =>
      obtain ⟨hspec, hrest⟩ := List.forall_mem_cons.mp hsorts
      rw [List.foldlM_cons, List.foldlM_cons, lowerSort_drawn hhooks hspec drawn']
      exact bind_congr fun parts => ih hrest parts

/-- The sorts of such a query are the same whatever is drawn. -/
theorem lowerSorts_drawn (hhooks : setting.hooks = {}) (hseed : DrawsNoSeed query)
    (drawn' : Value) : lowerSorts setting drawn query = lowerSorts setting drawn' query := by
  unfold lowerSorts
  split
  · rfl
  · refine foldlM_lowerSort_drawn hhooks ?_ drawn' {}
    intro spec hspec
    exact hseed.imp (fun horder => horder spec hspec) id

theorem compile_drawn (hhooks : setting.hooks = {}) (hseed : DrawsNoSeed query) (drawn' : Value) :
    compile setting drawn query = compile setting drawn' query := by
  rw [compile, compile, compileQuery, compileQuery, lowerSorts_drawn hhooks hseed drawn']

end FacetedSearch.Lowering
