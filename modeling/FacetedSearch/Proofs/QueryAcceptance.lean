import FacetedSearch.Proofs.Compile
import FacetedSearch.Proofs.ConditionAcceptance
import FacetedSearch.Proofs.KeyLowering
import FacetedSearch.Proofs.RefusedGranularities
import FacetedSearch.Proofs.SimilarDocuments
import FacetedSearch.Store.PerCollection

/-!
Which queries compile. Conditions, the requested full-text fields, facets and sorts each have to be
acceptable, and where one of them is not, the request is at fault. Two things else can go wrong as
long as the names that a catalog is set up with are texts: the field that suggestions are asked from
is no text, or the granularity that a facet is refused for is too long to be shown. A query for
completions is compiled without its keys, facets and sorts, so that nothing is asked of these. How
deep clauses can be nested until they are too deep to be copied is left open here.
-/

namespace FacetedSearch

open Outcome (AcceptsIff EndsIn SlipsFirst)

/-- A facet on a known field that has the options and the interval that its kind needs. -/
structure FacetRequest.IsAccepted (catalog : FieldCatalog) (facet : FacetRequest) : Prop where
  known : catalog.Knows facet.field
  options : facet.kind = .nested → facet.nested.isSome = true
  interval : facet.kind.isHistogram = true → facet.dateDisplay ≠ some true →
    Granularity.IsInterval facet.granularity

theorem FacetRequest.isAccepted_iff {catalog : FieldCatalog} {facet : FacetRequest} :
    facet.IsAccepted catalog ↔ catalog.Knows facet.field ∧
      (facet.kind = .nested → facet.nested.isSome = true) ∧
        (facet.kind.isHistogram = true → facet.dateDisplay ≠ some true →
          Granularity.IsInterval facet.granularity) :=
  ⟨fun h => ⟨h.known, h.options, h.interval⟩, fun h => ⟨h.1, h.2.1, h.2.2⟩⟩

instance (catalog : FieldCatalog) (facet : FacetRequest) : Decidable (facet.IsAccepted catalog) :=
  decidable_of_iff' _ FacetRequest.isAccepted_iff

/-- A facet on a known field that is refused for a granularity which cannot be shown. -/
structure FacetRequest.IsUnwritable (catalog : FieldCatalog) (facet : FacetRequest) : Prop where
  known : catalog.Knows facet.field
  histogram : facet.kind.isHistogram = true
  numeric : facet.dateDisplay ≠ some true
  granularity : Granularity.IsUnwritable facet.granularity

theorem FacetRequest.isUnwritable_iff {catalog : FieldCatalog} {facet : FacetRequest} :
    facet.IsUnwritable catalog ↔ catalog.Knows facet.field ∧ facet.kind.isHistogram = true ∧
      facet.dateDisplay ≠ some true ∧ Granularity.IsUnwritable facet.granularity :=
  ⟨fun h => ⟨h.known, h.histogram, h.numeric, h.granularity⟩,
    fun h => ⟨h.1, h.2.1, h.2.2.1, h.2.2.2⟩⟩

/-- A special sort, or one by a known field. -/
def SortSpec.IsAccepted (catalog : FieldCatalog) (spec : SortSpec) : Prop :=
  spec.field ∈ ["$random", "$score", "$id"] ∨ catalog.Knows spec.field

instance (catalog : FieldCatalog) (spec : SortSpec) : Decidable (spec.IsAccepted catalog) :=
  inferInstanceAs (Decidable (_ ∨ _))

/-- The full-text fields that are asked for are known, where there is something to search for. -/
def SearchQuery.KnowsFields (catalog : FieldCatalog) (query : SearchQuery) : Prop :=
  query.autocomplete = none → ∀ keys ∈ query.keys, keys.normalized.terms ≠ [] →
    ∀ ids ∈ query.fulltextFields, ∀ id ∈ ids, catalog.Knows id

instance (catalog : FieldCatalog) (query : SearchQuery) : Decidable (query.KnowsFields catalog) :=
  inferInstanceAs (Decidable (_ → ∀ keys ∈ query.keys, keys.normalized.terms ≠ [] →
    ∀ ids ∈ query.fulltextFields, ∀ id ∈ ids, catalog.Knows id))

/-- What a query must be like to compile. Only its conditions matter where it asks for completions,
and the requested fields only where there is something to search for. -/
structure SearchQuery.IsAccepted (catalog : FieldCatalog) (query : SearchQuery) : Prop where
  conditions : (ConditionTree.ofGroup query.conditions).IsAccepted catalog
  fulltextFields : query.KnowsFields catalog
  facets : query.autocomplete = none → ∀ facet ∈ query.facets, facet.IsAccepted catalog
  sorts : query.autocomplete = none → ∀ spec ∈ query.sorts, spec.IsAccepted catalog

theorem SearchQuery.isAccepted_iff {catalog : FieldCatalog} {query : SearchQuery} :
    query.IsAccepted catalog ↔ (ConditionTree.ofGroup query.conditions).IsAccepted catalog ∧
      query.KnowsFields catalog ∧
      (query.autocomplete = none → ∀ facet ∈ query.facets, facet.IsAccepted catalog) ∧
      (query.autocomplete = none → ∀ spec ∈ query.sorts, spec.IsAccepted catalog) :=
  ⟨fun h => ⟨h.conditions, h.fulltextFields, h.facets, h.sorts⟩,
    fun h => ⟨h.1, h.2.1, h.2.2.1, h.2.2.2⟩⟩

instance (catalog : FieldCatalog) (query : SearchQuery) : Decidable (query.IsAccepted catalog) :=
  decidable_of_iff' _ SearchQuery.isAccepted_iff

/-- The first facet that is not accepted is refused for a granularity which cannot be shown. -/
def SearchQuery.HasUnwritableFacet (catalog : FieldCatalog) (query : SearchQuery) : Prop :=
  query.autocomplete = none ∧
    SlipsFirst (FacetRequest.IsAccepted catalog) (FacetRequest.IsUnwritable catalog) query.facets

namespace Lowering

variable {setting : Setting} {drawn : Value} {query : SearchQuery} {catalog : FieldCatalog}

/-- The names that a catalog is set up with are texts. -/
structure Setting.IsTextual (setting : Setting) : Prop where
  idField : ∃ name, setting.catalog.idField = .str name
  currentLanguage : ∃ name, setting.catalog.currentLanguage = .str name
  defaultLanguage : ∃ name, setting.catalog.defaultLanguage = .str name

/-- Where keys were typed and there is something to take suggestions from, this is a text. -/
def Setting.CanCorrect (setting : Setting) (originalKeys : Option String) : Prop :=
  (Text.trim (originalKeys.getD "")).isEmpty = false →
    setting.suggestionField.isTruthy = true → setting.suggestionField.text?.isSome = true

instance (setting : Setting) (originalKeys : Option String) :
    Decidable (setting.CanCorrect originalKeys) := inferInstanceAs (Decidable (_ → _ → _))

/-- Suggestions can be taken from what is set up; a query for completions asks for others. -/
def Setting.CanSuggest (setting : Setting) (query : SearchQuery) : Prop :=
  query.autocomplete = none → setting.CanCorrect query.originalKeys

instance (setting : Setting) (query : SearchQuery) : Decidable (setting.CanSuggest query) :=
  inferInstanceAs (Decidable (_ → _))

/-- A query that ends in a fault which it is not blamed for. Its conditions and keys are accepted,
but suggestions cannot be taken from what is set up, or else a facet's refusal cannot be shown. -/
structure Setting.BreaksOn (setting : Setting) (query : SearchQuery) : Prop where
  conditions : (ConditionTree.ofGroup query.conditions).IsAccepted setting.catalog
  fulltextFields : query.KnowsFields setting.catalog
  facets : setting.CanSuggest query → query.HasUnwritableFacet setting.catalog

theorem Setting.breaksOn_iff {setting : Setting} {query : SearchQuery} :
    setting.BreaksOn query ↔
      (ConditionTree.ofGroup query.conditions).IsAccepted setting.catalog ∧
      query.KnowsFields setting.catalog ∧
      (setting.CanSuggest query → query.HasUnwritableFacet setting.catalog) :=
  ⟨fun h => ⟨h.conditions, h.fulltextFields, h.facets⟩, fun h => ⟨h.1, h.2.1, h.2.2⟩⟩

section Facets

theorem histogramAggregation_endsIn (facet : FacetRequest) (field : String) :
    EndsIn (facet.dateDisplay ≠ some true → Granularity.IsInterval facet.granularity)
      (facet.dateDisplay ≠ some true ∧ Granularity.IsUnwritable facet.granularity)
      (histogramAggregation facet field) := by
  unfold histogramAggregation
  split_ifs with hdate
  · exact .accepted _ (fun h => absurd hdate h) fun h => absurd hdate h.1
  · have hinterval := Granularity.interval_endsIn facet.granularity
    exact (hinterval.bind_total fun _ _ => ⟨_, rfl⟩).congr (by simp [hdate]) (by simp [hdate])

theorem facetAggregations_endsIn (facet : FacetRequest) (field : String) (limit : Value)
    (source : Option String) :
    EndsIn (facet.kind.isHistogram = true → facet.dateDisplay ≠ some true →
        Granularity.IsInterval facet.granularity)
      (facet.kind.isHistogram = true ∧ facet.dateDisplay ≠ some true ∧
        Granularity.IsUnwritable facet.granularity)
      (facetAggregations facet field limit source) := by
  have hhistogram := histogramAggregation_endsIn facet field
  unfold facetAggregations
  cases facet.kind with
  | string | range | nested => exact .accepted _ nofun nofun
  | date | granular =>
      refine (hhistogram.bind_total fun _ _ => ⟨_, rfl⟩).congr ?_ ?_
      · simp [FacetKind.isHistogram]
      · simp [FacetKind.isHistogram]

theorem lowerNestedFacet_endsIn (facet : FacetRequest) :
    EndsIn (facet.nested.isSome = true ∧ (facet.kind.isHistogram = true →
        facet.dateDisplay ≠ some true → Granularity.IsInterval facet.granularity))
      (facet.nested.isSome = true ∧ facet.kind.isHistogram = true ∧
        facet.dateDisplay ≠ some true ∧ Granularity.IsUnwritable facet.granularity)
      (lowerNestedFacet facet) := by
  unfold lowerNestedFacet
  cases facet.nested with
  | none => exact .refused rfl (by simp) (by simp)
  | some options =>
      have hinner := facetAggregations_endsIn facet (FieldPath.dotted facet.field)
        (.int nestedFacetLimit) (some (nestedPath facet options))
      exact (hinner.bind_total fun _ _ => ⟨_, rfl⟩).congr (by simp) (by simp)

theorem lowerFacet_endsIn (catalog : FieldCatalog) (facet : FacetRequest) :
    EndsIn (facet.IsAccepted catalog) (facet.IsUnwritable catalog) (lowerFacet catalog facet) := by
  have hresolve := EndsIn.of_acceptsIff (catalog.resolve_acceptsIff facet.field)
  rw [FacetRequest.isAccepted_iff, FacetRequest.isUnwritable_iff]
  refine (hresolve.bind fun _ _ => ?_).congr .rfl (iff_of_eq (false_or _))
  cases hnested : isNestedFacet catalog facet with
  | true =>
      -- A facet that is nested without being of that kind has options already.
      have hoptions : facet.kind = .nested ∨ facet.nested.isSome = true := by
        rw [isNestedFacet, Bool.or_eq_true, Bool.and_eq_true, beq_iff_eq] at hnested
        exact hnested.imp id And.left
      have hmeasured : facet.kind.isHistogram = true → facet.nested.isSome = true := by
        refine fun hkind => hoptions.resolve_left fun hnestedKind => ?_
        rw [hnestedKind] at hkind
        cases hkind
      rw [if_pos rfl]
      refine (lowerNestedFacet_endsIn facet).congr (and_congr_left' ⟨fun h _ => h, fun h => ?_⟩) ?_
      · exact hoptions.elim h id
      · exact and_iff_right_of_imp fun h => hmeasured h.1
  | false =>
      have hkind : facet.kind ≠ .nested := by
        intro hkind
        rw [isNestedFacet, hkind] at hnested
        cases hnested
      rw [if_neg Bool.false_ne_true]
      have haggregations := facetAggregations_endsIn facet (FieldPath.dotted facet.field)
        (bucketLimit catalog facet) none
      exact (haggregations.bind_total fun _ _ => ⟨_, rfl⟩).congr (by simp [hkind]) .rfl

theorem lowerFacets_endsIn (catalog : FieldCatalog) (facets : List FacetRequest)
    (postFilters : Entries Clause) :
    EndsIn (∀ facet ∈ facets, facet.IsAccepted catalog)
      (SlipsFirst (FacetRequest.IsAccepted catalog) (FacetRequest.IsUnwritable catalog) facets)
      (lowerFacets catalog facets postFilters) :=
  (EndsIn.mapM fun facet _ => lowerFacet_endsIn catalog facet).bind_total fun _ _ => ⟨_, rfl⟩

theorem facetPart_endsIn (catalog : FieldCatalog) (query : SearchQuery)
    (postFilters : Entries Clause) :
    EndsIn (query.autocomplete = none → ∀ facet ∈ query.facets, facet.IsAccepted catalog)
      (query.HasUnwritableFacet catalog) (facetPart catalog query postFilters) := by
  unfold facetPart SearchQuery.HasUnwritableFacet
  cases query.autocomplete with
  | some request => rw [if_pos (by simp)]; exact .accepted _ (by simp) (by simp)
  | none =>
      cases hfacets : query.facets with
      | nil => exact .accepted _ (by simp) fun h => Outcome.not_slipsFirst_nil h.2
      | cons facet rest =>
          exact (lowerFacets_endsIn catalog (facet :: rest) postFilters).congr (by simp) (by simp)

end Facets

/-- Sorts that can be sent: each is by a text. -/
def SortParts.AreNamed (parts : SortParts) : Prop :=
  ∀ sort ∈ parts.sorts, sort.1.text?.isSome = true

section Sorts

variable {id : String} (hid : setting.catalog.idField = .str id)
include hid

theorem sortKey_acceptsIff (spec : SortSpec) :
    AcceptsIff (spec.IsAccepted setting.catalog) (sortKey setting.catalog spec) := by
  have hresolve := setting.catalog.resolve_acceptsIff spec.field
  unfold sortKey SortSpec.IsAccepted
  split_ifs with hrandom hscore hidField hkey hfulltext
  · exact .accepted _ (by simp [hrandom])
  · exact .accepted _ (by simp [hscore])
  · exact .accepted _ (by simp [hidField])
  · rw [hid] at hkey
    exact absurd rfl hkey
  · exact (hresolve.bind_total fun _ _ => ⟨_, rfl⟩).congr (by simp [hrandom, hscore, hidField])
  · exact (hresolve.bind_total fun _ _ => ⟨_, rfl⟩).congr (by simp [hrandom, hscore, hidField])

/-- Sorts are by the names of fields. -/
theorem text_of_sortKey {spec : SortSpec} {name : Value} {direction : SortDirection}
    (h : sortKey setting.catalog spec = .ok (.field name direction)) :
    name.text?.isSome = true := by
  unfold sortKey at h
  split_ifs at h with hrandom hscore hidField hkey hfulltext
  · cases h
  · cases h
    rfl
  · cases h
    rw [hid]
    rfl
  · obtain ⟨_, -, h⟩ := Outcome.bind_eq_ok.mp h
    cases h
    rfl
  · obtain ⟨_, -, h⟩ := Outcome.bind_eq_ok.mp h
    cases h
    rfl

theorem lowerSort_acceptsIff (hhooks : setting.hooks = {}) (parts : SortParts) (spec : SortSpec) :
    AcceptsIff (spec.IsAccepted setting.catalog) (lowerSort setting drawn query parts spec) := by
  refine (sortKey_acceptsIff hid spec).bind_total fun key _ => ?_
  cases key with
  | field name direction => exact ⟨_, rfl⟩
  | random =>
      simp only [hhooks]
      exact ⟨_, rfl⟩

theorem lowerSorts_acceptsIff (hhooks : setting.hooks = {}) (drawn : Value) (query : SearchQuery) :
    AcceptsIff
      (query.autocomplete = none → ∀ spec ∈ query.sorts, spec.IsAccepted setting.catalog)
      (lowerSorts setting drawn query) := by
  unfold lowerSorts
  cases query.autocomplete with
  | some request => exact .accepted _ nofun
  | none =>
      have hsorts : AcceptsIff (∀ spec ∈ query.sorts, spec.IsAccepted setting.catalog)
          (query.sorts.foldlM (lowerSort setting drawn query) {}) :=
        .foldlM (fun spec _ parts => lowerSort_acceptsIff hid hhooks parts spec) {}
      exact hsorts.congr (by simp)

theorem areNamed_of_lowerSort {parts result : SortParts} {spec : SortSpec} (hparts : parts.AreNamed)
    (h : lowerSort setting drawn query parts spec = .ok result) : result.AreNamed := by
  obtain ⟨key, hkey, h⟩ := Outcome.bind_eq_ok.mp h
  cases key with
  | random =>
      obtain ⟨seed, -, h⟩ := Outcome.bind_eq_ok.mp h
      obtain rfl := Outcome.pure_eq_ok.mp h
      exact hparts
  | field name direction =>
      obtain rfl := Outcome.pure_eq_ok.mp h
      intro sort hsort
      rcases List.mem_append.mp hsort with hold | hnew
      · exact hparts sort hold
      · rw [List.mem_singleton.mp hnew]
        exact text_of_sortKey hid hkey

theorem areNamed_of_foldlM {sorts : List SortSpec} {start result : SortParts}
    (hstart : start.AreNamed)
    (h : sorts.foldlM (lowerSort setting drawn query) start = .ok result) : result.AreNamed := by
  induction sorts generalizing start with
  | nil =>
      cases h
      exact hstart
  | cons spec rest ih =>
      rw [List.foldlM_cons] at h
      obtain ⟨next, hnext, h⟩ := Outcome.bind_eq_ok.mp h
      exact ih (areNamed_of_lowerSort hid hstart hnext) h

theorem areNamed_of_lowerSorts {parts : SortParts}
    (h : lowerSorts setting drawn query = .ok parts) : parts.AreNamed := by
  unfold lowerSorts at h
  split at h
  · cases h
    simp [SortParts.AreNamed, Value.text?]
  · exact areNamed_of_foldlM hid (by simp [SortParts.AreNamed]) h

end Sorts

theorem renderSorts_total {sorts : List (Value × SortDirection)}
    (h : ∀ sort ∈ sorts, sort.1.text?.isSome = true) :
    ∃ rendered, sorts.mapM renderSort? = some rendered := by
  induction sorts with
  | nil => exact ⟨[], rfl⟩
  | cons sort rest ih =>
      obtain ⟨hsort, hrest⟩ := List.forall_mem_cons.mp h
      obtain ⟨name, hname⟩ := Option.isSome_iff_exists.mp hsort
      obtain ⟨others, hothers⟩ := ih hrest
      refine ⟨.object [(name, .str sort.2.word)] :: others, ?_⟩
      rw [List.mapM_cons, hothers, renderSort?, hname]
      rfl

section Parts

theorem languageFilter_total (catalog : FieldCatalog) (query : SearchQuery) :
    ∃ clauses, languageFilter catalog query = .ok clauses := by
  unfold languageFilter
  cases query.languages with
  | none => exact ⟨_, rfl⟩
  | some languages =>
      have hsuits : Operator.isIn.Suits (.list (languages.map .str)) := ⟨nofun, nofun⟩
      have hwellFormed : (languageCondition catalog languages).IsWellFormed :=
        ⟨.isIn, Operator.ofWord?_word .isIn, hsuits⟩
      obtain ⟨clause, hclause⟩ :=
        (conditionClause_acceptsIff catalog _).exists_ok_iff.mpr hwellFormed
      exact ⟨[clause], by simp only [hclause]; rfl⟩

theorem similarIds_total (htexts : setting.IsTextual) (request : MoreLikeThisRequest)
    (languages : Option (List String)) :
    ∃ ids, similarIds setting.catalog request languages = .ok ids := by
  obtain ⟨current, hcurrent⟩ := htexts.currentLanguage
  obtain ⟨default, hdefault⟩ := htexts.defaultLanguage
  have hkeys : (similarLanguages setting.catalog languages).all Value.isKey = true := by
    refine (similarLanguages_all_isKey_iff _ _).mpr fun _ => ?_
    rw [hcurrent, hdefault]
    exact ⟨rfl, rfl⟩
  refine ⟨_, (similarIds_eq _ _ _).trans (if_neg ?_)⟩
  rw [hkeys]
  simp

theorem similarPart_total (htexts : setting.IsTextual) (query : SearchQuery) :
    ∃ clauses, similarPart setting query = .ok clauses := by
  unfold similarPart
  cases query.moreLikeThis with
  | none => exact ⟨_, rfl⟩
  | some request =>
      obtain ⟨ids, hids⟩ := similarIds_total htexts request query.languages
      simp only [similarClause, hids]
      exact ⟨_, rfl⟩

/-- Suggestions are taken from a field with a name, or there are none. -/
theorem spellingSuggester_endsIn (hhooks : setting.hooks = {}) (originalKeys : Option String) :
    EndsIn (setting.CanCorrect originalKeys) (¬setting.CanCorrect originalKeys)
      (spellingSuggester setting originalKeys) := by
  have hfield : setting.hooks.alterSuggestionField setting.suggestionField =
      setting.suggestionField := by rw [hhooks]; rfl
  simp only [spellingSuggester, hfield, Setting.CanCorrect]
  split_ifs with hblank
  · exact .accepted _ (by simp [hblank]) (by simp [hblank])
  · cases setting.suggestionField with
    | str field =>
        dsimp only
        split_ifs
        · exact .accepted _ (by simp [Value.text?]) (by simp [Value.text?])
        · exact .accepted _ (by simp [Value.text?]) (by simp [Value.text?])
    | _ =>
        dsimp only
        split_ifs with htruthy
        · exact .slipped rfl (by simp [hblank, htruthy, Value.text?])
            (by simp [hblank, htruthy, Value.text?])
        · exact .accepted _ (by simp [htruthy]) (by simp [htruthy])

theorem suggestionParts_endsIn (hhooks : setting.hooks = {}) (query : SearchQuery) :
    EndsIn (setting.CanSuggest query) (¬setting.CanSuggest query)
      (suggestionParts setting query) := by
  unfold suggestionParts Setting.CanSuggest
  cases query.autocomplete with
  | none =>
      have hsuggester := spellingSuggester_endsIn hhooks query.originalKeys
      exact (hsuggester.bind_total fun _ _ => ⟨_, rfl⟩).congr (by simp) (by simp)
  | some request =>
      simp only
      split_ifs
      · exact .accepted _ nofun (by simp)
      · exact .accepted _ nofun (by simp)

theorem fulltextPart_acceptsIff (setting : Setting) (query : SearchQuery) :
    AcceptsIff (query.KnowsFields setting.catalog) (fulltextPart setting query) := by
  unfold fulltextPart SearchQuery.KnowsFields
  cases query.autocomplete with
  | some request => exact .accepted _ nofun
  | none =>
      refine (lowerKeys_acceptsIff setting.catalog setting.fuzziness query.parseMode
        query.fulltextFields (query.keys.map QueryKeys.normalized)).congr ?_
      simp

end Parts

/-- A query has all of its parts exactly when it is accepted and suggestions can be taken. -/
theorem compileQuery_endsIn (hhooks : setting.hooks = {}) (htexts : setting.IsTextual)
    (drawn : Value) (query : SearchQuery) :
    EndsIn (query.IsAccepted setting.catalog ∧ setting.CanSuggest query) (setting.BreaksOn query)
      (compileQuery setting drawn query) := by
  obtain ⟨id, hid⟩ := htexts.idField
  have hfilter := EndsIn.of_acceptsIff (lowerConditions_acceptsIff setting.catalog query.conditions)
  have hfulltext := EndsIn.of_acceptsIff (fulltextPart_acceptsIff setting query)
  have hsuggestion := suggestionParts_endsIn hhooks query
  have hfacets := facetPart_endsIn setting.catalog query
  have hsorts := EndsIn.of_acceptsIff (lowerSorts_acceptsIff hid hhooks drawn query)
  -- The other two parts never fail, and only the facets need what comes before them.
  obtain ⟨language, hlanguage⟩ := languageFilter_total setting.catalog query
  obtain ⟨similar, hsimilar⟩ := similarPart_total htexts query
  have hparts := hfilter.bind fun filter _ =>
    hfulltext.bind fun fulltext _ =>
      hsuggestion.bind fun suggestion _ =>
        (hfacets filter.postFilters).bind fun facets _ =>
          hsorts.bind_total fun sorts _ => ⟨QueryParts.assemble query
            ⟨filter, language, fulltext, similar, suggestion, facets, sorts⟩, rfl⟩
  simp only [compileQuery, hlanguage, hsimilar, Outcome.bind_ok]
  refine hparts.congr ?_ ?_
  · rw [SearchQuery.isAccepted_iff]
    constructor
    · rintro ⟨hconditions, hkeys, hsuggest, hfacets, hsorts⟩
      exact ⟨⟨hconditions, hkeys, hfacets, hsorts⟩, hsuggest⟩
    · rintro ⟨⟨hconditions, hkeys, hfacets, hsorts⟩, hsuggest⟩
      exact ⟨hconditions, hkeys, hsuggest, hfacets, hsorts⟩
  · have hlast : (¬setting.CanSuggest query ∨
        setting.CanSuggest query ∧ query.HasUnwritableFacet setting.catalog) ↔
          (setting.CanSuggest query → query.HasUnwritableFacet setting.catalog) := by
      by_cases hsuggest : setting.CanSuggest query <;> simp [hsuggest]
    rw [Setting.breaksOn_iff, ← hlast]
    simp only [false_or, and_false, or_false]

theorem toRequest_total (htexts : setting.IsTextual) {compiled : CompiledQuery}
    (h : compileQuery setting drawn query = .ok compiled) :
    ∃ request, compiled.toRequest = .ok request := by
  obtain ⟨id, hid⟩ := htexts.idField
  obtain ⟨parts, hparts, rfl⟩ := compileQuery_eq_ok_iff.mp h
  obtain ⟨sorts, hsorts⟩ := renderSorts_total (areNamed_of_lowerSorts hid hparts.sorts)
  exact ⟨_, toRequest_eq_ok_iff.mpr ⟨sorts, hsorts, rfl⟩⟩

theorem compile_endsIn (hhooks : setting.hooks = {}) (htexts : setting.IsTextual) (drawn : Value)
    (query : SearchQuery) :
    EndsIn (query.IsAccepted setting.catalog ∧ setting.CanSuggest query) (setting.BreaksOn query)
      (compile setting drawn query) := by
  refine (compileQuery_endsIn hhooks htexts drawn query).bind_total fun compiled h => ?_
  obtain ⟨request, hrequest⟩ := toRequest_total htexts h
  exact ⟨setting.hooks.alterRequest request, by rw [hrequest]; rfl⟩

/-- A query compiles exactly when it is accepted and suggestions can be taken from what is set up.
Else the request is at fault, but for the queries that the setting breaks on. -/
theorem compile_acceptsIff (hhooks : setting.hooks = {}) (htexts : setting.IsTextual)
    (drawn : Value) (query : SearchQuery) :
    ((∃ request, compile setting drawn query = .ok request) ↔
        query.IsAccepted setting.catalog ∧ setting.CanSuggest query) ∧
      ((∃ fault, compile setting drawn query = .error fault ∧ fault.isBadRequest = false) ↔
        setting.BreaksOn query) := by
  have hends := compile_endsIn hhooks htexts drawn query
  exact ⟨hends.exists_ok_iff, hends.exists_error_iff⟩

/-- A shop that counts prices and sizes. -/
def shopSetting : Setting where
  collection := .str "goods"
  catalog := { goodsCatalog with
    entries := goodsCatalog.entries ++
      [("price", { id := "price", type := .decimal }),
        ("title", { id := "title", type := .text })] }
  suggestionField := .str "title"

/-- The value of the selection on offers is missing, which the facet of offers is not asked for. -/
def shopQuery : SearchQuery where
  conditions :=
    { members :=
        [.condition { field := "price", op := "BETWEEN", value := .list [.int 10, .str "20"] },
          .group .or [.condition { field := "offers.price", op := ">" }] ["facet:offers.price"]] }
  keys := some (.text "shoe")
  originalKeys := some "shoo"
  fulltextFields := some ["title"]
  languages := some ["en"]
  sorts := [{ field := "$id" }, { field := "price" }, { field := "$random" }]
  facets :=
    [{ id := "size", field := "size", operator := .or },
      { id := "price", field := "price", kind := .granular, granularity := .str "10" }]

theorem shopSetting_isTextual : shopSetting.IsTextual where
  idField := ⟨"id", rfl⟩
  currentLanguage := ⟨"en", rfl⟩
  defaultLanguage := ⟨"und", rfl⟩

theorem shopQuery_compiles :
    shopSetting.hooks = {} ∧ shopSetting.IsTextual ∧
      (∃ request, compile shopSetting .null shopQuery = .ok request) ∧
        ¬shopSetting.BreaksOn shopQuery := by
  obtain ⟨hcompiles, hbreaks⟩ := compile_acceptsIff rfl shopSetting_isTextual .null shopQuery
  obtain ⟨request, hrequest⟩ := hcompiles.mpr (by decide +kernel)
  refine ⟨rfl, shopSetting_isTextual, ⟨request, hrequest⟩, fun h => ?_⟩
  obtain ⟨fault, hfault, -⟩ := hbreaks.mpr h
  cases hrequest.symm.trans hfault

/-- Suggestions for articles alone, by collection. -/
def articleSuggestions : Value := .object [("articles", .str "headline")]

def typedKeys : SearchQuery where
  originalKeys := some "shoo"

/-- Prices counted downwards, in steps of one digit more than can be written. -/
def longSteps : SearchQuery where
  facets :=
    [{ id := "price", field := "price", kind := .granular,
       granularity := .int (-10 ^ Numeral.digitLimit) }]

theorem shopSetting_breaksOn_longSteps : shopSetting.BreaksOn longSteps where
  conditions := by decide +kernel
  fulltextFields := nofun
  facets := fun _ => by
    have hnegative : (-10 ^ Numeral.digitLimit : Int) ≤ 0 :=
      Int.neg_nonpos_of_nonneg (Int.pow_nonneg (by decide))
    have hlong : Granularity.IsUnwritable (.int (-10 ^ Numeral.digitLimit)) :=
      Granularity.isUnwritable_int_iff.mpr ⟨hnegative, by simp [Int.natAbs_pow]⟩
    exact ⟨rfl, [], _, [], rfl, List.forall_mem_nil _, ⟨by decide +kernel, rfl, nofun, hlong⟩⟩

/-- A collection that suggestions are not set up for is left with the suggestions of all others, and
cannot take any from them. A step that is too long to be written is not refused for being below
zero. -/
theorem shop_breaks :
    (∃ field fault, collectionParameter articleSuggestions shopSetting.collection = .ok field ∧
      typedKeys.IsAccepted shopSetting.catalog ∧
      compile { shopSetting with suggestionField := field } .null typedKeys = .error fault ∧
      fault.isBadRequest = false) ∧
      ∃ fault, compile shopSetting .null longSteps = .error fault ∧ fault.isBadRequest = false :=
  ⟨⟨_, _, rfl, by decide +kernel, rfl, rfl⟩,
    (compile_endsIn rfl shopSetting_isTextual .null longSteps).exists_error_iff.mpr
      shopSetting_breaksOn_longSteps⟩

end Lowering

end FacetedSearch
