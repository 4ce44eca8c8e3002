import FacetedSearch.Proofs.Deselection
import FacetedSearch.Proofs.FacetLowering

/-!
Alternative facets are counted as if nothing were selected in them. The documents that such a facet
counts are those that the same query returns without the selection of the facet, and the requests of
both queries say so in the same words.
-/

namespace FacetedSearch.Lowering

variable {setting : Setting} {drawn : Value} {query : SearchQuery} {catalog : FieldCatalog}
  {key : String}

/-- A facet without its selected values, if it is the one of the key. -/
def deselectFacet (key : String) (facet : FacetRequest) : FacetRequest :=
  if facet.id = key then unselectedFacet facet else facet

/-- A query without the selection of a facet. -/
def deselectQuery (catalog : FieldCatalog) (key : String) (query : SearchQuery) : SearchQuery :=
  { query with
    conditions := deselectGroup catalog key query.conditions
    facets := query.facets.map (deselectFacet key) }

def FacetPart.deselect (key : String) (part : FacetPart) : FacetPart :=
  if part.facet.id = key then part.unselected else part

theorem lowerFacet_deselect {facet : FacetRequest} {part : FacetPart}
    (h : lowerFacet catalog facet = .ok part) :
    lowerFacet catalog (deselectFacet key facet) = .ok (part.deselect key) := by
  obtain ⟨hfacet, hunselected⟩ := lowerFacet_spec h
  unfold deselectFacet FacetPart.deselect
  rw [hfacet]
  split_ifs
  · exact hunselected
  · exact h

theorem lowered_deselect {facets : List FacetRequest} {parts : List FacetPart}
    (h : List.Forall₂ (fun facet part => lowerFacet catalog facet = .ok part) facets parts) :
    List.Forall₂ (fun facet part => lowerFacet catalog facet = .ok part)
      (facets.map (deselectFacet key)) (parts.map (FacetPart.deselect key)) := by
  induction h with
  | nil => exact .nil
  | cons hpart _ ih => exact .cons (lowerFacet_deselect hpart) ih

/-- The selection of a facet goes, those of the others stay. -/
theorem alternativeSelections_deselect (parts : List FacetPart) :
    alternativeSelections (parts.map (FacetPart.deselect key)) =
      Entries.erase (alternativeSelections parts) key := by
  unfold alternativeSelections Entries.erase
  induction parts with
  | nil => rfl
  | cons part rest ih =>
      rw [List.map_cons, List.filterMap_cons, List.filterMap_cons, ih]
      unfold FacetPart.deselect
      by_cases hkey : part.facet.id = key
      · by_cases hor : part.facet.operator = .or
        · cases part.selection with
          | none => simp [hkey, hor, FacetPart.unselected, unselectedFacet]
          | some clause => simp [hkey, hor, FacetPart.unselected, unselectedFacet]
        · simp [hkey, hor, FacetPart.unselected, unselectedFacet]
      · by_cases hor : part.facet.operator = .or
        · cases hselection : part.selection with
          | none => simp [hkey, hor, hselection]
          | some clause => simp [hkey, hor, hselection]
        · simp [hkey, hor]

/-- Selections of alternative facets are not in the root query. -/
theorem rootSelections_deselect {parts : List FacetPart}
    (hor : ∀ part ∈ parts, part.facet.id = key → part.facet.operator = .or) :
    rootSelections (parts.map (FacetPart.deselect key)) = rootSelections parts := by
  unfold rootSelections
  induction parts with
  | nil => rfl
  | cons part rest ih =>
      obtain ⟨hpart, hrest⟩ := List.forall_mem_cons.mp hor
      rw [List.map_cons, List.filterMap_cons, List.filterMap_cons, ih hrest]
      unfold FacetPart.deselect
      by_cases hkey : part.facet.id = key
      · simp [hkey, hpart hkey, FacetPart.unselected, unselectedFacet]
      · simp [hkey]

theorem lowerFacets_deselect {facets : List FacetRequest} {postFilters : Entries Clause}
    {result : FacetParts} (hor : ∀ facet ∈ facets, facet.id = key → facet.operator = .or)
    (h : lowerFacets catalog facets postFilters = .ok result) :
    ∃ deselected,
      lowerFacets catalog (facets.map (deselectFacet key)) (postFilters.erase key) =
          .ok deselected ∧
        deselected.postFilters = result.postFilters.erase key ∧
        deselected.rootFilters = result.rootFilters := by
  obtain ⟨parts, hparts, rfl⟩ := lowerFacets_eq_ok_iff.mp h
  have hroot : ∀ part ∈ parts, part.facet.id = key → part.facet.operator = .or := by
    intro part hpart
    exact hor part.facet (map_facet_of_lowered hparts ▸ List.mem_map_of_mem hpart)
  refine ⟨_, lowerFacets_eq_ok_iff.mpr ⟨_, lowered_deselect hparts, rfl⟩, ?_, ?_⟩
  · rw [Entries.erase_putAll, ← alternativeSelections_deselect]
  · exact rootSelections_deselect hroot

theorem find?_renderAll (aggs : List (String × Aggregation)) (name : String) :
    Entries.find? (Aggregation.renderAll aggs) name =
      (Entries.find? aggs name).map Aggregation.render := by
  induction aggs with
  | nil => rfl
  | cons entry rest ih =>
      obtain ⟨other, agg⟩ := entry
      rw [Aggregation.renderAll, Entries.find?_cons, Entries.find?_cons, ih]
      split_ifs <;> rfl

/-- The filter of a named aggregation where a request has it. -/
theorem path_filter_of_find? {aggs inner : List (String × Aggregation)} {name : String}
    {clause : Clause} (h : Entries.find? aggs name = some (.filter clause inner)) :
    (Value.object (Aggregation.renderAll aggs)).path [name, "filter"] = clause.render := by
  rw [Value.path, Value.member, find?_renderAll, h]
  simp [Aggregation.render, Aggregation.holding, Value.path, Value.member, Entries.find?_cons]

theorem render_allOf_ne_null (clauses : List Clause) : (Clause.allOf clauses).render ≠ .null := by
  simp [Clause.allOf, Clause.render, ClauseShape.bool]

/-- The post filter of a query in its request, the empty conjunction where it has none. -/
theorem postFilter_or_empty (compiled : CompiledQuery) :
    (if Value.nullable Clause.render compiled.postFilter? = .null then (Clause.allOf []).render
      else Value.nullable Clause.render compiled.postFilter?) =
      (Clause.allOf compiled.postFilters.values).render := by
  unfold CompiledQuery.postFilter?
  cases hempty : compiled.postFilters.isEmpty with
  | true =>
      rw [List.isEmpty_iff.mp hempty]
      rfl
  | false =>
      rw [if_neg Bool.false_ne_true, Value.nullable, if_neg (render_allOf_ne_null _)]

/-- A document is returned where it matches the root query and the post filter. -/
def CompiledQuery.Returns (truth : Truth) (compiled : CompiledQuery) : Prop :=
  compiled.root.Holds truth ∧ ∀ clause ∈ compiled.postFilter?, clause.Holds truth

/-- A document is counted in a facet where it matches the root query and the filter around the
aggregation of the facet. -/
def CompiledQuery.Counts (truth : Truth) (compiled : CompiledQuery) (id : String) : Prop :=
  compiled.root.Holds truth ∧ ∃ clause inner,
    compiled.aggregations.find? id = some (.filter clause inner) ∧ clause.Holds truth

theorem returns_iff {truth : Truth} {compiled : CompiledQuery} :
    compiled.Returns truth ↔
      compiled.root.Holds truth ∧ (Clause.allOf compiled.postFilters.values).Holds truth := by
  unfold CompiledQuery.Returns CompiledQuery.postFilter?
  cases hempty : compiled.postFilters.isEmpty with
  | true => simp [List.isEmpty_iff.mp hempty, Entries.values, Clause.holds_allOf]
  | false => simp

theorem counts_iff {truth : Truth} {compiled : CompiledQuery} {id : String} {clause : Clause}
    {inner : List (String × Aggregation)}
    (h : compiled.aggregations.find? id = some (.filter clause inner)) :
    compiled.Counts truth id ↔ compiled.root.Holds truth ∧ clause.Holds truth := by
  simp [CompiledQuery.Counts, h]

/-- The aggregation of an alternative facet counts under the post filters of all others. -/
theorem find?_assembled_aggregations {parts : QueryParts} {facet : FacetRequest}
    (hautocomplete : query.autocomplete = none) (hids : (query.facets.map (·.id)).Nodup)
    (hfacet : facet ∈ query.facets) (hor : facet.operator = .or)
    (h : QueryParts.AreOf setting drawn query parts) :
    ∃ inner, (parts.assemble query).aggregations.find? facet.id =
      some (.filter (.allOf (parts.facets.postFilters.erase facet.id).values) inner) := by
  have hfacets := facetPart_eq_lowerFacets hautocomplete _ _ ▸ h.facets
  obtain ⟨part, -, hfind⟩ := find?_aggregations hids hfacets hfacet
  have hassembled : (parts.assemble query).aggregations = parts.facets.aggregations := by
    have hnone := (suggestionParts_of_no_autocomplete hautocomplete h.suggestion).2
    rw [QueryParts.assemble, hnone]
    apply Entries.ofList_of_nodup
    rwa [names_aggregations hids hfacets]
  refine ⟨part.aggregations, ?_⟩
  rw [hassembled, hfind, countedDocuments, hor]

/-- The parts of a query without the selection of a facet: the post filter of the facet is missing,
and the root query and the order are the same. -/
theorem parts_deselect {parts : QueryParts} {facet : FacetRequest} (hhooks : setting.hooks = {})
    (hautocomplete : query.autocomplete = none) (hseed : DrawsNoSeed query)
    (hids : (query.facets.map (·.id)).Nodup) (hfacet : facet ∈ query.facets)
    (hor : facet.operator = .or) (h : QueryParts.AreOf setting drawn query parts)
    (drawn' : Value) :
    ∃ parts', QueryParts.AreOf setting drawn' (deselectQuery setting.catalog facet.id query) parts' ∧
      parts'.root = parts.root ∧ parts'.sorts = parts.sorts ∧
      parts'.facets.postFilters = parts.facets.postFilters.erase facet.id := by
  have hfacets := facetPart_eq_lowerFacets hautocomplete _ _ ▸ h.facets
  have hsame : ∀ other ∈ query.facets, other.id = facet.id → other.operator = .or := by
    intro other hother hid
    rw [List.inj_on_of_nodup_map hids hother hfacet hid]
    exact hor
  obtain ⟨deselected, hdeselected, hpost, hroot⟩ := lowerFacets_deselect hsame hfacets
  have hsorts : lowerSorts setting drawn' (deselectQuery setting.catalog facet.id query) =
      lowerSorts setting drawn query := (lowerSorts_drawn hhooks hseed drawn').symm
  refine ⟨{ parts with
      filter := { parts.filter with postFilters := parts.filter.postFilters.erase facet.id }
      facets := deselected }, ?_, ?_, rfl, hpost⟩
  · exact
      { filter := lowerConditions_deselect h.filter
        language := h.language
        fulltext := h.fulltext
        similar := h.similar
        suggestion := h.suggestion
        facets := by
          have hdeselect : (deselectQuery setting.catalog facet.id query).autocomplete = none :=
            hautocomplete
          rw [facetPart_eq_lowerFacets hdeselect]
          exact hdeselected
        sorts := hsorts ▸ h.sorts }
  · simp only [QueryParts.root, hroot]

theorem aggs_of_toRequest {compiled : CompiledQuery} {request : SearchRequest}
    (h : compiled.toRequest = .ok request) :
    request.aggs = .object (Aggregation.renderAll compiled.aggregations) := by
  obtain ⟨_, -, rfl⟩ := toRequest_eq_ok_iff.mp h
  rfl

/-- A compiled query with the root and the order of another one has a request where the other has
one, and it asks for the same documents before its post filter. -/
theorem toRequest_of_same_root {compiled other : CompiledQuery} {request : SearchRequest}
    (hroot : other.root = compiled.root) (hseed : other.seed = compiled.seed)
    (hsorts : other.sorts = compiled.sorts) (h : compiled.toRequest = .ok request) :
    ∃ request', other.toRequest = .ok request' ∧ request'.query = request.query ∧
      request'.postFilter = Value.nullable Clause.render other.postFilter? := by
  obtain ⟨sorts, hrendered, rfl⟩ := toRequest_eq_ok_iff.mp h
  refine ⟨_, toRequest_eq_ok_iff.mpr ⟨sorts, hsorts ▸ hrendered, rfl⟩, ?_, rfl⟩
  simp only [CompiledQuery.renderRoot, hseed, hroot]

/-- The documents that an alternative facet counts are those that the query returns without the
selection of that facet: without it the query compiles, its root query stays, and its post filter is
what the facet is counted under. -/
theorem facet_counts_without_own_selection {request : SearchRequest} {facet : FacetRequest}
    (hhooks : setting.hooks = {}) (hautocomplete : query.autocomplete = none)
    (hseed : DrawsNoSeed query) (hids : (query.facets.map (·.id)).Nodup)
    (hfacet : facet ∈ query.facets) (hor : facet.operator = .or)
    (h : compile setting drawn query = .ok request) (drawn' : Value) :
    (∃ request',
      compile setting drawn' (deselectQuery setting.catalog facet.id query) = .ok request' ∧
      request'.query = request.query ∧
      request.aggs.path [facet.id, "filter"] =
        if request'.postFilter = .null then (Clause.allOf []).render else request'.postFilter) ∧
    ∃ compiled compiled', compileQuery setting drawn query = .ok compiled ∧
      compileQuery setting drawn' (deselectQuery setting.catalog facet.id query) = .ok compiled' ∧
      compiled'.root = compiled.root ∧
      ∀ truth, compiled.Counts truth facet.id ↔ compiled'.Returns truth := by
  obtain ⟨parts, hparts, hrequest⟩ := (compile_eq_ok_iff hhooks).mp h
  obtain ⟨parts', hparts', hroot, hsorts, hpost⟩ :=
    parts_deselect hhooks hautocomplete hseed hids hfacet hor hparts drawn'
  obtain ⟨inner, hfind⟩ := find?_assembled_aggregations hautocomplete hids hfacet hor hparts
  let compiled := parts.assemble query
  let compiled' := parts'.assemble (deselectQuery setting.catalog facet.id query)
  have hcompiledRoot : compiled'.root = compiled.root := hroot
  have hcompiledPost : compiled'.postFilters = compiled.postFilters.erase facet.id := hpost
  constructor
  · obtain ⟨request', hrequest', hquery, hpostFilter⟩ :=
      toRequest_of_same_root hcompiledRoot (congrArg SortParts.seed hsorts)
        (congrArg SortParts.sorts hsorts) hrequest
    refine ⟨request', (compile_eq_ok_iff hhooks).mpr ⟨parts', hparts', hrequest'⟩, hquery, ?_⟩
    rw [aggs_of_toRequest hrequest, path_filter_of_find? hfind, hpostFilter, postFilter_or_empty,
      hcompiledPost]
    rfl
  · refine ⟨compiled, compiled', compileQuery_eq_ok_iff.mpr ⟨parts, hparts, rfl⟩,
      compileQuery_eq_ok_iff.mpr ⟨parts', hparts', rfl⟩, hcompiledRoot, ?_⟩
    intro truth
    rw [counts_iff hfind, returns_iff, hcompiledRoot, hcompiledPost]
    rfl

def goodsSetting : Setting where
  collection := .str "goods"
  catalog := goodsCatalog

def colorFacet : FacetRequest where
  id := "color"
  field := "color"
  operator := .or

/-- Selections of colors, of a size and of offers, in a random order with a given seed. -/
def goodsQuery : SearchQuery where
  conditions := goodsConditions
  sorts := [{ field := "$random" }]
  randomSeed := some 7
  facets :=
    [colorFacet,
      { id := "sizes", field := "size", operator := .or },
      { id := "offers", field := "offers.price", kind := .nested, operator := .or
        activeValues := [.int 5]
        nested := some { groupField := "offers.kind", groupValue := .str "new" } }]

theorem colorFacet_counts_without_own_selection :
    goodsSetting.hooks = {} ∧ goodsQuery.autocomplete = none ∧ DrawsNoSeed goodsQuery ∧
      (goodsQuery.facets.map (·.id)).Nodup ∧ colorFacet ∈ goodsQuery.facets ∧
      colorFacet.operator = .or ∧
      ∃ request, compile goodsSetting .null goodsQuery = .ok request ∧
        (∃ request',
          compile goodsSetting .null (deselectQuery goodsCatalog "color" goodsQuery) =
              .ok request' ∧
            request'.query = request.query ∧
            request.aggs.path ["color", "filter"] =
              if request'.postFilter = .null then (Clause.allOf []).render
              else request'.postFilter) ∧
        ∃ compiled compiled', compileQuery goodsSetting .null goodsQuery = .ok compiled ∧
          compileQuery goodsSetting .null (deselectQuery goodsCatalog "color" goodsQuery) =
              .ok compiled' ∧
            compiled'.root = compiled.root ∧
            ∀ truth, compiled.Counts truth "color" ↔ compiled'.Returns truth := by
  have hseed : DrawsNoSeed goodsQuery := .inr ⟨7, rfl, by decide⟩
  have hids : (goodsQuery.facets.map (·.id)).Nodup := by decide
  have hfacet : colorFacet ∈ goodsQuery.facets := .head _
  obtain ⟨request, hrequest⟩ : ∃ request, compile goodsSetting .null goodsQuery = .ok request :=
    ⟨_, rfl⟩
  exact ⟨rfl, rfl, hseed, hids, hfacet, rfl, request, hrequest,
    facet_counts_without_own_selection rfl rfl hseed hids hfacet rfl hrequest .null⟩

end FacetedSearch.Lowering
