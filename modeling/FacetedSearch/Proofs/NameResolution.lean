import FacetedSearch.Proofs.Collect
import FacetedSearch.Proofs.Compile
import FacetedSearch.Proofs.ConditionLowering
import FacetedSearch.Proofs.FacetLowering
import FacetedSearch.Proofs.FieldNames

/-!
Which names a compiled query writes. Every name is written for a use and for an id that the setting
or the query requests for that use, in the way of the use and so without separators. The excluded
fields and the field of ids are written as they are given instead.
-/

namespace FacetedSearch.Lowering

open FieldPath (IsResolved dotted root)
open ConditionTree

/-- The ids that a setting and a query request names of, for each use. -/
inductive Requests (setting : Setting) (query : SearchQuery) : NameUse → String → Prop
  | condition {c : Condition} (h : c ∈ (ConditionTree.ofGroup query.conditions).conditions)
      {use : NameUse} (huse : use = .filtered ∨ use = .nested) :
      Requests setting query use c.field
  | language (h : query.languages.isSome = true) {use : NameUse}
      (huse : use = .filtered ∨ use = .nested) :
      Requests setting query use setting.catalog.languageField
  | key {field : SearchField} (h : field ∈ setting.catalog.fulltextFields)
      (hids : ∀ ids ∈ query.fulltextFields, field.id ∈ ids) :
      Requests setting query .searched field.id
  | similar {request : MoreLikeThisRequest} (h : query.moreLikeThis = some request) {id : String}
      (hid : id ∈ request.fields) : Requests setting query .similar id
  | completion {request : AutocompleteRequest} (h : query.autocomplete = some request)
      {use : NameUse} (huse : use = .typed ∨ use = .suggested ∨ use = .counted) :
      Requests setting query use request.field
  | spelling {id : String} (h : setting.suggestionField = .str id) :
      Requests setting query .suggested id
  | facet {facet : FacetRequest} (h : facet ∈ query.facets) {use : NameUse}
      (huse : use = .filtered ∨ use = .nested ∨ use = .counted ∨ use = .shown) :
      Requests setting query use facet.field
  | facetObjects {facet : FacetRequest} (h : facet ∈ query.facets) {options : NestedFacetOptions}
      (hoptions : facet.nested = some options) {path : String} (hpath : options.path = some path)
      {use : NameUse} (huse : use = .nested ∨ use = .shown) : Requests setting query use path
  | facetGroup {facet : FacetRequest} (h : facet ∈ query.facets) {options : NestedFacetOptions}
      (hoptions : facet.nested = some options) :
      Requests setting query .filtered options.groupField
  | sort {spec : SortSpec} (h : spec ∈ query.sorts) : Requests setting query .sorted spec.field
  /-- Scores and chance have fields of their own. -/
  | special {id : String} (h : id = scoreField ∨ id = sequenceField) :
      Requests setting query .sorted id
  | identifier {spec : SortSpec} (h : spec ∈ query.sorts) (hspec : spec.field = "$id")
      {id : String} (hid : setting.catalog.idField = .str id) : Requests setting query .sorted id
  | hidden {id : String} (h : id ∈ query.excludeSourceFields) : Requests setting query .hidden id

variable {p : NameUse → String → Prop} {catalog : FieldCatalog}

section Conditions

theorem namesOnly_betweenClause {id field : String} {value : Value} {clause : Clause}
    (hfield : p .filtered field) (h : betweenClause id field value = .ok clause) :
    clause.NamesOnly p := by
  unfold betweenClause at h
  split at h
  · cases h
    exact hfield
  · cases h

theorem namesOnly_comparisonClause {id field : String} {operator : Operator} {value : Value}
    {clause : Clause} (hfield : p .filtered field)
    (h : comparisonClause id field operator value = .ok clause) : clause.NamesOnly p := by
  cases operator with
  | between => exact namesOnly_betweenClause hfield h
  | notBetween =>
      obtain ⟨between, hbetween, h⟩ := Outcome.bind_eq_ok.mp h
      obtain rfl := Outcome.pure_eq_ok.mp h
      exact Clause.namesOnly_negate.mpr (namesOnly_betweenClause hfield hbetween)
  | notEqual | notIn =>
      cases h
      exact Clause.namesOnly_negate.mpr hfield
  | _ =>
      cases h
      exact hfield

theorem namesOnly_presenceClause {id field : String} {operator : Operator} {clause : Clause}
    (hfield : p .filtered field) (h : presenceClause id field operator = .ok clause) :
    clause.NamesOnly p := by
  cases operator with
  | equal =>
      cases h
      exact Clause.namesOnly_negate.mpr hfield
  | notEqual =>
      cases h
      exact hfield
  | _ => cases h

theorem namesOnly_flatClause {c : Condition} {clause : Clause}
    (hfield : p .filtered (dotted c.field)) (h : flatClause catalog c = .ok clause) :
    clause.NamesOnly p := by
  obtain ⟨value, -, h⟩ := Outcome.bind_eq_ok.mp h
  cases hoperator : c.operator? with
  | none =>
      rw [hoperator] at h
      cases h
  | some operator =>
      rw [hoperator] at h
      dsimp only at h
      split_ifs at h
      · exact namesOnly_presenceClause hfield h
      · exact namesOnly_comparisonClause hfield h

/-- A condition names its field and, in nested objects, the root of its path. -/
theorem namesOnly_conditionClause {c : Condition} {clause : Clause}
    (hfield : p .filtered (dotted c.field)) (hobjects : p .nested (root c.field))
    (h : conditionClause catalog c = .ok clause) : clause.NamesOnly p := by
  obtain ⟨flat, hflat, h⟩ := Outcome.bind_eq_ok.mp h
  have hnames := namesOnly_flatClause hfield hflat
  split_ifs at h
  · cases h
    exact ⟨hobjects, hnames⟩
  · cases h
    exact hnames

/-- All field names in a contribution are as asked. -/
structure Contribution.NamesOnly (p : NameUse → String → Prop) (contribution : Contribution) :
    Prop where
  clauses : ∀ clause ∈ contribution.clauses, clause.NamesOnly p
  diverted : ∀ entry ∈ contribution.diverted, entry.2.NamesOnly p

theorem Contribution.NamesOnly.append {first second : Contribution} (hfirst : first.NamesOnly p)
    (hsecond : second.NamesOnly p) : (first.append second).NamesOnly p where
  clauses := List.forall_mem_append.mpr ⟨hfirst.clauses, hsecond.clauses⟩
  diverted := List.forall_mem_append.mpr ⟨hfirst.diverted, hsecond.diverted⟩

@[simp] theorem namesOnly_groupQuery {conjunction : Conjunction} {clauses : List Clause} :
    (groupQuery conjunction clauses).NamesOnly p ↔ ∀ clause ∈ clauses, clause.NamesOnly p := by
  cases conjunction with
  | and => simp [groupQuery, BoolQuery.namesOnly_iff, BoolQuery.clauses]
  | or => simp [groupQuery, BoolQuery.namesOnly_iff, BoolQuery.clauses]

theorem Contribution.NamesOnly.group {members : Contribution} (h : members.NamesOnly p)
    (conjunction : Conjunction) : (groupContribution conjunction members).NamesOnly p := by
  unfold groupContribution
  split_ifs
  · exact h
  · exact ⟨List.forall_mem_singleton.mpr (namesOnly_groupQuery.mpr h.clauses), h.diverted⟩

/-- The names that the conditions of a tree are written with are as asked. -/
def Admits (p : NameUse → String → Prop) (conditions : List Condition) : Prop :=
  ∀ c ∈ conditions, p .filtered (dotted c.field) ∧ p .nested (root c.field)

theorem namesOnly_lowerCondition {conjunction : Conjunction} {tags : List String} {c : Condition}
    {contribution : Contribution} (hc : Admits p [c])
    (h : lowerCondition catalog conjunction tags c = .ok contribution) :
    contribution.NamesOnly p := by
  obtain ⟨hfield, hobjects⟩ := hc c List.mem_cons_self
  rcases lowerCondition_cases h with
    ⟨-, -, rfl⟩ | ⟨-, -, clause, hclause, rfl⟩ | ⟨-, clause, hclause, rfl⟩
  · exact ⟨List.forall_mem_nil _, List.forall_mem_nil _⟩
  · have hnames := namesOnly_conditionClause hfield hobjects hclause
    exact ⟨List.forall_mem_nil _, List.forall_mem_singleton.mpr hnames⟩
  · have hnames := namesOnly_conditionClause hfield hobjects hclause
    exact ⟨List.forall_mem_singleton.mpr hnames, List.forall_mem_nil _⟩

mutual

theorem namesOnly_lowerMember {conjunction : Conjunction} {tags : List String} :
    ∀ {member : ConditionTree} {contribution : Contribution}, Admits p member.conditions →
      lowerMember catalog conjunction tags member = .ok contribution → contribution.NamesOnly p
  | .condition _, _, hnames, h => namesOnly_lowerCondition hnames h
  | .group inner members innerTags, _, hnames, h => by
      obtain ⟨contribution, hmembers, h⟩ := Outcome.bind_eq_ok.mp h
      obtain rfl := Outcome.pure_eq_ok.mp h
      exact (namesOnly_lowerMembers hnames hmembers).group inner

theorem namesOnly_lowerMembers {conjunction : Conjunction} {tags : List String} :
    ∀ {members : List ConditionTree} {contribution : Contribution},
      Admits p (conditionsOf members) →
      lowerMembers catalog conjunction tags members = .ok contribution → contribution.NamesOnly p
  | [], _, _, h => by
      cases h
      exact ⟨List.forall_mem_nil _, List.forall_mem_nil _⟩
  | member :: rest, _, hnames, h => by
      obtain ⟨hmember, hrest⟩ := List.forall_mem_append.mp hnames
      obtain ⟨first, hfirst, h⟩ := Outcome.bind_eq_ok.mp h
      obtain ⟨others, hothers, h⟩ := Outcome.bind_eq_ok.mp h
      obtain rfl := Outcome.pure_eq_ok.mp h
      exact (namesOnly_lowerMember hmember hfirst).append (namesOnly_lowerMembers hrest hothers)

end

/-- The filter and the post filters of a tree name what its conditions name. -/
theorem namesOnly_lowerConditions {group : ConditionGroup} {parts : FilterParts}
    (hnames : Admits p (ofGroup group).conditions)
    (h : lowerConditions catalog group = .ok parts) :
    parts.query.NamesOnly p ∧ ∀ entry ∈ parts.postFilters, entry.2.NamesOnly p := by
  obtain ⟨members, hmembers, h⟩ := Outcome.bind_eq_ok.mp h
  obtain rfl := Outcome.pure_eq_ok.mp h
  have hcontribution := namesOnly_lowerMembers hnames hmembers
  refine ⟨namesOnly_groupQuery.mpr hcontribution.clauses, ?_⟩
  intro entry hentry
  obtain ⟨⟨key, clauses⟩, hcollected, rfl⟩ := List.mem_map.mp hentry
  refine Clause.namesOnly_anyOf.mpr fun clause hclause => ?_
  rw [(values_of_mem_collect hcollected).1, mem_valuesNamed] at hclause
  exact hcontribution.diverted _ hclause

end Conditions

section Keys

theorem forall_mem_searchedFields {requested : Option (List String)}
    (h : ∀ field ∈ catalog.fulltextFields, (∀ ids ∈ requested, field.id ∈ ids) →
      p .searched (boostedField field)) :
    ∀ name ∈ searchedFields catalog requested, p .searched name := by
  intro name hname
  cases requested with
  | none =>
      obtain ⟨field, hfield, rfl⟩ := List.mem_map.mp hname
      exact h field (List.mem_filter.mp hfield).1 (by simp)
  | some ids =>
      obtain ⟨field, hfield, rfl⟩ := List.mem_map.mp hname
      obtain ⟨hmem, hchosen⟩ := List.mem_filter.mp hfield
      exact h field hmem (by simpa using hchosen)

/-- The query of keys names the fields that are searched. -/
theorem namesOnly_lowerKeys {fuzziness : Value} {mode : ParseMode}
    {requested : Option (List String)} {keys : Option FullTextKeys} {query : BoolQuery}
    (hfields : ∀ name ∈ searchedFields catalog requested, p .searched name)
    (h : lowerKeys catalog fuzziness mode requested keys = .ok query) : query.NamesOnly p := by
  cases keys with
  | none =>
      cases h
      exact BoolQuery.namesOnly_empty
  | some keys =>
      by_cases hmode : mode = .direct
      · subst hmode
        by_cases hterms : keys.terms = []
        · rw [lowerKeys_of_no_terms hterms] at h
          cases h
          exact BoolQuery.namesOnly_empty
        · rw [lowerKeys_of_terms hterms] at h
          obtain ⟨fields, hqueried, h⟩ := Outcome.bind_eq_ok.mp h
          obtain rfl := Outcome.pure_eq_ok.mp h
          obtain rfl := eq_searchedFields_of_queryFields hqueried
          rw [keysQuery, directQuery]
          split_ifs
          · exact BoolQuery.namesOnly_empty
          · simpa [BoolQuery.namesOnly_iff, BoolQuery.clauses, Clause.NamesOnly] using hfields
      · rw [BoolQuery.NamesOnly, Clause.namesOnly_iff_leaves, lowerKeys_leaves hmode h]
        refine List.forall_mem_map.mpr fun group _ => ?_
        have hsought : (soughtMatch fuzziness mode (searchedFields catalog requested)
            group.conjunction group.flatTerms).fields = searchedFields catalog requested := by
          cases mode <;> rfl
        rwa [Clause.NamesOnly, hsought]

end Keys

section Facets

/-- The names that a facet is written with are as asked. -/
structure AdmitsFacet (p : NameUse → String → Prop) (facet : FacetRequest) : Prop where
  counted : p .counted (dotted facet.field)
  selected : p .filtered (dotted facet.field)
  group : ∀ options ∈ facet.nested, p .filtered (dotted options.groupField)
  objects : ∀ options ∈ facet.nested, p .nested (nestedPath facet options)
  hits : ∀ options ∈ facet.nested, p .shown (nestedPath facet options)

variable {facet : FacetRequest} {part : FacetPart}

theorem namesOnly_histogramAggregation {field : String} {aggregation : Aggregation}
    (hfield : p .counted field) (h : histogramAggregation facet field = .ok aggregation) :
    aggregation.NamesOnly p := by
  unfold histogramAggregation at h
  split_ifs at h
  · cases h
    exact hfield
  · obtain ⟨interval, -, h⟩ := Outcome.bind_eq_ok.mp h
    obtain rfl := Outcome.pure_eq_ok.mp h
    exact hfield

theorem namesOnly_facetAggregations {field : String} {limit : Value} {source : Option String}
    {aggregations : Entries Aggregation} (hfield : p .counted field)
    (hsource : ∀ path ∈ source, p .shown path)
    (h : facetAggregations facet field limit source = .ok aggregations) :
    Aggregation.AllNameOnly p aggregations := by
  rw [Aggregation.allNameOnly_iff]
  unfold facetAggregations at h
  cases hkind : facet.kind with
  | range =>
      rw [hkind] at h
      cases h
      simpa [Aggregation.NamesOnly] using hfield
  | date | granular =>
      rw [hkind] at h
      obtain ⟨histogram, hhistogram, h⟩ := Outcome.bind_eq_ok.mp h
      obtain rfl := Outcome.pure_eq_ok.mp h
      exact List.forall_mem_singleton.mpr (namesOnly_histogramAggregation hfield hhistogram)
  | string | nested =>
      rw [hkind] at h
      cases h
      simpa [Aggregation.NamesOnly, Aggregation.allNameOnly_iff, hfield] using hsource

theorem namesOnly_selectedValues {field : String} (hfield : p .filtered field) :
    (selectedValues facet field).NamesOnly p := by
  have hsigned : ∀ clause : Clause, clause.NamesOnly p →
      (if facet.exclude then clause.negate else clause).NamesOnly p := by
    intro clause hclause
    split_ifs
    · exact Clause.namesOnly_negate.mpr hclause
    · exact hclause
  unfold selectedValues
  apply hsigned
  split
  · exact hfield
  · exact hfield

/-- All field names in the part of a facet are as asked. -/
structure FacetPart.NamesOnly (p : NameUse → String → Prop) (part : FacetPart) : Prop where
  aggregations : Aggregation.AllNameOnly p part.aggregations
  selection : ∀ clause ∈ part.selection, clause.NamesOnly p

theorem namesOnly_nestedFacetPart {options : NestedFacetOptions} {inner : Entries Aggregation}
    (hfacet : AdmitsFacet p facet) (hoptions : facet.nested = some options)
    (hinner : Aggregation.AllNameOnly p inner) :
    (nestedFacetPart facet options inner).NamesOnly p := by
  have hpath := hfacet.objects options hoptions
  have hgroup := hfacet.group options hoptions
  refine ⟨⟨⟨hpath, ⟨hgroup, hinner⟩, trivial⟩, trivial⟩, ?_⟩
  intro clause hclause
  rw [nestedFacetPart] at hclause
  split_ifs at hclause
  · cases hclause
  · cases hclause
    refine ⟨hpath, Clause.namesOnly_allOf.mpr ?_⟩
    simpa using ⟨hgroup, namesOnly_selectedValues hfacet.selected⟩

theorem namesOnly_lowerFacet (hfacet : AdmitsFacet p facet)
    (h : lowerFacet catalog facet = .ok part) : part.NamesOnly p := by
  rcases lowerFacet_cases h with
    ⟨-, options, inner, hoptions, hinner, rfl⟩ | ⟨-, aggregations, haggregations, rfl⟩
  · apply namesOnly_nestedFacetPart hfacet hoptions
    exact namesOnly_facetAggregations hfacet.counted (by simpa using hfacet.hits options hoptions)
      hinner
  · exact ⟨namesOnly_facetAggregations hfacet.counted (by simp) haggregations, by simp⟩

/-- All field names in the parts of facets are as asked. -/
structure FacetParts.NamesOnly (p : NameUse → String → Prop) (parts : FacetParts) : Prop where
  aggregations : ∀ entry ∈ parts.aggregations, entry.2.NamesOnly p
  postFilters : ∀ entry ∈ parts.postFilters, entry.2.NamesOnly p
  rootFilters : ∀ clause ∈ parts.rootFilters, clause.NamesOnly p

/-- The parts of facets name what the facets and the post filters name. -/
theorem namesOnly_lowerFacets {facets : List FacetRequest} {postFilters : Entries Clause}
    {result : FacetParts} (hfacets : ∀ facet ∈ facets, AdmitsFacet p facet)
    (hfilters : ∀ entry ∈ postFilters, entry.2.NamesOnly p)
    (h : lowerFacets catalog facets postFilters = .ok result) : result.NamesOnly p := by
  obtain ⟨parts, hparts, rfl⟩ := lowerFacets_eq_ok_iff.mp h
  have hnames : ∀ part ∈ parts, part.NamesOnly p := by
    intro part hpart
    obtain ⟨facet, hfacet, hlowered⟩ := Outcome.exists_of_forall₂ hparts.flip hpart
    exact namesOnly_lowerFacet (hfacets facet hfacet) hlowered
  have hselections : ∀ entry ∈ alternativeSelections parts, entry.2.NamesOnly p := by
    intro entry hentry
    obtain ⟨part, hpart, hselection⟩ := List.mem_filterMap.mp hentry
    split_ifs at hselection
    obtain ⟨clause, hclause, rfl⟩ := Option.map_eq_some_iff.mp hselection
    exact (hnames part hpart).selection clause hclause
  have hpostFilters : ∀ entry ∈ postFilters.putAll (alternativeSelections parts),
      entry.2.NamesOnly p :=
    Entries.forall_mem_putAll (p := fun clause : Clause => clause.NamesOnly p) hfilters hselections
  refine ⟨?_, hpostFilters, ?_⟩
  · refine Entries.forall_mem_putAll (p := fun agg : Aggregation => agg.NamesOnly p)
      (List.forall_mem_nil _) ?_
    refine List.forall_mem_map.mpr fun part hpart => ⟨?_, (hnames part hpart).aggregations⟩
    unfold countedDocuments
    split
    · refine Clause.namesOnly_allOf.mpr (List.forall_mem_map.mpr fun entry hentry => ?_)
      exact hpostFilters entry (List.mem_filter.mp hentry).1
    · trivial
  · intro clause hclause
    obtain ⟨part, hpart, hselection⟩ := List.mem_filterMap.mp hclause
    split_ifs at hselection
    exact (hnames part hpart).selection clause hselection

end Facets

variable {setting : Setting} {drawn : Value} {query : SearchQuery}

section Sorts

/-- The field name of a sort with its direction, if it is not by chance. -/
def SortKey.named? : SortKey → Option (Value × SortDirection)
  | .field name direction => some (name, direction)
  | .random => none

theorem eq_str_of_text? {value : Value} {text : String} (h : value.text? = some text) :
    value = .str text := by
  cases value with
  | str other =>
      cases h
      rfl
  | _ => cases h

theorem sorts_of_foldlM {sorts : List SortSpec} {start result : SortParts}
    (h : sorts.foldlM (lowerSort setting drawn query) start = .ok result) :
    ∃ keys, List.Forall₂ (fun spec key => sortKey setting.catalog spec = .ok key) sorts keys ∧
      result.sorts = start.sorts ++ keys.filterMap SortKey.named? := by
  induction sorts generalizing start with
  | nil =>
      cases h
      exact ⟨[], .nil, by simp⟩
  | cons spec rest ih =>
      rw [List.foldlM_cons] at h
      obtain ⟨next, hnext, h⟩ := Outcome.bind_eq_ok.mp h
      obtain ⟨keys, hkeys, hresult⟩ := ih h
      obtain ⟨key, hkey, hnext⟩ := Outcome.bind_eq_ok.mp hnext
      refine ⟨key :: keys, .cons hkey hkeys, ?_⟩
      cases key with
      | random =>
          obtain ⟨seed, -, hnext⟩ := Outcome.bind_eq_ok.mp hnext
          obtain rfl := Outcome.pure_eq_ok.mp hnext
          exact hresult
      | field name direction =>
          obtain rfl := Outcome.pure_eq_ok.mp hnext
          rw [hresult, List.append_assoc]
          rfl

/-- A sort by a field is by the path of its id, by exact values, or by a field of its own. -/
theorem sortKey_cases {spec : SortSpec} {name : Value} {direction : SortDirection}
    (h : sortKey catalog spec = .ok (.field name direction)) :
    name = .str scoreField ∨ (spec.field = "$id" ∧ name = catalog.idField) ∨
      name = .str (dotted spec.field) ∨ name = .str (dotted spec.field ++ ".keyword") := by
  unfold sortKey at h
  split_ifs at h with hrandom hscore hid hkey hfulltext
  · cases h
  · cases h
    exact .inl rfl
  · cases h
    exact .inr (.inl ⟨hid, rfl⟩)
  · obtain ⟨_, -, h⟩ := Outcome.bind_eq_ok.mp h
    cases h
    exact .inr (.inr (.inr rfl))
  · obtain ⟨_, -, h⟩ := Outcome.bind_eq_ok.mp h
    cases h
    exact .inr (.inr (.inl rfl))

/-- Whether a query is sorted by the field of ids. -/
def IsSortedById (query : SearchQuery) : Prop :=
  query.autocomplete = none ∧ ∃ spec ∈ query.sorts, spec.field = "$id"

theorem idField_mem_sorts {parts : SortParts} (hsorted : IsSortedById query)
    (h : lowerSorts setting drawn query = .ok parts) :
    ∃ direction, (setting.catalog.idField, direction) ∈ parts.sorts := by
  obtain ⟨hautocomplete, spec, hspec, hid⟩ := hsorted
  rw [lowerSorts, hautocomplete] at h
  obtain ⟨keys, hkeys, hsorts⟩ := sorts_of_foldlM h
  obtain ⟨key, hkey, hlowered⟩ := Outcome.exists_of_forall₂ hkeys hspec
  rw [sortKey, hid, if_neg (by decide), if_neg (by decide), if_pos rfl] at hlowered
  split_ifs at hlowered
  cases hlowered
  refine ⟨spec.direction, ?_⟩
  rw [hsorts]
  exact List.mem_append_right _ (List.mem_filterMap.mpr ⟨_, hkey, rfl⟩)

end Sorts

/-- The names that a setting and a query request for a use. -/
def IsRequested (setting : Setting) (query : SearchQuery) (use : NameUse) (name : String) : Prop :=
  ∃ id, Requests setting query use id ∧ use.Writes id name

theorem field_of_spellingSuggester {originalKeys : Option String} {suggester : PhraseSuggester}
    (hhooks : setting.hooks = {})
    (h : spellingSuggester setting originalKeys = .ok (some suggester)) :
    ∃ id, setting.suggestionField = .str id ∧ suggester.field = dotted id := by
  unfold spellingSuggester at h
  rw [hhooks, show ({} : SearchHooks).alterSuggestionField setting.suggestionField =
    setting.suggestionField from rfl] at h
  dsimp only at h
  split_ifs at h
  · cases h
  · cases hfield : setting.suggestionField with
    | str id =>
        rw [hfield] at h
        dsimp only at h
        split_ifs at h
        · cases h
        · cases h
          exact ⟨id, rfl, rfl⟩
    | _ =>
        rw [hfield] at h
        dsimp only at h
        split_ifs at h
        all_goals cases h

/-- All field names in what completions and suggestions add are as asked. -/
structure SuggestionParts.NamesOnly (p : NameUse → String → Prop) (parts : SuggestionParts) :
    Prop where
  must : ∀ clause ∈ parts.must, clause.NamesOnly p
  aggregations : ∀ entry ∈ parts.aggregations, entry.2.NamesOnly p
  suggester : ∀ suggester ∈ parts.suggester, suggester.NamesOnly p

theorem writes_special {name : String} (h : name = scoreField ∨ name = sequenceField) :
    NameUse.sorted.Writes name name := by
  have hresolved : IsResolved name := by
    rw [FieldPath.isResolved_iff]
    rcases h with rfl | rfl
    · simp [scoreField, FieldPath.Apart]
    · simp [sequenceField, FieldPath.Apart]
  exact .inl (FieldPath.dotted_eq_self_iff.mpr hresolved).symm

section Parts

variable (hnames : ∀ use name, IsRequested setting query use name → p use name)
include hnames

/-- A facet is written with names that it requests. -/
theorem admitsFacet_of_requested {facet : FacetRequest} (hfacet : facet ∈ query.facets) :
    AdmitsFacet p facet := by
  have hobjects : ∀ use, use = .nested ∨ use = .shown → ∀ options ∈ facet.nested,
      p use (nestedPath facet options) := by
    intro use huse options hoptions
    have hroot : p use (root facet.field) := by
      refine hnames use _ ⟨facet.field, .facet hfacet (by tauto), ?_⟩
      rcases huse with rfl | rfl
      · exact .inr rfl
      · exact .inr rfl
    unfold nestedPath
    cases hpath : options.path with
    | none => exact hroot
    | some path =>
        dsimp only
        split_ifs
        · exact hroot
        · refine hnames use _ ⟨path, .facetObjects hfacet hoptions hpath huse, ?_⟩
          rcases huse with rfl | rfl
          · exact .inl rfl
          · exact .inl rfl
  exact {
    counted := hnames _ _ ⟨_, .facet hfacet (by tauto), rfl⟩
    selected := hnames _ _ ⟨_, .facet hfacet (by tauto), rfl⟩
    group := fun options hoptions => hnames _ _ ⟨_, .facetGroup hfacet hoptions, rfl⟩
    objects := hobjects _ (.inl rfl)
    hits := hobjects _ (.inr rfl) }

theorem namesOnly_languageFilter {clauses : List Clause}
    (h : languageFilter setting.catalog query = .ok clauses) :
    ∀ clause ∈ clauses, clause.NamesOnly p := by
  unfold languageFilter at h
  cases hlanguages : query.languages with
  | none =>
      rw [hlanguages] at h
      cases h
      exact List.forall_mem_nil _
  | some languages =>
      rw [hlanguages] at h
      obtain ⟨clause, hclause, h⟩ := Outcome.bind_eq_ok.mp h
      obtain rfl := Outcome.pure_eq_ok.mp h
      have hgiven : query.languages.isSome = true := by rw [hlanguages]; rfl
      refine List.forall_mem_singleton.mpr (namesOnly_conditionClause ?_ ?_ hclause)
      · exact hnames _ _ ⟨_, .language hgiven (.inl rfl), rfl⟩
      · exact hnames _ _ ⟨_, .language hgiven (.inr rfl), .inr rfl⟩

theorem namesOnly_fulltextPart {fulltext : BoolQuery}
    (h : fulltextPart setting query = .ok fulltext) : fulltext.NamesOnly p := by
  unfold fulltextPart at h
  split at h
  · cases h
    exact BoolQuery.namesOnly_empty
  · refine namesOnly_lowerKeys (forall_mem_searchedFields fun field hfield hids => ?_) h
    exact hnames _ _ ⟨_, .key hfield hids, _, rfl⟩

theorem namesOnly_facetPart {postFilters : Entries Clause} {facets : FacetParts}
    (hfilters : ∀ entry ∈ postFilters, entry.2.NamesOnly p)
    (h : facetPart setting.catalog query postFilters = .ok facets) : facets.NamesOnly p := by
  unfold facetPart at h
  split_ifs at h
  · cases h
    exact ⟨List.forall_mem_nil _, hfilters, List.forall_mem_nil _⟩
  · exact namesOnly_lowerFacets (fun facet hfacet => admitsFacet_of_requested hnames hfacet)
      hfilters h

theorem namesOnly_similarPart {clauses : List Clause}
    (h : similarPart setting query = .ok clauses) : ∀ clause ∈ clauses, clause.NamesOnly p := by
  unfold similarPart at h
  cases hrequest : query.moreLikeThis with
  | none =>
      rw [hrequest] at h
      cases h
      exact List.forall_mem_nil _
  | some request =>
      rw [hrequest] at h
      obtain ⟨clause, hclause, h⟩ := Outcome.bind_eq_ok.mp h
      obtain rfl := Outcome.pure_eq_ok.mp h
      obtain ⟨ids, -, hclause⟩ := Outcome.bind_eq_ok.mp hclause
      obtain rfl := Outcome.pure_eq_ok.mp hclause
      refine List.forall_mem_singleton.mpr (List.forall_mem_map.mpr fun id hid => ?_)
      exact hnames _ _ ⟨id, .similar hrequest hid, rfl⟩

theorem namesOnly_suggestionParts (hhooks : setting.hooks = {}) {parts : SuggestionParts}
    (h : suggestionParts setting query = .ok parts) : parts.NamesOnly p := by
  have hsuggested : ∀ suggester id, Requests setting query .suggested id →
      PhraseSuggester.field suggester = dotted id → suggester.NamesOnly p := by
    intro suggester id hid hfield
    rw [PhraseSuggester.NamesOnly, hfield]
    exact ⟨hnames _ _ ⟨id, hid, .inl rfl⟩, hnames _ _ ⟨id, hid, .inr rfl⟩⟩
  unfold suggestionParts at h
  cases hrequest : query.autocomplete with
  | none =>
      rw [hrequest] at h
      obtain ⟨suggester, hsuggester, h⟩ := Outcome.bind_eq_ok.mp h
      obtain rfl := Outcome.pure_eq_ok.mp h
      refine ⟨List.forall_mem_nil _, List.forall_mem_nil _, ?_⟩
      rintro suggester rfl
      obtain ⟨id, hid, hfield⟩ := field_of_spellingSuggester hhooks hsuggester
      exact hsuggested suggester id (.spelling hid) hfield
  | some request =>
      rw [hrequest] at h
      dsimp only at h
      split_ifs at h
      · cases h
        exact ⟨List.forall_mem_nil _, List.forall_mem_nil _, by simp⟩
      · cases h
        refine ⟨List.forall_mem_singleton.mpr ?_, List.forall_mem_singleton.mpr ?_, ?_⟩
        · exact hnames _ _ ⟨_, .completion hrequest (by tauto), rfl⟩
        · exact hnames _ _ ⟨_, .completion hrequest (by tauto), rfl⟩
        · rintro suggester ⟨rfl⟩
          exact hsuggested _ _ (.completion hrequest (by tauto)) rfl

theorem namesOnly_lowerSorts {parts : SortParts}
    (hid : IsSortedById query → ∀ name, setting.catalog.idField = .str name → p .sorted name)
    (h : lowerSorts setting drawn query = .ok parts) :
    ∀ sort ∈ parts.sorts, ∀ name ∈ sort.1.text?, p .sorted name := by
  have hscore : p .sorted scoreField :=
    hnames _ _ ⟨_, .special (.inl rfl), writes_special (.inl rfl)⟩
  unfold lowerSorts at h
  cases hautocomplete : query.autocomplete with
  | some request =>
      rw [hautocomplete] at h
      cases h
      simpa [Value.text?] using hscore
  | none =>
      rw [hautocomplete] at h
      obtain ⟨keys, hkeys, hsorts⟩ := sorts_of_foldlM h
      rintro ⟨key, direction⟩ hsort name hname
      rw [hsorts, List.nil_append] at hsort
      obtain ⟨lowered, hlowered, hnamed⟩ := List.mem_filterMap.mp hsort
      obtain ⟨spec, hspec, hkey⟩ := Outcome.exists_of_forall₂ hkeys.flip hlowered
      obtain rfl : lowered = .field key direction := by
        cases lowered with
        | field => cases hnamed; rfl
        | random => cases hnamed
      rcases sortKey_cases hkey with rfl | ⟨hspecial, rfl⟩ | rfl | rfl
      · cases hname
        exact hscore
      · exact hid ⟨hautocomplete, spec, hspec, hspecial⟩ name (eq_str_of_text? hname)
      · cases hname
        exact hnames _ _ ⟨_, .sort hspec, .inl rfl⟩
      · cases hname
        exact hnames _ _ ⟨_, .sort hspec, .inr rfl⟩

/-- The parts of a query name what is requested, the field of ids and the excluded fields. -/
theorem QueryParts.AreOf.namesOnly {parts : QueryParts}
    (hparts : QueryParts.AreOf setting drawn query parts) (hhooks : setting.hooks = {})
    (hid : IsSortedById query → ∀ name, setting.catalog.idField = .str name → p .sorted name)
    (hhidden : ∀ id ∈ query.excludeSourceFields, p .hidden id) :
    (parts.assemble query).NamesOnly p := by
  have hconditions : Admits p (ofGroup query.conditions).conditions := by
    intro c hc
    exact ⟨hnames _ _ ⟨_, .condition hc (.inl rfl), rfl⟩,
      hnames _ _ ⟨_, .condition hc (.inr rfl), .inr rfl⟩⟩
  obtain ⟨hfilter, hpostFilters⟩ := namesOnly_lowerConditions hconditions hparts.filter
  have hlanguage := namesOnly_languageFilter hnames hparts.language
  have hfulltext := namesOnly_fulltextPart hnames hparts.fulltext
  have hsimilar := namesOnly_similarPart hnames hparts.similar
  have hsuggestion := namesOnly_suggestionParts hnames hhooks hparts.suggestion
  have hfacets := namesOnly_facetPart hnames hpostFilters hparts.facets
  exact {
    root := ((((hfilter.addFilter hlanguage).merge hfulltext).addMust hsimilar).addMust
      hsuggestion.must).addFilter hfacets.rootFilters
    postFilters := hfacets.postFilters
    sorts := namesOnly_lowerSorts hnames hid hparts.sorts
    chance := fun _ => hnames _ _ ⟨_, .special (.inr rfl), writes_special (.inr rfl)⟩
    excludes := hhidden
    aggregations := Aggregation.allNameOnly_iff.mpr
      (Entries.forall_mem_putAll (p := fun agg : Aggregation => agg.NamesOnly p)
        hsuggestion.aggregations hfacets.aggregations)
    suggester := hsuggestion.suggester }

end Parts

/-- Every name that a query writes is requested for its use, but the excluded fields and the field
of ids are written as given. All names are requested and without separators exactly where none is
left in those. -/
theorem compile_names (hhooks : setting.hooks = {}) {request : SearchRequest}
    (h : compile setting drawn query = .ok request) :
    ∃ compiled, compileQuery setting drawn query = .ok compiled ∧
      compiled.toRequest = .ok request ∧
      compiled.NamesOnly (fun use name => IsRequested setting query use name ∨
        (use = .hidden ∧ name ∈ query.excludeSourceFields) ∨
        (use = .sorted ∧ IsSortedById query ∧ setting.catalog.idField = .str name)) ∧
      (compiled.NamesOnly (fun use name => IsRequested setting query use name ∧ IsResolved name) ↔
        (∀ id ∈ query.excludeSourceFields, IsResolved id) ∧
        (IsSortedById query → ∀ id, setting.catalog.idField = .str id → IsResolved id)) := by
  obtain ⟨parts, hparts, hrequest⟩ := (compile_eq_ok_iff hhooks).mp h
  refine ⟨parts.assemble query, compileQuery_eq_ok_iff.mpr ⟨parts, hparts, rfl⟩, hrequest, ?_, ?_⟩
  · refine hparts.namesOnly (fun use name hname => .inl hname) hhooks ?_ ?_
    · intro hsorted name hname
      exact .inr (.inr ⟨rfl, hsorted, hname⟩)
    · intro id hid
      exact .inr (.inl ⟨rfl, hid⟩)
  · constructor
    · intro hnames
      refine ⟨fun id hid => (hnames.excludes id hid).2, ?_⟩
      intro hsorted id hid
      obtain ⟨direction, hmem⟩ := idField_mem_sorts hsorted hparts.sorts
      exact (hnames.sorts _ hmem id (by rw [hid]; rfl)).2
    · rintro ⟨hhidden, hid⟩
      refine hparts.namesOnly ?_ hhooks ?_ ?_
      · rintro use name ⟨id, hrequests, hwrites⟩
        exact ⟨⟨id, hrequests, hwrites⟩, NameUse.isResolved_of_writes hwrites⟩
      · intro hsorted name hname
        have hresolved := hid hsorted name hname
        obtain ⟨-, spec, hspec, hspecial⟩ := hsorted
        exact ⟨⟨name, .identifier hspec hspecial hname,
          .inl (FieldPath.dotted_eq_self_iff.mpr hresolved).symm⟩, hresolved⟩
      · intro name hname
        have hresolved := hhidden name hname
        exact ⟨⟨name, .hidden hname, (FieldPath.dotted_eq_self_iff.mpr hresolved).symm⟩, hresolved⟩

/-- Books with their authors as nested objects. -/
def bookSetting : Setting where
  collection := .str "books"
  catalog :=
    { entries :=
        [("title", { id := "title", type := .text }),
          ("author", { id := "author", type := .nestedObject })]
      idField := .str "isbn" }
  suggestionField := .str "title__exact"

def bookQuery : SearchQuery where
  conditions :=
    { members := [.condition { field := "author__name", value := .str "Ann" }] }
  keys := some (.text "whale")
  originalKeys := some "wale"
  languages := some ["en"]
  sorts := [{ field := "$id" }, { field := "title" }]
  facets :=
    [{ id := "country", field := "author__country", kind := .nested, operator := .or
       activeValues := [.str "is"]
       nested := some { groupField := "author__role", groupValue := .str "writer" } }]
  excludeSourceFields := ["body"]

theorem bookQuery_names :
    bookSetting.hooks = {} ∧ ∃ request, compile bookSetting .null bookQuery = .ok request ∧
      ∃ compiled, compileQuery bookSetting .null bookQuery = .ok compiled ∧
        compiled.toRequest = .ok request ∧
        compiled.NamesOnly fun use name =>
          IsRequested bookSetting bookQuery use name ∧ IsResolved name := by
  obtain ⟨request, hrequest⟩ : ∃ request, compile bookSetting .null bookQuery = .ok request :=
    ⟨_, rfl⟩
  obtain ⟨compiled, hcompiled, hrendered, -, hnames⟩ := compile_names rfl hrequest
  refine ⟨rfl, request, hrequest, compiled, hcompiled, hrendered, hnames.mpr ⟨?_, ?_⟩⟩
  · exact List.forall_mem_singleton.mpr (by decide)
  · rintro - id ⟨rfl⟩
    decide

/-- Books without the names of their authors. -/
def anonymousQuery : SearchQuery where
  excludeSourceFields := ["author__name"]

/-- Not every name is resolved: an excluded field keeps the separator of its id. -/
theorem anonymousQuery_unresolved :
    ¬∀ (setting : Setting) (drawn : Value) (query : SearchQuery) (request : SearchRequest)
        (compiled : CompiledQuery), setting.hooks = {} →
      compile setting drawn query = .ok request → compileQuery setting drawn query = .ok compiled →
        compiled.NamesOnly fun use name =>
          IsRequested setting query use name ∧ IsResolved name := by
  intro hnames
  have hexcluded := hnames bookSetting .null anonymousQuery _ _ rfl rfl rfl
  have hresolved := (hexcluded.excludes "author__name" (.head _)).2
  exact hresolved ⟨"author".toList, "name".toList, rfl⟩

end FacetedSearch.Lowering
