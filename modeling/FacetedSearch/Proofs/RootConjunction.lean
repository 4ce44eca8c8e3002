import FacetedSearch.Proofs.Compile
import FacetedSearch.Proofs.ConditionLowering
import FacetedSearch.Proofs.KeyLowering

/-!
When the root query of a search is the conjunction of its parts. What the parts require in any case
is required by the root, and so is the one list of alternatives where only one part has some. The
conditions and the keys of a query can both have alternatives: then the root asks for one of either,
and it differs from the conjunction on the documents that have one of the conditions but none of the
keys, or one of the keys but none of the conditions.
-/

namespace FacetedSearch

namespace Lowering

variable {setting : Setting} {drawn : Value} {query : SearchQuery} {truth : Truth}

/-- Keys that are alternatives: groups with terms, joined by OR and not negated. -/
def KeysAreAlternatives (mode : ParseMode) (keys : Option FullTextKeys) : Prop :=
  mode ≠ .direct ∧ ∃ group ∈ keys, group.conjunction = .or ∧ group.negation = false ∧
    KeyTerm.anyPopulatedGroup group.terms = true

theorem should_matchQuery_ne_nil_iff {style : MatchStyle} {keys : FullTextKeys} :
    (matchQuery style keys).should ≠ [] ↔
      keys.conjunction = .or ∧ keys.negation = false ∧
        KeyTerm.anyPopulatedGroup keys.terms = true := by
  rw [← groupClauses_isEmpty style keys.terms]
  unfold matchQuery
  cases hnegation : keys.negation with
  | true =>
      cases groupClauses style keys.terms with
      | nil => simp [BoolQuery.addMust]
      | cons clause rest => simp [BoolQuery.addMust]
  | false =>
      cases hconjunction : keys.conjunction with
      | and => simp [BoolQuery.addMust, BoolQuery.merge, joinedQuery]
      | or => simp [BoolQuery.addMust, BoolQuery.merge, joinedQuery]

theorem should_keysQuery_ne_nil_iff {fuzziness : Value} {mode : ParseMode} {fields : List String}
    {keys : FullTextKeys} :
    (keysQuery fuzziness mode fields keys).should ≠ [] ↔ KeysAreAlternatives mode (some keys) := by
  simp only [KeysAreAlternatives, Option.mem_some_iff, exists_eq_left']
  cases mode with
  | direct =>
      simp only [keysQuery, directQuery]
      split_ifs <;> simp
  | phrase => simp [keysQuery, should_matchQuery_ne_nil_iff]
  | terms => simp [keysQuery, should_matchQuery_ne_nil_iff]

theorem should_lowerKeys_ne_nil_iff {catalog : FieldCatalog} {fuzziness : Value} {mode : ParseMode}
    {requested : Option (List String)} {keys : Option FullTextKeys} {fulltext : BoolQuery}
    (h : lowerKeys catalog fuzziness mode requested keys = .ok fulltext) :
    fulltext.should ≠ [] ↔ KeysAreAlternatives mode keys := by
  unfold lowerKeys lowerKeysWith at h
  split at h
  · cases h
    simp [KeysAreAlternatives]
  · next keys =>
      split_ifs at h with hempty
      · cases h
        simp [KeysAreAlternatives, List.isEmpty_iff.mp hempty, KeyTerm.anyPopulatedGroup]
      · obtain ⟨fields, -, h⟩ := Outcome.bind_eq_ok.mp h
        obtain rfl := Outcome.pure_eq_ok.mp h
        exact should_keysQuery_ne_nil_iff

theorem should_lowerConditions_ne_nil_iff {catalog : FieldCatalog} {group : ConditionGroup}
    {parts : FilterParts} (h : lowerConditions catalog group = .ok parts) :
    parts.query.should ≠ [] ↔ group.conjunction = .or ∧ keptMembers group ≠ [] := by
  obtain ⟨members, ⟨hclauses, -⟩, hquery, -⟩ := lowerConditions_represents h
  have hnil : members.clauses = [] ↔ keptMembers group = [] := by
    rw [← List.length_eq_zero_iff, ← hclauses.length_eq, List.length_eq_zero_iff]
  rw [hquery]
  cases group.conjunction with
  | and => simp [groupQuery]
  | or => simp [groupQuery, hnil]

/-- The conditions of a query and its keys both have alternatives. -/
def SharesAlternatives (query : SearchQuery) : Prop :=
  (query.conditions.conjunction = .or ∧ keptMembers query.conditions ≠ []) ∧
    KeysAreAlternatives query.parseMode (query.keys.map QueryKeys.normalized)

namespace QueryParts

/-- The filter, the language, the keys, the similar documents and the selections of nested facets
hold, each for itself. -/
def AllHold (truth : Truth) (parts : QueryParts) : Prop :=
  parts.filter.query.Holds truth ∧ (∀ clause ∈ parts.language, clause.Holds truth) ∧
    parts.fulltext.Holds truth ∧ (∀ clause ∈ parts.similar, clause.Holds truth) ∧
    ∀ clause ∈ parts.facets.rootFilters, clause.Holds truth

/-- What the parts require holds, apart from their alternatives. -/
def RequirementsHold (truth : Truth) (parts : QueryParts) : Prop :=
  parts.filter.query.RequirementsHold truth ∧ (∀ clause ∈ parts.language, clause.Holds truth) ∧
    parts.fulltext.RequirementsHold truth ∧ (∀ clause ∈ parts.similar, clause.Holds truth) ∧
    ∀ clause ∈ parts.facets.rootFilters, clause.Holds truth

theorem allHold_iff {parts : QueryParts} :
    parts.AllHold truth ↔ parts.RequirementsHold truth ∧
      parts.filter.query.AlternativesHold truth ∧ parts.fulltext.AlternativesHold truth := by
  simp only [AllHold, RequirementsHold, BoolQuery.holds_iff]
  tauto

theorem root_holds_iff {parts : QueryParts} (hmust : parts.suggestion.must = []) :
    parts.root.Holds truth ↔ parts.RequirementsHold truth ∧
      ((parts.filter.query.addFilter parts.language).merge parts.fulltext).AlternativesHold
        truth := by
  have hfilter : (parts.filter.query.addFilter parts.language).RequirementsHold truth ↔
      parts.filter.query.RequirementsHold truth ∧ ∀ clause ∈ parts.language, clause.Holds truth := by
    simp only [BoolQuery.RequirementsHold, BoolQuery.addFilter, List.forall_mem_append]
    tauto
  rw [root, hmust, BoolQuery.holds_addFilter, BoolQuery.holds_addMust, BoolQuery.holds_addMust,
    BoolQuery.holds_iff, BoolQuery.requirementsHold_merge, hfilter, RequirementsHold]
  simp only [List.not_mem_nil, false_implies, implies_true, and_true]
  tauto

/-- The root is the conjunction of the parts but where both have alternatives, everything else is
satisfied, and only one of the two has an alternative that holds. -/
theorem root_holds_iff_allHold_iff {parts : QueryParts} (hmust : parts.suggestion.must = []) :
    (parts.root.Holds truth ↔ parts.AllHold truth) ↔
      ¬((parts.filter.query.should ≠ [] ∧ parts.fulltext.should ≠ []) ∧
        parts.RequirementsHold truth ∧
        ¬(parts.filter.query.AlternativesHold truth ↔
          parts.fulltext.AlternativesHold truth)) := by
  have hshould : (parts.filter.query.addFilter parts.language).should =
      parts.filter.query.should := rfl
  have halternatives : (parts.filter.query.addFilter parts.language).AlternativesHold truth ↔
      parts.filter.query.AlternativesHold truth := Iff.rfl
  rw [root_holds_iff hmust, allHold_iff, BoolQuery.alternativesHold_merge, hshould, halternatives]
  by_cases hone : parts.filter.query.should = [] ∨ parts.fulltext.should = []
  · rw [if_pos hone]
    exact iff_of_true Iff.rfl fun hshared => hone.elim hshared.1.1 hshared.1.2
  · obtain ⟨hfilter, hfulltext⟩ := not_or.mp hone
    rw [if_neg hone]
    simp only [ne_eq, hfilter, hfulltext, not_false_eq_true, true_and]
    tauto

end QueryParts

theorem sharesAlternatives_iff {parts : QueryParts} (hautocomplete : query.autocomplete = none)
    (h : QueryParts.AreOf setting drawn query parts) :
    SharesAlternatives query ↔
      parts.filter.query.should ≠ [] ∧ parts.fulltext.should ≠ [] := by
  have hfulltext := h.fulltext
  rw [fulltextPart, hautocomplete] at hfulltext
  rw [should_lowerConditions_ne_nil_iff h.filter, should_lowerKeys_ne_nil_iff hfulltext,
    SharesAlternatives]

/-- The root query of a compiled search, without completions and sorting by chance, is the
conjunction of the parts of the search exactly where its conditions and keys do not share their
alternatives, or both or none of them have an alternative that holds, or something else that is
required fails. -/
theorem compile_root_conjunction {request : SearchRequest} (hhooks : setting.hooks = {})
    (hautocomplete : query.autocomplete = none) (horder : HasFixedOrder query)
    (h : compile setting drawn query = .ok request) :
    ∃ parts, QueryParts.AreOf setting drawn query parts ∧ request.query = parts.root.render ∧
      ∀ truth, (parts.root.Holds truth ↔ parts.AllHold truth) ↔
        ¬(SharesAlternatives query ∧ parts.RequirementsHold truth ∧
          ¬(parts.filter.query.AlternativesHold truth ↔
            parts.fulltext.AlternativesHold truth)) := by
  obtain ⟨parts, hparts, hrequest⟩ := (compile_eq_ok_iff hhooks).mp h
  obtain ⟨sorts, -, rfl⟩ := toRequest_eq_ok_iff.mp hrequest
  refine ⟨parts, hparts, ?_, ?_⟩
  · have hseed : (parts.assemble query).seed = none := seed_of_lowerSorts horder hparts.sorts
    simp only [CompiledQuery.renderRoot, hseed]
    rfl
  · intro truth
    rw [sharesAlternatives_iff hautocomplete hparts]
    exact QueryParts.root_holds_iff_allHold_iff
      (suggestionParts_of_no_autocomplete hautocomplete hparts.suggestion).1

def titledSetting : Setting where
  collection := .str "goods"
  catalog := { entries := [("title", { id := "title", type := .text }), ("color", { id := "color" })] }

/-- One of two colors, and one of two words. -/
def alternativesQuery : SearchQuery where
  conditions :=
    { conjunction := .or
      members :=
        [.condition { field := "color", value := .str "red" },
          .condition { field := "color", value := .str "blue" }] }
  keys := some (.group
    { conjunction := .or
      terms := [.group .and [.term "cat"] false, .group .and [.term "dog"] false] })

def titleMatch (text : String) : Clause :=
  .multiMatch
    { text, fields := ["title^1"], kind := .bestFields, operator := .and, fuzziness := .str "auto" }

def alternativesParts : QueryParts where
  filter :=
    { query := { should := [.term "color" (.str "red"), .term "color" (.str "blue")] }
      postFilters := [] }
  language := []
  fulltext := { should := [titleMatch "cat", titleMatch "dog"] }
  similar := []
  suggestion := {}
  facets := {}
  sorts := {}

theorem alternativesParts_areOf :
    QueryParts.AreOf titledSetting .null alternativesQuery alternativesParts :=
  ⟨rfl, rfl, rfl, rfl, rfl, rfl, rfl⟩

theorem compile_root_conjunction_of_alternatives :
    titledSetting.hooks = {} ∧ alternativesQuery.autocomplete = none ∧
      HasFixedOrder alternativesQuery ∧
      ∃ parts, QueryParts.AreOf titledSetting .null alternativesQuery parts ∧
        alternativesParts.root.render = parts.root.render ∧
        ∀ truth, (parts.root.Holds truth ↔ parts.AllHold truth) ↔
          ¬(SharesAlternatives alternativesQuery ∧ parts.RequirementsHold truth ∧
            ¬(parts.filter.query.AlternativesHold truth ↔
              parts.fulltext.AlternativesHold truth)) := by
  have horder : HasFixedOrder alternativesQuery := by simp [HasFixedOrder, alternativesQuery]
  have hcompile : compile titledSetting .null alternativesQuery =
      .ok { query := alternativesParts.root.render } := rfl
  exact ⟨rfl, rfl, horder, compile_root_conjunction rfl rfl horder hcompile⟩

/-- A red document with neither of the words is found, since one of the four alternatives is
enough. -/
theorem alternativesParts_root_not_conjunction :
    QueryParts.AreOf titledSetting .null alternativesQuery alternativesParts ∧
      compile titledSetting .null alternativesQuery =
        .ok { query := alternativesParts.root.render } ∧
      ¬∀ truth, alternativesParts.root.Holds truth ↔ alternativesParts.AllHold truth := by
  refine ⟨alternativesParts_areOf, rfl, ?_⟩
  intro hconjunction
  let red : Truth := fun clause => clause = .term "color" (.str "red")
  have hroot : alternativesParts.root.Holds red := by
    rw [QueryParts.root_holds_iff rfl]
    constructor
    · simp [QueryParts.RequirementsHold, alternativesParts, BoolQuery.RequirementsHold]
    · exact .inr ⟨.term "color" (.str "red"), .head _, rfl⟩
  have hall := (hconjunction red).mp hroot
  obtain ⟨-, -, hfulltext⟩ := QueryParts.allHold_iff.mp hall
  simp [BoolQuery.AlternativesHold, alternativesParts, titleMatch, Clause.Holds, red] at hfulltext

end Lowering

end FacetedSearch
