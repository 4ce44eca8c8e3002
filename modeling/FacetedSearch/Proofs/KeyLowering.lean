import FacetedSearch.Proofs.CatalogResolution
import FacetedSearch.Proofs.ClauseMeaning
import FacetedSearch.Proofs.KeyMeaning

/-!
What lowering makes of full-text keys. Groups have a clause exactly when there is a term below them,
and where no group has both terms and groups the clause says what the group says. The root group,
whose clauses become parts of the query, is no exception.
-/

namespace FacetedSearch.Lowering

variable {style : MatchStyle} {truth : Truth} {terms : List KeyTerm} {keys : FullTextKeys}

theorem flatTerms_eq_nil_iff :
    flatTerms terms = [] ↔ terms.any (·.text?.isSome) = false := by
  simp [flatTerms, List.filterMap_eq_nil_iff]

mutual

/-- Groups have a clause exactly when there is a term below them. -/
theorem groupClause?_isSome (style : MatchStyle) :
    ∀ t : KeyTerm, (groupClause? style t).isSome = t.isPopulatedGroup
  | .term _ => rfl
  | .group conjunction terms negation => by
      rw [groupClause?, KeyTerm.isPopulatedGroup]
      cases hflat : flatTerms terms with
      | nil =>
          rw [flatTerms_eq_nil_iff.mp hflat, Bool.false_or, ← groupClauses_isEmpty style terms]
          cases groupClauses style terms with
          | nil => rfl
          | cons clause rest => rfl
      | cons text rest =>
          have hterms : terms.any (·.text?.isSome) = true := by
            rw [← Bool.not_eq_false, ← flatTerms_eq_nil_iff, hflat]
            exact List.cons_ne_nil _ _
          rw [hterms, Bool.true_or]
          rfl

theorem groupClauses_isEmpty (style : MatchStyle) :
    ∀ terms : List KeyTerm, (!(groupClauses style terms).isEmpty) = KeyTerm.anyPopulatedGroup terms
  | [] => rfl
  | t :: rest => by
      rw [groupClauses, KeyTerm.anyPopulatedGroup, ← groupClause?_isSome style t,
        ← groupClauses_isEmpty style rest]
      cases groupClause? style t with
      | none => rfl
      | some clause => rfl

end

theorem groupClauses_of_terms (style : MatchStyle) (h : terms.all (·.text?.isSome) = true) :
    groupClauses style terms = [] := by
  induction terms with
  | nil => rfl
  | cons t rest ih =>
      rw [List.all_cons, Bool.and_eq_true] at h
      cases t with
      | term text => exact ih h.2
      | group conjunction terms negation => cases h.1

/-- In an unmixed group there are no plain terms or there are no clauses of groups. -/
theorem flatTerms_or_groupClauses_eq_nil (style : MatchStyle) {conjunction : Conjunction}
    {negation : Bool} (h : (KeyTerm.group conjunction terms negation).isUnmixed = true) :
    flatTerms terms = [] ∨ groupClauses style terms = [] := by
  rw [KeyTerm.isUnmixed, Bool.and_eq_true, Bool.or_eq_true] at h
  rcases h.1 with hterms | hgroups
  · exact .inr (groupClauses_of_terms style hterms)
  · exact .inl (by simpa [flatTerms, List.filterMap_eq_nil_iff] using hgroups)

theorem holds_negateIf {negation : Bool} {clause : Clause} :
    (negateIf negation clause).Holds truth ↔ KeyTerm.Signed negation (clause.Holds truth) := by
  cases negation with
  | false => rfl
  | true => exact Clause.holds_negate

theorem holds_joinedQuery {conjunction : Conjunction} {clauses : List Clause} :
    (joinedQuery conjunction clauses).Holds truth ↔
      match conjunction with
      | .and => ∀ clause ∈ clauses, clause.Holds truth
      | .or => clauses = [] ∨ ∃ clause ∈ clauses, clause.Holds truth := by
  cases conjunction with
  | and => simp [joinedQuery, BoolQuery.holds_iff, BoolQuery.RequirementsHold,
      BoolQuery.AlternativesHold]
  | or => simp [joinedQuery, BoolQuery.holds_iff, BoolQuery.RequirementsHold,
      BoolQuery.AlternativesHold]

/-- The plain terms of a group hold where their match does. -/
def TermsHold (style : MatchStyle) (truth : Truth) (conjunction : Conjunction)
    (texts : List String) : Prop :=
  truth (.multiMatch (termsMatch style conjunction texts))

theorem holds_termsClause {conjunction : Conjunction} {negation : Bool} {texts : List String} :
    (termsClause style conjunction negation texts).Holds truth ↔
      KeyTerm.Signed negation (TermsHold style truth conjunction texts) :=
  holds_negateIf

mutual

/-- The clause of an unmixed group says what the group says. -/
theorem groupClause?_holds_iff :
    ∀ {t : KeyTerm} {clause : Clause}, t.isUnmixed = true → groupClause? style t = some clause →
      (clause.Holds truth ↔ t.Holds (TermsHold style truth))
  | .group conjunction terms negation, clause, hunmixed, h => by
      have hempty := flatTerms_or_groupClauses_eq_nil style hunmixed
      rw [KeyTerm.isUnmixed, Bool.and_eq_true] at hunmixed
      obtain ⟨hall, hsome⟩ := groupClauses_hold_iff hunmixed.2
      rw [groupClause?] at h
      cases hflat : flatTerms terms with
      | nil =>
          rw [hflat] at h
          cases hclauses : groupClauses style terms with
          | nil =>
              -- There is no term below the group, so that it has no clause and never a sign.
              rw [hclauses] at h
              cases h
          | cons first rest =>
              rw [hclauses] at h hall hsome
              cases h
              have hjoined : (joinedQuery conjunction (first :: rest)).toClause.Holds truth ↔ _ :=
                holds_joinedQuery
              rw [holds_negateIf, hjoined, KeyTerm.holds_group_of_no_terms hflat, ← hall, ← hsome]
              cases conjunction with
              | and => rfl
              | or => simp
      | cons text rest =>
          have hne : flatTerms terms ≠ [] := hflat ▸ List.cons_ne_nil text rest
          rw [hflat] at h
          cases h
          -- Beside terms there are no groups that say anything.
          rw [hempty.resolve_left hne] at hall hsome
          rw [holds_termsClause, KeyTerm.holds_group_of_terms hne, hflat]
          · exact hall.mp (by simp)
          · exact mt hsome.mpr (by simp)

/-- The clauses of unmixed groups all hold, or one of them, where the groups do. -/
theorem groupClauses_hold_iff :
    ∀ {terms : List KeyTerm}, KeyTerm.areUnmixed terms = true →
      ((∀ clause ∈ groupClauses style terms, clause.Holds truth) ↔
        KeyTerm.AllHold (TermsHold style truth) terms) ∧
      ((∃ clause ∈ groupClauses style terms, clause.Holds truth) ↔
        KeyTerm.SomeHold (TermsHold style truth) terms)
  | [], _ => by simp [groupClauses, KeyTerm.AllHold, KeyTerm.SomeHold]
  | t :: rest, hunmixed => by
      rw [KeyTerm.areUnmixed, Bool.and_eq_true] at hunmixed
      obtain ⟨hall, hsome⟩ := groupClauses_hold_iff hunmixed.2
      have hpopulated := groupClause?_isSome style t
      rw [groupClauses, KeyTerm.AllHold, KeyTerm.SomeHold, ← hall, ← hsome, ← hpopulated]
      cases hclause : groupClause? style t with
      | none => simp
      | some clause => simp [← groupClause?_holds_iff hunmixed.1 hclause]

end

theorem holds_empty : ({} : BoolQuery).Holds truth := by
  simp [BoolQuery.holds_iff, BoolQuery.RequirementsHold, BoolQuery.AlternativesHold]

theorem holds_must {clauses : List Clause} :
    ({ must := clauses } : BoolQuery).Holds truth ↔ ∀ clause ∈ clauses, clause.Holds truth := by
  simp [BoolQuery.holds_iff, BoolQuery.RequirementsHold, BoolQuery.AlternativesHold]

theorem joinedQuery_nil (conjunction : Conjunction) : joinedQuery conjunction [] = {} := by
  cases conjunction <;> rfl

/-- Plain terms that stand alone are matched by one clause. -/
theorem matchQuery_of_terms (hterms : keys.flatTerms ≠ [])
    (hclauses : groupClauses style keys.terms = []) :
    matchQuery style keys =
      { must := [termsClause style keys.conjunction keys.negation keys.flatTerms] } := by
  simp only [matchQuery, hclauses, joinedQuery_nil]
  cases hflat : keys.flatTerms with
  | nil => exact absurd hflat hterms
  | cons text rest =>
      cases keys.negation with
      | false => rfl
      | true => rfl

/-- Groups without plain terms beside them are joined, and their negation is one clause. -/
theorem matchQuery_of_no_terms (hterms : keys.flatTerms = []) :
    matchQuery style keys =
      match groupClauses style keys.terms, keys.negation with
      | [], _ => {}
      | clauses, false => joinedQuery keys.conjunction clauses
      | clauses, true => { must := [.negate (joinedQuery keys.conjunction clauses).toClause] } := by
  simp only [matchQuery, hterms]
  cases groupClauses style keys.terms with
  | nil =>
      simp only [joinedQuery_nil]
      cases keys.negation with
      | false => rfl
      | true => rfl
  | cons first rest =>
      cases keys.negation with
      | false => simp [BoolQuery.merge, BoolQuery.addMust]
      | true => rfl

/-- Keys are matched as their group would be inside another one. -/
theorem matchQuery_holds_iff (hunmixed : (KeyTerm.ofKeys keys).isUnmixed = true) :
    (matchQuery style keys).Holds truth ↔
      ∀ clause ∈ groupClause? style (KeyTerm.ofKeys keys), clause.Holds truth := by
  have hempty := flatTerms_or_groupClauses_eq_nil style hunmixed
  rw [KeyTerm.ofKeys, groupClause?]
  cases hflat : flatTerms keys.terms with
  | nil =>
      rw [matchQuery_of_no_terms hflat]
      cases groupClauses style keys.terms with
      | nil => simp [holds_empty]
      | cons first rest =>
          cases keys.negation with
          | false => simp [negateIf, BoolQuery.Holds]
          | true => simp [negateIf, holds_must]
  | cons text rest =>
      have hne : keys.flatTerms ≠ [] := by
        rw [FullTextKeys.flatTerms, ← flatTerms, hflat]
        exact List.cons_ne_nil text rest
      rw [matchQuery_of_terms hne (hempty.resolve_left hne), holds_must]
      simp [← hflat, FullTextKeys.flatTerms, flatTerms]

theorem matchQuery_holds_iff_keys (hunmixed : (KeyTerm.ofKeys keys).isUnmixed = true) :
    (matchQuery style keys).Holds truth ↔ keys.Holds (TermsHold style truth) := by
  have hpopulated := groupClause?_isSome style (KeyTerm.ofKeys keys)
  rw [matchQuery_holds_iff hunmixed, FullTextKeys.Holds, ← hpopulated]
  cases hclause : groupClause? style (KeyTerm.ofKeys keys) with
  | none => simp
  | some clause => simp [groupClause?_holds_iff hunmixed hclause]

variable {catalog : FieldCatalog} {fuzziness : Value} {mode : ParseMode}
  {requested : Option (List String)}

/-- The fields that are searched: the full-text fields among the requested ones, or all of them. -/
def searchedFields (catalog : FieldCatalog) : Option (List String) → List String
  | none => chosenFields catalog fun _ => true
  | some ids => chosenFields catalog ids.contains

theorem queryFields_acceptsIff (catalog : FieldCatalog) (requested : Option (List String)) :
    Outcome.AcceptsIff (∀ ids ∈ requested, ∀ id ∈ ids, catalog.Knows id)
      (queryFields catalog requested) := by
  cases requested with
  | none => exact .accepted _ (by simp)
  | some ids =>
      refine ((catalog.forIn_resolve_acceptsIff ids).bind_total fun _ _ => ⟨_, rfl⟩).congr ?_
      simp

theorem eq_searchedFields_of_queryFields {fields : List String}
    (h : queryFields catalog requested = .ok fields) : fields = searchedFields catalog requested := by
  cases requested with
  | none => exact (Except.ok.inj h).symm
  | some ids =>
      obtain ⟨_, -, h⟩ := Outcome.bind_eq_ok.mp h
      exact (Outcome.pure_eq_ok.mp h).symm

theorem lowerKeys_of_no_terms (h : keys.terms = []) :
    lowerKeys catalog fuzziness mode requested (some keys) = .ok {} := by
  simp [lowerKeys, lowerKeysWith, h]

theorem lowerKeys_of_terms (h : keys.terms ≠ []) :
    lowerKeys catalog fuzziness mode requested (some keys) = (do
      return keysQuery fuzziness mode (← queryFields catalog requested) keys) := by
  simp [lowerKeys, lowerKeysWith, h]

theorem keysQuery_of_no_terms {fields : List String} (h : keys.terms = []) :
    keysQuery fuzziness mode fields keys = {} := by
  have hflat : keys.flatTerms = [] := by rw [FullTextKeys.flatTerms, h, List.filterMap_nil]
  cases mode with
  | direct => simp [keysQuery, directQuery, hflat]
  | phrase => rw [keysQuery, matchQuery_of_no_terms hflat, h, groupClauses]
  | terms => rw [keysQuery, matchQuery_of_no_terms hflat, h, groupClauses]

/-- What keys lower to is their query over the fields that are searched. -/
theorem eq_keysQuery_of_lowerKeys {query : BoolQuery}
    (h : lowerKeys catalog fuzziness mode requested (some keys) = .ok query) :
    query = keysQuery fuzziness mode (searchedFields catalog requested) keys := by
  by_cases hterms : keys.terms = []
  · rw [lowerKeys_of_no_terms hterms] at h
    rw [keysQuery_of_no_terms hterms]
    exact (Except.ok.inj h).symm
  · rw [lowerKeys_of_terms hterms] at h
    obtain ⟨fields, hfields, h⟩ := Outcome.bind_eq_ok.mp h
    rw [← eq_searchedFields_of_queryFields hfields]
    exact (Outcome.pure_eq_ok.mp h).symm

/-- Keys are refused only for requested fields that are unknown, and not even for these where there
is nothing to search for. -/
theorem lowerKeys_acceptsIff (catalog : FieldCatalog) (fuzziness : Value) (mode : ParseMode)
    (requested : Option (List String)) (keys : Option FullTextKeys) :
    Outcome.AcceptsIff
      (∀ group ∈ keys, group.terms ≠ [] → ∀ ids ∈ requested, ∀ id ∈ ids, catalog.Knows id)
      (lowerKeys catalog fuzziness mode requested keys) := by
  cases keys with
  | none => exact .accepted _ (by simp)
  | some group =>
      by_cases hterms : group.terms = []
      · rw [lowerKeys_of_no_terms hterms]
        exact .accepted _ (by simp [hterms])
      · rw [lowerKeys_of_terms hterms]
        have hfields := queryFields_acceptsIff catalog requested
        refine (hfields.bind_total fun fields _ => ⟨_, rfl⟩).congr ?_
        simp [hterms]

/-- The match of plain terms, which are joined by blanks. -/
def soughtMatch (fuzziness : Value) (mode : ParseMode) (fields : List String)
    (conjunction : Conjunction) (texts : List String) : MultiMatch :=
  match mode with
  | .phrase =>
    { text := " ".intercalate texts, fields, kind := .phrase, operator := conjunction }
  | _ =>
    { text := " ".intercalate texts, fields, kind := .bestFields, operator := conjunction, fuzziness }

/-- Keys that are matched term by term or as phrases make a query that says what they say. -/
theorem keysQuery_holds_iff {fields : List String} (hmode : mode ≠ .direct)
    (hunmixed : (KeyTerm.ofKeys keys).isUnmixed = true) :
    (keysQuery fuzziness mode fields keys).Holds truth ↔
      keys.Holds fun conjunction texts =>
        truth (.multiMatch (soughtMatch fuzziness mode fields conjunction texts)) := by
  cases mode with
  | direct => exact absurd rfl hmode
  | phrase => exact matchQuery_holds_iff_keys hunmixed
  | terms => exact matchQuery_holds_iff_keys hunmixed

/-- Keys that do not mix terms and groups, matched term by term or as phrases, lower to a query
wherever their fields are known, and the query holds where the keys do. -/
theorem lowerKeys_holds_iff (hmode : mode ≠ .direct)
    (hunmixed : (KeyTerm.ofKeys keys).isUnmixed = true) :
    ((∃ query, lowerKeys catalog fuzziness mode requested (some keys) = .ok query) ↔
      (keys.terms ≠ [] → ∀ ids ∈ requested, ∀ id ∈ ids, catalog.Knows id)) ∧
    ∀ query, lowerKeys catalog fuzziness mode requested (some keys) = .ok query → ∀ truth,
      (query.Holds truth ↔
        keys.Holds fun conjunction texts => truth (.multiMatch
          (soughtMatch fuzziness mode (searchedFields catalog requested) conjunction texts))) := by
  constructor
  · have haccepts := lowerKeys_acceptsIff catalog fuzziness mode requested (some keys)
    rw [haccepts.exists_ok_iff]
    simp
  · intro query h truth
    by_cases hterms : keys.terms = []
    · rw [lowerKeys_of_no_terms hterms] at h
      cases h
      simp [holds_empty, FullTextKeys.Holds, KeyTerm.ofKeys, hterms, KeyTerm.isPopulatedGroup,
        KeyTerm.anyPopulatedGroup]
    · rw [lowerKeys_of_terms hterms] at h
      obtain ⟨fields, hfields, h⟩ := Outcome.bind_eq_ok.mp h
      obtain rfl := Outcome.pure_eq_ok.mp h
      rw [keysQuery_holds_iff hmode hunmixed, eq_searchedFields_of_queryFields hfields]

def titlesCatalog : FieldCatalog where
  entries := [("title", { id := "title", type := .text }), ("color", { id := "color" })]

/-- Red shoes, or neither boots nor sandals; two groups without terms are in the way. -/
def shoeKeys : FullTextKeys where
  conjunction := .or
  terms :=
    [.group .and [.term "red", .term "shoe"] false,
      .group .or [.group .or [.term "boot"] false, .group .and [.term "sandal"] false] true,
      .group .and [.group .or [] true] true]

def shoeMatch (text : String) (operator : Conjunction) : Clause :=
  .multiMatch { text, fields := ["title^1"], kind := .bestFields, operator, fuzziness := .int 1 }

def shoeQuery : BoolQuery where
  should :=
    [shoeMatch "red shoe" .and,
      .bool [] [] [] [.bool [] [shoeMatch "boot" .or, shoeMatch "sandal" .and] [] []]]

theorem shoeQuery_holds_iff :
    ParseMode.terms ≠ .direct ∧ (KeyTerm.ofKeys shoeKeys).isUnmixed = true ∧
      lowerKeys titlesCatalog (.int 1) .terms (some ["title", "color"]) (some shoeKeys) =
        .ok shoeQuery ∧
      ∀ truth, shoeQuery.Holds truth ↔
        shoeKeys.Holds fun conjunction texts => truth (.multiMatch (soughtMatch (.int 1) .terms
          (searchedFields titlesCatalog (some ["title", "color"])) conjunction texts)) := by
  have hunmixed : (KeyTerm.ofKeys shoeKeys).isUnmixed = true := rfl
  have hlower : lowerKeys titlesCatalog (.int 1) .terms (some ["title", "color"]) (some shoeKeys) =
      .ok shoeQuery := rfl
  exact ⟨by decide, hunmixed, hlower, (lowerKeys_holds_iff (by decide) hunmixed).2 shoeQuery hlower⟩

end FacetedSearch.Lowering
