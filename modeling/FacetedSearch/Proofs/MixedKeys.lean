import FacetedSearch.Proofs.KeyCoverage

/-!
Keys that have both terms and groups. The match of the terms and the joined clauses of the groups
are asked for side by side, and a negation is made of each of the two by itself. Negated keys say
the contrary of the keys, and the members of alternative keys are alternatives, exactly where there
are only terms, only groups, or where the terms and the groups hold together or fail together.
-/

namespace FacetedSearch

/-- The same terms and groups, with or without a negation. -/
def FullTextKeys.signed (keys : FullTextKeys) (negation : Bool) : FullTextKeys :=
  { keys with negation }

namespace Lowering

variable {style : MatchStyle} {truth : Truth} {keys : FullTextKeys} {conjunction : Conjunction}

/-- All of some clauses hold, or one of them. -/
def JointlyHold (truth : Truth) (clauses : List Clause) : Conjunction → Prop
  | .and => ∀ clause ∈ clauses, clause.Holds truth
  | .or => ∃ clause ∈ clauses, clause.Holds truth

/-- The own terms of keys hold where their match does. -/
def OwnTermsHold (style : MatchStyle) (truth : Truth) (keys : FullTextKeys) : Prop :=
  TermsHold style truth keys.conjunction keys.flatTerms

/-- The groups of keys hold together where all of their clauses hold, or one of them. -/
def GroupsHold (style : MatchStyle) (truth : Truth) (keys : FullTextKeys) : Prop :=
  JointlyHold truth (groupClauses style keys.terms) keys.conjunction

/-- There are no terms beside groups, or the terms and the groups hold together or fail together. -/
def SidesAgree (style : MatchStyle) (truth : Truth) (keys : FullTextKeys) : Prop :=
  keys.flatTerms = [] ∨ KeyTerm.anyPopulatedGroup keys.terms = false ∨
    (OwnTermsHold style truth keys ↔ GroupsHold style truth keys)

theorem holds_joinedQuery_of_ne_nil {clauses : List Clause} (hclauses : clauses ≠ []) :
    (joinedQuery conjunction clauses).Holds truth ↔ JointlyHold truth clauses conjunction := by
  rw [holds_joinedQuery]
  cases conjunction with
  | and => exact Iff.rfl
  | or => exact or_iff_right hclauses

/-- What must match is asked for beside the alternatives of a query, too. -/
theorem holds_merge_must {clauses : List Clause} {query : BoolQuery} :
    (BoolQuery.merge { must := clauses } query).Holds truth ↔
      (∀ clause ∈ clauses, clause.Holds truth) ∧ query.Holds truth := by
  rw [← holds_must]
  simp only [BoolQuery.holds_iff, BoolQuery.requirementsHold_merge,
    BoolQuery.alternativesHold_merge, true_or, if_true]
  tauto

theorem ownClauses_hold_iff :
    (∀ clause ∈ ownClauses style keys, clause.Holds truth) ↔
      (keys.flatTerms ≠ [] → KeyTerm.Signed keys.negation (OwnTermsHold style truth keys)) := by
  rw [ownClauses, FullTextKeys.worded]
  by_cases hterms : keys.flatTerms = []
  · simp [hterms]
  · simp [hterms, holds_termsClause, OwnTermsHold]

theorem groupClauses_eq_nil_iff {terms : List KeyTerm} :
    groupClauses style terms = [] ↔ KeyTerm.anyPopulatedGroup terms = false := by
  rw [← groupClauses_isEmpty style, Bool.not_eq_false', List.isEmpty_iff]

/-- The query of keys asks for their terms and for their groups, each under the negation. -/
theorem matchQuery_holds_iff_sides (style : MatchStyle) (keys : FullTextKeys) :
    (matchQuery style keys).Holds truth ↔
      (keys.flatTerms ≠ [] → KeyTerm.Signed keys.negation (OwnTermsHold style truth keys)) ∧
      (KeyTerm.anyPopulatedGroup keys.terms = true →
        KeyTerm.Signed keys.negation (GroupsHold style truth keys)) := by
  have hnone : groupClauses style keys.terms = [] ↔
      KeyTerm.anyPopulatedGroup keys.terms = false := groupClauses_eq_nil_iff
  rw [← ownClauses_hold_iff, matchQuery_eq, GroupsHold, ← Bool.not_eq_false, ← hnone]
  cases hclauses : groupClauses style keys.terms with
  | nil => simp [holds_must]
  | cons first rest =>
      have hne : first :: rest ≠ [] := List.cons_ne_nil first rest
      have hjoined : (joinedQuery keys.conjunction (first :: rest)).toClause.Holds truth ↔
          JointlyHold truth (first :: rest) keys.conjunction := holds_joinedQuery_of_ne_nil hne
      cases keys.negation with
      | false =>
          rw [holds_merge_must, imp_iff_right hne, KeyTerm.Signed, ← hjoined]
          exact Iff.rfl
      | true =>
          have hnegate := Clause.holds_negate.trans (not_congr hjoined)
          rw [holds_must, List.forall_mem_append, List.forall_mem_singleton, hnegate,
            imp_iff_right hne, KeyTerm.Signed]

/-- Where there is a term, it is one of the group itself or one below its groups. -/
theorem terms_or_groups_of_isPopulatedGroup
    (h : (KeyTerm.ofKeys keys).isPopulatedGroup = true) :
    keys.flatTerms ≠ [] ∨ KeyTerm.anyPopulatedGroup keys.terms = true := by
  rw [KeyTerm.ofKeys, KeyTerm.isPopulatedGroup, Bool.or_eq_true] at h
  rcases h with hterms | hgroups
  · left
    intro hflat
    rw [FullTextKeys.flatTerms_eq, flatTerms_eq_nil_iff, hterms] at hflat
    cases hflat
  · exact .inr hgroups

/-- A negation that is made of both sides is one of the whole where the sides agree. -/
theorem matchQuery_negation_complements_iff
    (hterm : (KeyTerm.ofKeys keys).isPopulatedGroup = true) :
    ((matchQuery style (keys.signed true)).Holds truth ↔
        ¬(matchQuery style (keys.signed false)).Holds truth) ↔
      SidesAgree style truth keys := by
  -- The sides are the same for both signs, so that only the signs differ.
  have haffirmed : (matchQuery style (keys.signed false)).Holds truth ↔
      (keys.flatTerms ≠ [] → OwnTermsHold style truth keys) ∧
        (KeyTerm.anyPopulatedGroup keys.terms = true → GroupsHold style truth keys) :=
    matchQuery_holds_iff_sides style (keys.signed false)
  have hnegated : (matchQuery style (keys.signed true)).Holds truth ↔
      (keys.flatTerms ≠ [] → ¬OwnTermsHold style truth keys) ∧
        (KeyTerm.anyPopulatedGroup keys.terms = true → ¬GroupsHold style truth keys) :=
    matchQuery_holds_iff_sides style (keys.signed true)
  rw [haffirmed, hnegated, SidesAgree]
  by_cases hflat : keys.flatTerms = []
  · have hgroups := (terms_or_groups_of_isPopulatedGroup hterm).resolve_left (not_not_intro hflat)
    simp [hflat, hgroups]
  · cases hgroups : KeyTerm.anyPopulatedGroup keys.terms with
    | false => simp [hflat]
    | true =>
        by_cases hown : OwnTermsHold style truth keys <;>
          by_cases hjoint : GroupsHold style truth keys <;>
            simp [hflat, hown, hjoint]

/-- One member of keys is enough: the match of their own terms, or the clause of one group. -/
structure AlternativesSuffice (style : MatchStyle) (truth : Truth) (keys : FullTextKeys)
    (query : BoolQuery) : Prop where
  terms : keys.flatTerms ≠ [] → OwnTermsHold style truth keys → query.Holds truth
  group : ∀ t ∈ keys.terms, ∀ clause ∈ groupClause? style t, clause.Holds truth → query.Holds truth

theorem mem_groupClauses {clause : Clause} {terms : List KeyTerm} :
    clause ∈ groupClauses style terms ↔ ∃ t ∈ terms, clause ∈ groupClause? style t := by
  induction terms with
  | nil => simp [groupClauses]
  | cons t rest ih =>
      rw [groupClauses, List.mem_append, Option.mem_toList, ih, List.exists_mem_cons_iff]
      exact Iff.rfl

/-- Groups of alternative keys hold together where one of their clauses holds. -/
theorem groupsHold_iff_of_or (hconjunction : keys.conjunction = .or) :
    GroupsHold style truth keys ↔
      ∃ t ∈ keys.terms, ∃ clause ∈ groupClause? style t, clause.Holds truth := by
  simp only [GroupsHold, hconjunction, JointlyHold, mem_groupClauses]
  constructor
  · rintro ⟨clause, ⟨t, ht, hclause⟩, hholds⟩
    exact ⟨t, ht, clause, hclause, hholds⟩
  · rintro ⟨t, ht, clause, hclause, hholds⟩
    exact ⟨clause, ⟨t, ht, hclause⟩, hholds⟩

theorem alternativesSuffice_iff {query : BoolQuery} (hconjunction : keys.conjunction = .or) :
    AlternativesSuffice style truth keys query ↔
      (keys.flatTerms ≠ [] → OwnTermsHold style truth keys → query.Holds truth) ∧
        (GroupsHold style truth keys → query.Holds truth) := by
  rw [groupsHold_iff_of_or hconjunction]
  constructor
  · intro h
    refine ⟨h.terms, ?_⟩
    rintro ⟨t, ht, clause, hclause, hholds⟩
    exact h.group t ht clause hclause hholds
  · rintro ⟨hterms, hgroups⟩
    refine ⟨hterms, ?_⟩
    intro t ht clause hclause hholds
    exact hgroups ⟨t, ht, clause, hclause, hholds⟩

theorem anyPopulatedGroup_of_groupsHold (hconjunction : keys.conjunction = .or)
    (h : GroupsHold style truth keys) : KeyTerm.anyPopulatedGroup keys.terms = true := by
  rw [GroupsHold, hconjunction] at h
  obtain ⟨clause, hclause, -⟩ := h
  rw [← Bool.not_eq_false, ← groupClauses_eq_nil_iff]
  exact List.ne_nil_of_mem hclause

/-- Both sides of alternative keys are asked for, so that one is enough where the sides agree. -/
theorem matchQuery_alternatives_suffice_iff (hconjunction : keys.conjunction = .or)
    (hnegation : keys.negation = false) :
    AlternativesSuffice style truth keys (matchQuery style keys) ↔
      SidesAgree style truth keys := by
  rw [alternativesSuffice_iff hconjunction, matchQuery_holds_iff_sides, hnegation, SidesAgree]
  simp only [KeyTerm.Signed]
  by_cases hflat : keys.flatTerms = []
  · simp only [ne_eq, hflat, not_true_eq_false, false_implies, true_and, true_or, iff_true]
    intro hgroups _
    exact hgroups
  · cases hpopulated : KeyTerm.anyPopulatedGroup keys.terms with
    | false =>
        have hgroups : ¬GroupsHold style truth keys := by
          intro hgroups
          rw [anyPopulatedGroup_of_groupsHold hconjunction hgroups] at hpopulated
          cases hpopulated
        simp [hflat, hgroups]
    | true =>
        by_cases hown : OwnTermsHold style truth keys <;>
          by_cases hjoint : GroupsHold style truth keys <;>
            simp [hflat, hown, hjoint]

variable {catalog : FieldCatalog} {fuzziness : Value} {mode : ParseMode}
  {requested : Option (List String)}

/-- How keys are matched in a mode, on the fields that are searched. -/
def searchStyle (catalog : FieldCatalog) (fuzziness : Value) (mode : ParseMode)
    (requested : Option (List String)) : MatchStyle where
  isPhrase := mode == .phrase
  fields := searchedFields catalog requested
  fuzziness

theorem lowerKeys_eq_matchQuery {query : BoolQuery} (hmode : mode ≠ .direct)
    (h : lowerKeys catalog fuzziness mode requested (some keys) = .ok query) :
    query = matchQuery (searchStyle catalog fuzziness mode requested) keys := by
  rw [eq_keysQuery_of_lowerKeys h]
  cases mode with
  | direct => exact absurd rfl hmode
  | phrase => rfl
  | terms => rfl

/-- Keys with a term, matched term by term or as phrases, lower with and without a negation wherever
their fields are known. The negated query holds where the plain one does not, and nowhere else,
exactly if the terms and the groups of the keys agree. -/
theorem lowerKeys_negation_complements_iff (hmode : mode ≠ .direct)
    (hterm : (KeyTerm.ofKeys keys).isPopulatedGroup = true) :
    (∀ negation, (∃ query, lowerKeys catalog fuzziness mode requested
        (some (keys.signed negation)) = .ok query) ↔
      ∀ ids ∈ requested, ∀ id ∈ ids, catalog.Knows id) ∧
    ∀ affirmed negated,
      lowerKeys catalog fuzziness mode requested (some (keys.signed false)) = .ok affirmed →
      lowerKeys catalog fuzziness mode requested (some (keys.signed true)) = .ok negated →
      ∀ truth, (negated.Holds truth ↔ ¬affirmed.Holds truth) ↔
        SidesAgree (searchStyle catalog fuzziness mode requested) truth keys := by
  constructor
  · intro negation
    have haccepts := lowerKeys_acceptsIff catalog fuzziness mode requested
      (some (keys.signed negation))
    have hterms : keys.terms ≠ [] := by
      intro hnil
      simp [KeyTerm.ofKeys, hnil, KeyTerm.isPopulatedGroup, KeyTerm.anyPopulatedGroup] at hterm
    rw [haccepts.exists_ok_iff]
    simp [FullTextKeys.signed, hterms]
  · intro affirmed negated haffirmed hnegated truth
    rw [lowerKeys_eq_matchQuery hmode haffirmed, lowerKeys_eq_matchQuery hmode hnegated]
    exact matchQuery_negation_complements_iff hterm

/-- A cat, and a dog in a group beside it. -/
def catKeys (conjunction : Conjunction) : FullTextKeys where
  terms := [.term "cat", .group .and [.term "dog"] false]
  conjunction

def catQuery : BoolQuery where
  must := [shoeMatch "cat" .and, shoeMatch "dog" .and]

/-- No cat, and no dog either. -/
def noCatQuery : BoolQuery where
  must :=
    [.bool [] [] [] [shoeMatch "cat" .and],
      .bool [] [] [] [.bool [shoeMatch "dog" .and] [] [] []]]

theorem catKeys_negation_complements_iff :
    ParseMode.terms ≠ .direct ∧ (KeyTerm.ofKeys (catKeys .and)).isPopulatedGroup = true ∧
      lowerKeys titlesCatalog (.int 1) .terms none (some ((catKeys .and).signed false)) =
        .ok catQuery ∧
      lowerKeys titlesCatalog (.int 1) .terms none (some ((catKeys .and).signed true)) =
        .ok noCatQuery ∧
      ∀ truth, (noCatQuery.Holds truth ↔ ¬catQuery.Holds truth) ↔
        SidesAgree (searchStyle titlesCatalog (.int 1) .terms none) truth (catKeys .and) := by
  have hterm : (KeyTerm.ofKeys (catKeys .and)).isPopulatedGroup = true := rfl
  have haffirmed : lowerKeys titlesCatalog (.int 1) .terms none
      (some ((catKeys .and).signed false)) = .ok catQuery := rfl
  have hnegated : lowerKeys titlesCatalog (.int 1) .terms none
      (some ((catKeys .and).signed true)) = .ok noCatQuery := rfl
  exact ⟨by decide, hterm, haffirmed, hnegated,
    (lowerKeys_negation_complements_iff (by decide) hterm).2 catQuery noCatQuery haffirmed hnegated⟩

/-- A document with the cat alone matches neither the keys nor their negation. -/
theorem catKeys_negation_no_complement :
    ¬∀ (catalog : FieldCatalog) (fuzziness : Value) (mode : ParseMode)
        (requested : Option (List String)) (keys : FullTextKeys) (affirmed negated : BoolQuery),
      mode ≠ .direct → (KeyTerm.ofKeys keys).isPopulatedGroup = true →
      lowerKeys catalog fuzziness mode requested (some (keys.signed false)) = .ok affirmed →
      lowerKeys catalog fuzziness mode requested (some (keys.signed true)) = .ok negated →
        ∀ truth, negated.Holds truth ↔ ¬affirmed.Holds truth := by
  intro hcomplement
  let catAlone : Truth := fun clause => clause = shoeMatch "cat" .and
  have hcat : (shoeMatch "cat" .and).Holds catAlone := rfl
  have hdog : ¬(shoeMatch "dog" .and).Holds catAlone := by
    simp [Clause.Holds, catAlone, shoeMatch]
  have hcatQuery : ¬catQuery.Holds catAlone := by
    simp [catQuery, holds_must, hdog]
  have hnoCatQuery : noCatQuery.Holds catAlone :=
    (hcomplement titlesCatalog (.int 1) .terms none (catKeys .and) catQuery noCatQuery (by decide)
      rfl rfl rfl catAlone).mpr hcatQuery
  exact Clause.holds_negate.mp (holds_must.mp hnoCatQuery _ (.head _)) hcat

/-- Alternative keys, matched term by term or as phrases, lower wherever their fields are known, and
one member is enough exactly where the terms and the groups of the keys agree. -/
theorem lowerKeys_alternatives_suffice_iff (hmode : mode ≠ .direct)
    (hconjunction : keys.conjunction = .or) (hnegation : keys.negation = false) :
    ((∃ query, lowerKeys catalog fuzziness mode requested (some keys) = .ok query) ↔
      (keys.terms ≠ [] → ∀ ids ∈ requested, ∀ id ∈ ids, catalog.Knows id)) ∧
    ∀ query, lowerKeys catalog fuzziness mode requested (some keys) = .ok query → ∀ truth,
      AlternativesSuffice (searchStyle catalog fuzziness mode requested) truth keys query ↔
        SidesAgree (searchStyle catalog fuzziness mode requested) truth keys := by
  constructor
  · have haccepts := lowerKeys_acceptsIff catalog fuzziness mode requested (some keys)
    rw [haccepts.exists_ok_iff]
    simp
  · intro query h truth
    rw [lowerKeys_eq_matchQuery hmode h]
    exact matchQuery_alternatives_suffice_iff hconjunction hnegation

def catOrDogQuery : BoolQuery where
  must := [shoeMatch "cat" .or]
  should := [shoeMatch "dog" .and]

theorem catKeys_alternatives_suffice_iff :
    ParseMode.terms ≠ .direct ∧ (catKeys .or).conjunction = .or ∧
      (catKeys .or).negation = false ∧
      lowerKeys titlesCatalog (.int 1) .terms none (some (catKeys .or)) = .ok catOrDogQuery ∧
      ∀ truth, AlternativesSuffice (searchStyle titlesCatalog (.int 1) .terms none) truth
          (catKeys .or) catOrDogQuery ↔
        SidesAgree (searchStyle titlesCatalog (.int 1) .terms none) truth (catKeys .or) := by
  have hlower : lowerKeys titlesCatalog (.int 1) .terms none (some (catKeys .or)) =
      .ok catOrDogQuery := rfl
  exact ⟨by decide, rfl, rfl, hlower,
    (lowerKeys_alternatives_suffice_iff (by decide) rfl rfl).2 catOrDogQuery hlower⟩

/-- A document with the cat alone does not match, though the cat is an alternative. -/
theorem catKeys_alternatives_not_enough :
    ¬∀ (catalog : FieldCatalog) (fuzziness : Value) (mode : ParseMode)
        (requested : Option (List String)) (keys : FullTextKeys) (query : BoolQuery),
      mode ≠ .direct → keys.conjunction = .or → keys.negation = false →
      lowerKeys catalog fuzziness mode requested (some keys) = .ok query →
        ∀ truth, AlternativesSuffice (searchStyle catalog fuzziness mode requested) truth keys
          query := by
  intro hsuffice
  let catAlone : Truth := fun clause => clause = shoeMatch "cat" .or
  have hcat : OwnTermsHold (searchStyle titlesCatalog (.int 1) .terms none) catAlone
      (catKeys .or) := rfl
  have hdog : ¬(shoeMatch "dog" .and).Holds catAlone := by
    simp [Clause.Holds, catAlone, shoeMatch]
  have hquery : catOrDogQuery.Holds catAlone :=
    (hsuffice titlesCatalog (.int 1) .terms none (catKeys .or) catOrDogQuery (by decide) rfl rfl rfl
      catAlone).terms (List.cons_ne_nil _ _) hcat
  -- The dog is the one alternative of the query.
  obtain ⟨-, halternatives⟩ := BoolQuery.holds_iff.mp hquery
  obtain ⟨clause, hclause, hholds⟩ := halternatives.resolve_left (List.cons_ne_nil _ _)
  obtain rfl := List.mem_singleton.mp hclause
  exact hdog hholds

end Lowering

end FacetedSearch
