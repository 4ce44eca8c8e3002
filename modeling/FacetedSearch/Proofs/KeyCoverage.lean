import FacetedSearch.Proofs.KeyLowering

/-!
Which terms of full-text keys are sought. Every group whose terms are sought has one match, of all
its terms, and the matches come in the order of the groups. Below the root the groups beside plain
terms are passed over, so that all terms are sought where no inner group has both of its own terms
and terms in groups below it.
-/

namespace FacetedSearch

namespace Clause

mutual

/-- The clauses in bool clauses that are none themselves. -/
def leaves : Clause → List Clause
  | .bool must should filter mustNot =>
    leavesOfAll must ++ leavesOfAll should ++ leavesOfAll filter ++ leavesOfAll mustNot
  | clause => [clause]

def leavesOfAll : List Clause → List Clause
  | [] => []
  | clause :: rest => clause.leaves ++ leavesOfAll rest

end

variable {clause : Clause} {clauses : List Clause}

@[simp] theorem leavesOfAll_append (clauses others : List Clause) :
    leavesOfAll (clauses ++ others) = leavesOfAll clauses ++ leavesOfAll others := by
  induction clauses with
  | nil => rfl
  | cons clause rest ih => simp [leavesOfAll, ih]

@[simp] theorem leavesOfAll_singleton : leavesOfAll [clause] = clause.leaves := by
  simp [leavesOfAll]

@[simp] theorem leaves_negate : clause.negate.leaves = clause.leaves := by
  simp [negate, leaves, leavesOfAll]

end Clause

namespace FullTextKeys

theorem flatTerms_eq (keys : FullTextKeys) : keys.flatTerms = Lowering.flatTerms keys.terms := rfl

/-- The group itself where it has terms of its own. -/
def worded (keys : FullTextKeys) : List FullTextKeys :=
  if keys.flatTerms = [] then [] else [keys]

/-- The terms of a group as one text. -/
def wording (keys : FullTextKeys) : String := " ".intercalate keys.flatTerms

end FullTextKeys

namespace KeyTerm

mutual

/-- The groups with terms of their own, each before those below it. -/
def wordedGroups : KeyTerm → List FullTextKeys
  | .term _ => []
  | .group conjunction terms negation =>
    FullTextKeys.worded { terms, conjunction, negation } ++ wordedGroupsOf terms

def wordedGroupsOf : List KeyTerm → List FullTextKeys
  | [] => []
  | t :: rest => t.wordedGroups ++ wordedGroupsOf rest

end

mutual

/-- The groups whose terms are sought. A group with terms of its own stands for all below it. -/
def soughtGroups : KeyTerm → List FullTextKeys
  | .term _ => []
  | .group conjunction terms negation =>
    if Lowering.flatTerms terms = [] then soughtGroupsOf terms
    else [{ terms, conjunction, negation }]

def soughtGroupsOf : List KeyTerm → List FullTextKeys
  | [] => []
  | t :: rest => t.soughtGroups ++ soughtGroupsOf rest

end

variable {conjunction : Conjunction} {terms : List KeyTerm} {negation : Bool}

theorem wordedGroups_of_no_terms (h : Lowering.flatTerms terms = []) :
    (group conjunction terms negation).wordedGroups = wordedGroupsOf terms := by
  rw [wordedGroups, FullTextKeys.worded, FullTextKeys.flatTerms_eq, if_pos h, List.nil_append]

theorem wordedGroups_of_terms (h : Lowering.flatTerms terms ≠ []) :
    (group conjunction terms negation).wordedGroups =
      { terms, conjunction, negation } :: wordedGroupsOf terms := by
  rw [wordedGroups, FullTextKeys.worded, FullTextKeys.flatTerms_eq, if_neg h,
    List.singleton_append]

theorem soughtGroups_of_no_terms (h : Lowering.flatTerms terms = []) :
    (group conjunction terms negation).soughtGroups = soughtGroupsOf terms := by
  rw [soughtGroups, if_pos h]

theorem soughtGroups_of_terms (h : Lowering.flatTerms terms ≠ []) :
    (group conjunction terms negation).soughtGroups = [{ terms, conjunction, negation }] := by
  rw [soughtGroups, if_neg h]

mutual

/-- There are groups with terms of their own exactly where there is a term below. -/
theorem wordedGroups_isEmpty :
    ∀ t : KeyTerm, (!t.wordedGroups.isEmpty) = t.isPopulatedGroup
  | .term _ => rfl
  | .group conjunction terms negation => by
      rw [isPopulatedGroup]
      by_cases h : Lowering.flatTerms terms = []
      · rw [wordedGroups_of_no_terms h, Lowering.flatTerms_eq_nil_iff.mp h, Bool.false_or,
          wordedGroupsOf_isEmpty terms]
      · have hterms : terms.any (·.text?.isSome) = true := by
          rwa [← Bool.not_eq_false, ← Lowering.flatTerms_eq_nil_iff]
        rw [wordedGroups_of_terms h, hterms, Bool.true_or]
        rfl

theorem wordedGroupsOf_isEmpty :
    ∀ terms : List KeyTerm, (!(wordedGroupsOf terms).isEmpty) = anyPopulatedGroup terms
  | [] => rfl
  | t :: rest => by
      rw [wordedGroupsOf, anyPopulatedGroup, ← wordedGroups_isEmpty t,
        ← wordedGroupsOf_isEmpty rest]
      cases t.wordedGroups with
      | nil => rfl
      | cons keys others => rfl

end

mutual

theorem flatTerms_ne_nil_of_mem_wordedGroups {keys : FullTextKeys} :
    ∀ t : KeyTerm, keys ∈ t.wordedGroups → keys.flatTerms ≠ []
  | .term _, h => by cases h
  | .group conjunction terms negation, h => by
      by_cases hterms : Lowering.flatTerms terms = []
      · rw [wordedGroups_of_no_terms hterms] at h
        exact flatTerms_ne_nil_of_mem_wordedGroupsOf terms h
      · rw [wordedGroups_of_terms hterms, List.mem_cons] at h
        rcases h with rfl | hbelow
        · exact hterms
        · exact flatTerms_ne_nil_of_mem_wordedGroupsOf terms hbelow

theorem flatTerms_ne_nil_of_mem_wordedGroupsOf {keys : FullTextKeys} :
    ∀ terms : List KeyTerm, keys ∈ wordedGroupsOf terms → keys.flatTerms ≠ []
  | [], h => by cases h
  | t :: rest, h => by
      rw [wordedGroupsOf, List.mem_append] at h
      rcases h with hfirst | hothers
      · exact flatTerms_ne_nil_of_mem_wordedGroups t hfirst
      · exact flatTerms_ne_nil_of_mem_wordedGroupsOf rest hothers

end

theorem wordedGroupsOf_eq_nil_iff :
    wordedGroupsOf terms = [] ↔ anyPopulatedGroup terms = false := by
  rw [← wordedGroupsOf_isEmpty, Bool.not_eq_false', List.isEmpty_iff]

mutual

theorem soughtGroups_sublist : ∀ t : KeyTerm, t.soughtGroups.Sublist t.wordedGroups
  | .term _ => .slnil
  | .group conjunction terms negation => by
      by_cases h : Lowering.flatTerms terms = []
      · rw [soughtGroups_of_no_terms h, wordedGroups_of_no_terms h]
        exact soughtGroupsOf_sublist terms
      · rw [soughtGroups_of_terms h, wordedGroups_of_terms h]
        exact (List.nil_sublist _).cons_cons _

theorem soughtGroupsOf_sublist :
    ∀ terms : List KeyTerm, (soughtGroupsOf terms).Sublist (wordedGroupsOf terms)
  | [] => .slnil
  | t :: rest => (soughtGroups_sublist t).append (soughtGroupsOf_sublist rest)

end

/-- Of two lists that are no longer than two others neither is shorter if together they are not. -/
theorem append_eq_append_iff_of_sublist {first second longer further : List FullTextKeys}
    (hfirst : first.Sublist longer) (hsecond : second.Sublist further) :
    first ++ second = longer ++ further ↔ first = longer ∧ second = further := by
  constructor
  · intro heq
    have hlength : (first ++ second).length = (longer ++ further).length := by rw [heq]
    rw [List.length_append, List.length_append] at hlength
    have hfirstLength := hfirst.length_le
    have hsecondLength := hsecond.length_le
    exact ⟨hfirst.eq_of_length (by omega), hsecond.eq_of_length (by omega)⟩
  · rintro ⟨rfl, rfl⟩
    rfl

mutual

/-- No group is passed over where none with terms of its own has further terms below it. -/
theorem soughtGroups_eq_iff :
    ∀ t : KeyTerm, t.soughtGroups = t.wordedGroups ↔
      ∀ keys ∈ t.wordedGroups, anyPopulatedGroup keys.terms = false
  | .term _ => by simp [soughtGroups, wordedGroups]
  | .group conjunction terms negation => by
      by_cases h : Lowering.flatTerms terms = []
      · rw [soughtGroups_of_no_terms h, wordedGroups_of_no_terms h]
        exact soughtGroupsOf_eq_iff terms
      · rw [soughtGroups_of_terms h, wordedGroups_of_terms h, List.forall_mem_cons,
          ← wordedGroupsOf_eq_nil_iff]
        constructor
        · intro heq
          have hbelow : wordedGroupsOf terms = [] := (List.cons.inj heq).2.symm
          exact ⟨hbelow, by simp [hbelow]⟩
        · rintro ⟨hbelow, -⟩
          rw [hbelow]

theorem soughtGroupsOf_eq_iff :
    ∀ terms : List KeyTerm, soughtGroupsOf terms = wordedGroupsOf terms ↔
      ∀ keys ∈ wordedGroupsOf terms, anyPopulatedGroup keys.terms = false
  | [] => by simp [soughtGroupsOf, wordedGroupsOf]
  | t :: rest => by
      calc
        soughtGroupsOf (t :: rest) = wordedGroupsOf (t :: rest)
        _ ↔ t.soughtGroups = t.wordedGroups ∧ soughtGroupsOf rest = wordedGroupsOf rest :=
          append_eq_append_iff_of_sublist (soughtGroups_sublist t) (soughtGroupsOf_sublist rest)
        _ ↔ (∀ keys ∈ t.wordedGroups, anyPopulatedGroup keys.terms = false) ∧
            ∀ keys ∈ wordedGroupsOf rest, anyPopulatedGroup keys.terms = false :=
          and_congr (soughtGroups_eq_iff t) (soughtGroupsOf_eq_iff rest)
        _ ↔ ∀ keys ∈ wordedGroupsOf (t :: rest), anyPopulatedGroup keys.terms = false := by
          rw [wordedGroupsOf, List.forall_mem_append]

end

end KeyTerm

namespace FullTextKeys

variable {keys : FullTextKeys}

/-- The groups of keys that have terms of their own, the keys themselves first. -/
def wordedGroups (keys : FullTextKeys) : List FullTextKeys := (KeyTerm.ofKeys keys).wordedGroups

/-- The groups of keys whose terms are sought; at the root the groups beside terms are, too. -/
def soughtGroups (keys : FullTextKeys) : List FullTextKeys :=
  keys.worded ++ KeyTerm.soughtGroupsOf keys.terms

/-- All groups with terms are sought where no inner one has further terms below it. -/
theorem soughtGroups_eq_wordedGroups_iff :
    keys.soughtGroups = keys.wordedGroups ↔
      ∀ group ∈ KeyTerm.wordedGroupsOf keys.terms,
        KeyTerm.anyPopulatedGroup group.terms = false := by
  rw [soughtGroups, wordedGroups, KeyTerm.ofKeys, KeyTerm.wordedGroups, List.append_cancel_left_eq,
    KeyTerm.soughtGroupsOf_eq_iff]

end FullTextKeys

namespace Lowering

variable {style : MatchStyle} {keys : FullTextKeys}

def groupMatch (style : MatchStyle) (group : FullTextKeys) : Clause :=
  .multiMatch (termsMatch style group.conjunction group.flatTerms)

@[simp] theorem leaves_negateIf {negation : Bool} {clause : Clause} :
    (negateIf negation clause).leaves = clause.leaves := by
  cases negation with
  | false => rfl
  | true => exact Clause.leaves_negate

@[simp] theorem leaves_joinedQuery {conjunction : Conjunction} {clauses : List Clause} :
    (joinedQuery conjunction clauses).toClause.leaves = Clause.leavesOfAll clauses := by
  cases conjunction with
  | and => simp [joinedQuery, BoolQuery.toClause, Clause.leaves, Clause.leavesOfAll]
  | or => simp [joinedQuery, BoolQuery.toClause, Clause.leaves, Clause.leavesOfAll]

@[simp] theorem leaves_termsClause {conjunction : Conjunction} {negation : Bool}
    {texts : List String} :
    (termsClause style conjunction negation texts).leaves =
      [.multiMatch (termsMatch style conjunction texts)] := by
  rw [termsClause, leaves_negateIf]
  rfl

theorem groupClause?_of_terms {conjunction : Conjunction} {terms : List KeyTerm} {negation : Bool}
    (h : flatTerms terms ≠ []) :
    groupClause? style (.group conjunction terms negation) =
      some (termsClause style conjunction negation (flatTerms terms)) := by
  rw [groupClause?]
  cases hflat : flatTerms terms with
  | nil => exact absurd hflat h
  | cons text rest => rfl

mutual

/-- The clause of a group matches the groups that are sought, and nothing else. -/
theorem groupClause?_leaves (style : MatchStyle) :
    ∀ t : KeyTerm, Clause.leavesOfAll (groupClause? style t).toList =
      t.soughtGroups.map (groupMatch style)
  | .term _ => rfl
  | .group conjunction terms negation => by
      by_cases h : flatTerms terms = []
      · rw [KeyTerm.soughtGroups_of_no_terms h, ← groupClauses_leaves style terms, groupClause?, h]
        cases groupClauses style terms with
        | nil => rfl
        | cons clause rest => simp
      · rw [KeyTerm.soughtGroups_of_terms h, groupClause?_of_terms h]
        simp [groupMatch, FullTextKeys.flatTerms_eq]

theorem groupClauses_leaves (style : MatchStyle) :
    ∀ terms : List KeyTerm, Clause.leavesOfAll (groupClauses style terms) =
      (KeyTerm.soughtGroupsOf terms).map (groupMatch style)
  | [] => rfl
  | t :: rest => by
      rw [groupClauses, KeyTerm.soughtGroupsOf, Clause.leavesOfAll_append, List.map_append,
        groupClause?_leaves style t, groupClauses_leaves style rest]

end

/-- The clause of the terms of keys themselves, if there are some. -/
def ownClauses (style : MatchStyle) (keys : FullTextKeys) : List Clause :=
  keys.worded.map fun group =>
    termsClause style group.conjunction group.negation group.flatTerms

theorem matchQuery_eq (style : MatchStyle) (keys : FullTextKeys) :
    matchQuery style keys =
      match groupClauses style keys.terms, keys.negation with
      | [], _ => { must := ownClauses style keys }
      | clauses, false =>
          BoolQuery.merge { must := ownClauses style keys } (joinedQuery keys.conjunction clauses)
      | clauses, true =>
          { must := ownClauses style keys ++
              [.negate (joinedQuery keys.conjunction clauses).toClause] } := by
  rw [ownClauses, FullTextKeys.worded, matchQuery]
  cases hflat : keys.flatTerms with
  | nil =>
      cases groupClauses style keys.terms with
      | nil => cases keys.negation <;> simp [joinedQuery_nil, BoolQuery.merge, BoolQuery.addMust]
      | cons first rest => cases keys.negation <;> rfl
  | cons text texts =>
      rw [if_neg (List.cons_ne_nil text texts), List.map_singleton, hflat]
      cases groupClauses style keys.terms with
      | nil => cases keys.negation <;> simp [joinedQuery_nil, BoolQuery.merge, BoolQuery.addMust]
      | cons first rest => cases keys.negation <;> rfl

theorem leaves_ownClauses :
    Clause.leavesOfAll (ownClauses style keys) = keys.worded.map (groupMatch style) := by
  rw [ownClauses, FullTextKeys.worded]
  split
  · rfl
  · simp [groupMatch]

theorem leaves_must {clauses : List Clause} :
    ({ must := clauses } : BoolQuery).toClause.leaves = Clause.leavesOfAll clauses := by
  simp [BoolQuery.toClause, Clause.leaves, Clause.leavesOfAll]

theorem leaves_merge {clauses : List Clause} {query : BoolQuery} :
    (BoolQuery.merge { must := clauses } query).toClause.leaves =
      Clause.leavesOfAll clauses ++ query.toClause.leaves := by
  simp [BoolQuery.merge, BoolQuery.toClause, Clause.leaves]

/-- The query of keys has one match for each group that is sought. -/
theorem matchQuery_leaves (style : MatchStyle) (keys : FullTextKeys) :
    (matchQuery style keys).toClause.leaves = keys.soughtGroups.map (groupMatch style) := by
  rw [FullTextKeys.soughtGroups, List.map_append, ← leaves_ownClauses,
    ← groupClauses_leaves style keys.terms, matchQuery_eq]
  cases groupClauses style keys.terms with
  | nil => rw [leaves_must, Clause.leavesOfAll, List.append_nil]
  | cons first rest =>
      cases keys.negation with
      | false => rw [leaves_merge, leaves_joinedQuery]
      | true =>
          rw [leaves_must, Clause.leavesOfAll_append, Clause.leavesOfAll_singleton,
            Clause.leaves_negate, leaves_joinedQuery]

variable {catalog : FieldCatalog} {fuzziness : Value} {mode : ParseMode}
  {requested : Option (List String)}

/-- Keys that are matched term by term or as phrases lower to one match for each sought group. -/
theorem lowerKeys_leaves {query : BoolQuery} (hmode : mode ≠ .direct)
    (h : lowerKeys catalog fuzziness mode requested (some keys) = .ok query) :
    query.toClause.leaves = keys.soughtGroups.map fun group => .multiMatch
      (soughtMatch fuzziness mode (searchedFields catalog requested) group.conjunction
        group.flatTerms) := by
  rw [eq_keysQuery_of_lowerKeys h]
  cases mode with
  | direct => exact absurd rfl hmode
  | phrase => exact matchQuery_leaves _ keys
  | terms => exact matchQuery_leaves _ keys

/-- A part stands in what it makes with others. -/
theorem isInfix_intercalate {separator part : List Char} {parts : List (List Char)}
    (h : part ∈ parts) : part <:+: separator.intercalate parts := by
  induction parts with
  | nil => cases h
  | cons first rest ih =>
      cases rest with
      | nil =>
          obtain rfl := List.mem_singleton.mp h
          simp
      | cons second others =>
          rw [List.intercalate_cons_cons]
          rcases List.mem_cons.mp h with rfl | hrest
          · rw [List.append_assoc]
            exact (List.prefix_append part _).isInfix
          · exact (ih hrest).trans (List.suffix_append _ _).isInfix

theorem isInfix_wording {term : String} (h : term ∈ keys.flatTerms) :
    term.toList <:+: keys.wording.toList := by
  rw [FullTextKeys.wording, String.toList_intercalate]
  exact isInfix_intercalate (List.mem_map_of_mem h)

theorem soughtMatch_text (fuzziness : Value) (mode : ParseMode) (fields texts : List String)
    (conjunction : Conjunction) :
    (soughtMatch fuzziness mode fields conjunction texts).text = " ".intercalate texts := by
  cases mode <;> rfl

/-- Every term of every group is sought, in a match of all the terms of its group. -/
def KeepsTerms (query : BoolQuery) (keys : FullTextKeys) : Prop :=
  ∀ group ∈ keys.wordedGroups, ∀ term ∈ group.flatTerms,
    ∃ sought : MultiMatch, .multiMatch sought ∈ query.toClause.leaves ∧
      sought.text = group.wording ∧ term.toList <:+: sought.text.toList

/-- The terms of a group are kept where the group is sought, or one with the same terms in all. -/
theorem keepsTerms_iff {query : BoolQuery} {fields : List String}
    (h : query.toClause.leaves = keys.soughtGroups.map fun group => .multiMatch
      (soughtMatch fuzziness mode fields group.conjunction group.flatTerms)) :
    KeepsTerms query keys ↔
      ∀ group ∈ keys.wordedGroups, ∃ sought ∈ keys.soughtGroups,
        sought.wording = group.wording := by
  constructor
  · intro hkeeps group hgroup
    have hne := KeyTerm.flatTerms_ne_nil_of_mem_wordedGroups _ hgroup
    obtain ⟨term, hterm⟩ := List.exists_mem_of_ne_nil _ hne
    obtain ⟨sought, hsought, htext, -⟩ := hkeeps group hgroup term hterm
    rw [h, List.mem_map] at hsought
    obtain ⟨other, hother, heq⟩ := hsought
    refine ⟨other, hother, ?_⟩
    rw [← htext, ← Clause.multiMatch.inj heq, soughtMatch_text, FullTextKeys.wording]
  · intro hsame group hgroup term hterm
    obtain ⟨other, hother, hwording⟩ := hsame group hgroup
    refine ⟨_, h ▸ List.mem_map_of_mem hother, ?_⟩
    rw [soughtMatch_text, ← FullTextKeys.wording, hwording]
    exact ⟨rfl, isInfix_wording hterm⟩

/-- Keys that are matched term by term or as phrases lower wherever their fields are known, to one
match for each group that is sought. No term is lost exactly where each group with terms is sought
or one of the same wording, and all groups with terms are sought exactly where no inner one of them
has terms in groups below it. -/
theorem lowerKeys_keepsTerms_iff (hmode : mode ≠ .direct) :
    ((∃ query, lowerKeys catalog fuzziness mode requested (some keys) = .ok query) ↔
      (keys.terms ≠ [] → ∀ ids ∈ requested, ∀ id ∈ ids, catalog.Knows id)) ∧
    (∀ query, lowerKeys catalog fuzziness mode requested (some keys) = .ok query →
      (query.toClause.leaves = keys.soughtGroups.map fun group => .multiMatch
        (soughtMatch fuzziness mode (searchedFields catalog requested) group.conjunction
          group.flatTerms)) ∧
      (KeepsTerms query keys ↔ ∀ group ∈ keys.wordedGroups, ∃ sought ∈ keys.soughtGroups,
        sought.wording = group.wording)) ∧
    (keys.soughtGroups = keys.wordedGroups ↔
      ∀ group ∈ KeyTerm.wordedGroupsOf keys.terms,
        KeyTerm.anyPopulatedGroup group.terms = false) := by
  refine ⟨?_, ?_, FullTextKeys.soughtGroups_eq_wordedGroups_iff⟩
  · have haccepts := lowerKeys_acceptsIff catalog fuzziness mode requested (some keys)
    rw [haccepts.exists_ok_iff]
    simp
  · intro query h
    have hleaves := lowerKeys_leaves hmode h
    exact ⟨hleaves, keepsTerms_iff hleaves⟩

/-- Pets that are a cat or a dog, with a group beside the terms at the root only. -/
def petKeys : FullTextKeys where
  terms :=
    [.term "pet",
      .group .or [.group .and [.term "black", .term "cat"] false, .group .and [.term "dog"] true]
        false]

def petQuery : BoolQuery where
  must :=
    [shoeMatch "pet" .and,
      .bool [] [shoeMatch "black cat" .and, .bool [] [] [] [shoeMatch "dog" .and]] [] []]

theorem petKeys_keepsTerms :
    ParseMode.terms ≠ .direct ∧
      lowerKeys titlesCatalog (.int 1) .terms none (some petKeys) = .ok petQuery ∧
      petKeys.soughtGroups.map (·.wording) = ["pet", "black cat", "dog"] ∧
      KeepsTerms petQuery petKeys := by
  have hlower : lowerKeys titlesCatalog (.int 1) .terms none (some petKeys) = .ok petQuery := rfl
  obtain ⟨-, hquery, hall⟩ := @lowerKeys_keepsTerms_iff petKeys titlesCatalog (.int 1) .terms none
    (by decide)
  have hsought : petKeys.soughtGroups = petKeys.wordedGroups := hall.mpr (by decide)
  refine ⟨by decide, hlower, rfl, (hquery petQuery hlower).2.mpr ?_⟩
  intro group hgroup
  exact ⟨group, hsought ▸ hgroup, rfl⟩

/-- A cat, and a dog in a group beside it. -/
def strayKeys : FullTextKeys where
  terms := [.group .and [.term "cat", .group .and [.term "dog"] false] false]

/-- Not all terms are kept: nothing seeks the dog. -/
theorem strayKeys_loses_term :
    ¬∀ (catalog : FieldCatalog) (fuzziness : Value) (mode : ParseMode)
        (requested : Option (List String)) (keys : FullTextKeys) (query : BoolQuery),
      mode ≠ .direct → lowerKeys catalog fuzziness mode requested (some keys) = .ok query →
        KeepsTerms query keys := by
  intro hkeeps
  let dogs : FullTextKeys := { terms := [.term "dog"] }
  have hdogs : dogs ∈ strayKeys.wordedGroups := .tail _ (.head _)
  obtain ⟨sought, hsought, htext, -⟩ := hkeeps titlesCatalog (.int 1) .terms none strayKeys
    { must := [shoeMatch "cat" .and] } (by decide) rfl dogs hdogs "dog" (.head _)
  -- The one match of the query is of the cat.
  obtain rfl : sought = _ := Clause.multiMatch.inj (List.mem_singleton.mp hsought)
  exact absurd htext (by decide)

end Lowering

end FacetedSearch
