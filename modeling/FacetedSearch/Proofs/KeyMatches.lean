import FacetedSearch.Proofs.KeyCoverage

/-!
What the query of full-text keys is made of. Every match seeks the terms of one group on the fields
that are searched, as the mode asks for it, no group has two of them, and they come in the order of
the groups. A raw query string stands alone. No bool clause inside of the query is empty: it would
match every document, or none where it is negated.
-/

namespace FacetedSearch

namespace Clause

mutual

/-- The clauses that stand inside of a clause, at any depth. -/
def inside : Clause → List Clause
  | .bool must should filter mustNot =>
    withInside must ++ withInside should ++ withInside filter ++ withInside mustNot
  | .nested _ query => query :: query.inside
  | _ => []

/-- Some clauses with all that stand inside of them. -/
def withInside : List Clause → List Clause
  | [] => []
  | clause :: rest => clause :: clause.inside ++ withInside rest

end

/-- A bool clause of no clauses, as it is sent. -/
def IsEmptyBool (clause : Clause) : Prop := clause.render = BoolQuery.render {}

/-- Neither one of some clauses nor one inside of them is an empty bool clause. -/
def AreFilled (clauses : List Clause) : Prop := ∀ clause ∈ withInside clauses, ¬clause.IsEmptyBool

variable {clause : Clause} {clauses others must should filter mustNot : List Clause}

@[simp] theorem withInside_append :
    withInside (clauses ++ others) = withInside clauses ++ withInside others := by
  induction clauses with
  | nil => rfl
  | cons clause rest ih => simp [withInside, ih]

theorem not_isEmptyBool_bool (h : must ++ should ++ filter ++ mustNot ≠ []) :
    ¬(bool must should filter mustNot).IsEmptyBool := by
  intro hempty
  cases must <;> cases should <;> cases filter <;> cases mustNot <;>
    simp_all [IsEmptyBool, BoolQuery.render, BoolQuery.toClause, render, renderAll,
      ClauseShape.bool, ClauseShape.occurrence]

@[simp] theorem areFilled_nil : AreFilled [] := by
  simp [AreFilled, withInside]

@[simp] theorem areFilled_append :
    AreFilled (clauses ++ others) ↔ AreFilled clauses ∧ AreFilled others := by
  simp only [AreFilled, withInside_append, List.forall_mem_append]

/-- The clauses of a query and all that stand inside of them. -/
theorem inside_toClause (query : BoolQuery) :
    query.toClause.inside = withInside query.clauses := by
  simp [BoolQuery.toClause, BoolQuery.clauses, inside]

/-- A query that has clauses is filled where they are. -/
theorem areFilled_toClause {query : BoolQuery} (h : query.clauses ≠ []) :
    AreFilled [query.toClause] ↔ AreFilled query.clauses := by
  have hquery : ¬query.toClause.IsEmptyBool := not_isEmptyBool_bool h
  simp only [AreFilled, withInside, inside_toClause, List.append_nil, List.forall_mem_cons, hquery,
    not_false_eq_true, true_and]

theorem areFilled_multiMatch (sought : MultiMatch) : AreFilled [multiMatch sought] := by
  simp [AreFilled, withInside, inside, IsEmptyBool, render, ClauseShape.multiMatch,
    BoolQuery.render, BoolQuery.toClause, ClauseShape.bool]

theorem areFilled_simpleQueryString (text : String) (fields : List String)
    (operator : Conjunction) : AreFilled [simpleQueryString text fields operator] := by
  simp [AreFilled, withInside, inside, IsEmptyBool, render, ClauseShape.simpleQueryString,
    BoolQuery.render, BoolQuery.toClause, ClauseShape.bool]

theorem areFilled_negate : AreFilled [clause.negate] ↔ AreFilled [clause] := by
  let negated : BoolQuery := { mustNot := [clause] }
  have hclauses : negated.clauses = [clause] := rfl
  have hne : negated.clauses ≠ [] := List.cons_ne_nil clause []
  have hfilled : AreFilled [negated.toClause] ↔ AreFilled negated.clauses :=
    areFilled_toClause hne
  rwa [hclauses] at hfilled

end Clause

namespace Lowering

open Clause (AreFilled)

variable {style : MatchStyle} {keys : FullTextKeys} {conjunction : Conjunction}

theorem areFilled_negateIf {negation : Bool} {clause : Clause} :
    AreFilled [negateIf negation clause] ↔ AreFilled [clause] := by
  cases negation with
  | false => exact Iff.rfl
  | true => exact Clause.areFilled_negate

theorem areFilled_termsClause (style : MatchStyle) (conjunction : Conjunction) (negation : Bool)
    (texts : List String) : AreFilled [termsClause style conjunction negation texts] :=
  areFilled_negateIf.mpr (Clause.areFilled_multiMatch _)

theorem clauses_joinedQuery (conjunction : Conjunction) (clauses : List Clause) :
    (joinedQuery conjunction clauses).clauses = clauses := by
  cases conjunction <;> simp [joinedQuery, BoolQuery.clauses]

theorem areFilled_joinedQuery {clauses : List Clause} (hclauses : clauses ≠ [])
    (h : AreFilled clauses) : AreFilled [(joinedQuery conjunction clauses).toClause] := by
  rw [← clauses_joinedQuery conjunction clauses] at hclauses h
  exact (Clause.areFilled_toClause hclauses).mpr h

mutual

/-- The clause of a group is made of clauses that are not empty. -/
theorem areFilled_groupClause? (style : MatchStyle) :
    ∀ t : KeyTerm, AreFilled (groupClause? style t).toList
  | .term _ => Clause.areFilled_nil
  | .group conjunction terms negation => by
      by_cases hterms : flatTerms terms = []
      · have hgroups := areFilled_groupClauses style terms
        rw [groupClause?, hterms]
        -- A group without clauses has none itself.
        cases hclauses : groupClauses style terms with
        | nil => exact Clause.areFilled_nil
        | cons first rest =>
            rw [hclauses] at hgroups
            exact areFilled_negateIf.mpr
              (areFilled_joinedQuery (List.cons_ne_nil first rest) hgroups)
      · rw [groupClause?_of_terms hterms]
        exact areFilled_termsClause style conjunction negation (flatTerms terms)

theorem areFilled_groupClauses (style : MatchStyle) :
    ∀ terms : List KeyTerm, AreFilled (groupClauses style terms)
  | [] => Clause.areFilled_nil
  | t :: rest => Clause.areFilled_append.mpr
      ⟨areFilled_groupClause? style t, areFilled_groupClauses style rest⟩

end

theorem areFilled_ownClauses (style : MatchStyle) (keys : FullTextKeys) :
    AreFilled (ownClauses style keys) := by
  rw [ownClauses, FullTextKeys.worded]
  split
  · exact Clause.areFilled_nil
  · exact areFilled_termsClause style keys.conjunction keys.negation keys.flatTerms

theorem areFilled_matchQuery (style : MatchStyle) (keys : FullTextKeys) :
    AreFilled (matchQuery style keys).clauses := by
  have hown := areFilled_ownClauses style keys
  have hgroups := areFilled_groupClauses style keys.terms
  rw [matchQuery_eq]
  cases hclauses : groupClauses style keys.terms with
  | nil => simpa [BoolQuery.clauses] using hown
  | cons first rest =>
      rw [hclauses] at hgroups
      cases keys.negation with
      | false =>
          cases keys.conjunction with
          | and => simpa [BoolQuery.clauses, BoolQuery.merge, joinedQuery] using ⟨hown, hgroups⟩
          | or => simpa [BoolQuery.clauses, BoolQuery.merge, joinedQuery] using ⟨hown, hgroups⟩
      | true =>
          have hjoined :
              AreFilled [(joinedQuery keys.conjunction (first :: rest)).toClause] :=
            areFilled_joinedQuery (List.cons_ne_nil first rest) hgroups
          simpa [BoolQuery.clauses, Clause.areFilled_negate] using ⟨hown, hjoined⟩

/-- The match of a group as it is sent. Phrases are taken as they are, and other terms as fuzzily as
is asked for, if it is. -/
def sentMatch (fuzziness : Value) (mode : ParseMode) (fields : List String)
    (group : FullTextKeys) : Value :=
  .object [("multi_match", .object
    ([("query", .str group.wording), ("fields", .list (fields.map .str)),
        ("type", .str (if mode = .phrase then "phrase" else "best_fields")),
        ("operator", .str (if group.conjunction = .and then "and" else "or"))] ++
      if mode = .phrase ∨ fuzziness = .null then [] else [("fuzziness", fuzziness)]))]

/-- A raw query string as it is sent. -/
def sentQueryString (fields : List String) (text : String) : Value :=
  .object [("simple_query_string", .object
    [("query", .str text), ("fields", .list (fields.map .str)), ("default_operator", .str "or")])]

theorem render_soughtMatch {fuzziness : Value} {mode : ParseMode} (hmode : mode ≠ .direct)
    (fields : List String) (group : FullTextKeys) :
    (Clause.multiMatch (soughtMatch fuzziness mode fields group.conjunction
      group.flatTerms)).render = sentMatch fuzziness mode fields group := by
  cases mode with
  | direct => exact absurd rfl hmode
  | phrase =>
      cases hgroup : group.conjunction <;>
        simp [sentMatch, soughtMatch, Clause.render, ClauseShape.multiMatch, FullTextKeys.wording,
          MatchKind.word, matchOperator, hgroup]
  | terms =>
      cases hgroup : group.conjunction <;>
        simp [sentMatch, soughtMatch, Clause.render, ClauseShape.multiMatch,
          ClauseShape.phraseTypes, FullTextKeys.wording, MatchKind.word, matchOperator, hgroup]

variable {catalog : FieldCatalog} {fuzziness : Value} {mode : ParseMode}
  {requested : Option (List String)}

theorem soughtGroups_sublist (keys : FullTextKeys) :
    keys.soughtGroups.Sublist keys.wordedGroups := by
  rw [FullTextKeys.soughtGroups, FullTextKeys.wordedGroups, KeyTerm.ofKeys, KeyTerm.wordedGroups]
  exact (KeyTerm.soughtGroupsOf_sublist keys.terms).append_left keys.worded

/-- Whatever seeks something does so on the fields that are searched. -/
theorem queryFields_of_leaves_ne_nil {query : BoolQuery}
    (h : lowerKeys catalog fuzziness mode requested (some keys) = .ok query)
    (hleaves : query.toClause.leaves ≠ []) :
    queryFields catalog requested = .ok (searchedFields catalog requested) := by
  by_cases hterms : keys.terms = []
  · rw [lowerKeys_of_no_terms hterms] at h
    cases h
    exact absurd rfl hleaves
  · rw [lowerKeys_of_terms hterms] at h
    obtain ⟨fields, hfields, -⟩ := Outcome.bind_eq_ok.mp h
    rw [hfields, eq_searchedFields_of_queryFields hfields]

theorem keysQuery_direct (fuzziness : Value) (fields : List String) (keys : FullTextKeys) :
    keysQuery fuzziness .direct fields keys =
      if keys.wording = "" then {}
      else { must := [.simpleQueryString keys.wording fields .or] } := by
  rw [keysQuery, directQuery, ← FullTextKeys.wording]
  by_cases h : keys.wording = ""
  · simp [h]
  · simp [h]

/-- What the query of keys seeks, on which fields and how. -/
structure SeeksOnly (catalog : FieldCatalog) (fuzziness : Value) (mode : ParseMode)
    (requested : Option (List String)) (keys : FullTextKeys) (query : BoolQuery) : Prop where
  fields : query.toClause.leaves ≠ [] →
    queryFields catalog requested = .ok (searchedFields catalog requested)
  ordered : keys.soughtGroups.Sublist keys.wordedGroups
  groups : mode ≠ .direct → query.toClause.leaves.map Clause.render =
    keys.soughtGroups.map (sentMatch fuzziness mode (searchedFields catalog requested))
  direct : mode = .direct → query.toClause.leaves.map Clause.render =
    if keys.wording = "" then []
    else [sentQueryString (searchedFields catalog requested) keys.wording]
  filled : ∀ clause ∈ query.toClause.inside, ¬clause.IsEmptyBool

theorem areFilled_keysQuery (fuzziness : Value) (mode : ParseMode) (fields : List String)
    (keys : FullTextKeys) : AreFilled (keysQuery fuzziness mode fields keys).clauses := by
  cases mode with
  | direct =>
      rw [keysQuery_direct]
      split
      · exact Clause.areFilled_nil
      · exact Clause.areFilled_simpleQueryString keys.wording fields .or
  | phrase => exact areFilled_matchQuery _ keys
  | terms => exact areFilled_matchQuery _ keys

/-- Keys that lower are sought as they are: each of the matches is of one group, in the order of the
groups, on the searched fields and in the way of the mode, and nothing inside of the query is
empty. -/
theorem lowerKeys_seeksOnly {query : BoolQuery}
    (h : lowerKeys catalog fuzziness mode requested (some keys) = .ok query) :
    SeeksOnly catalog fuzziness mode requested keys query where
  fields := queryFields_of_leaves_ne_nil h
  ordered := soughtGroups_sublist keys
  groups := by
    intro hmode
    rw [lowerKeys_leaves hmode h, List.map_map]
    apply List.map_congr_left
    intro group _
    exact render_soughtMatch hmode _ group
  direct := by
    rintro rfl
    rw [eq_keysQuery_of_lowerKeys h, keysQuery_direct]
    split
    · rfl
    · rfl
  filled := by
    rw [Clause.inside_toClause, eq_keysQuery_of_lowerKeys h]
    exact areFilled_keysQuery fuzziness mode _ keys

/-- Neither pets, nor a black cat or anything but a dog; a group without terms is in the way. -/
def barredKeys : FullTextKeys where
  conjunction := .or
  negation := true
  terms :=
    [.term "pet", .group .and [.group .or [] true] true,
      .group .or [.group .and [.term "black", .term "cat"] false, .group .and [.term "dog"] true]
        false]

def barredQuery : BoolQuery where
  must :=
    [.bool [] [] [] [shoeMatch "pet" .or],
      .bool [] [] []
        [.bool []
          [.bool [] [shoeMatch "black cat" .and, .bool [] [] [] [shoeMatch "dog" .and]] [] []]
          [] []]]

theorem barredQuery_seeksOnly :
    lowerKeys titlesCatalog (.int 1) .terms none (some barredKeys) = .ok barredQuery ∧
      barredKeys.soughtGroups.map (·.wording) = ["pet", "black cat", "dog"] ∧
      SeeksOnly titlesCatalog (.int 1) .terms none barredKeys barredQuery := by
  have hlower : lowerKeys titlesCatalog (.int 1) .terms none (some barredKeys) = .ok barredQuery :=
    rfl
  exact ⟨hlower, rfl, lowerKeys_seeksOnly hlower⟩

end Lowering

end FacetedSearch
