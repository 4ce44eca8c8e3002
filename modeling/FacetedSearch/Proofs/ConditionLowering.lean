import FacetedSearch.Proofs.Collect
import FacetedSearch.Proofs.ConditionMeaning
import FacetedSearch.Proofs.Outcome

/-!
What lowering makes of a condition tree. The filter query holds where the tree without its selected
conditions and without groups that are left empty holds. The post filter of a facet holds where one
of the conditions does that are diverted to it, wherever in the tree they stand.
-/

namespace FacetedSearch.Lowering

open ConditionTree

variable {catalog : FieldCatalog} {conjunction : Conjunction} {tags : List String}

/-- A condition holds where its clause does. -/
def ConditionHolds (catalog : FieldCatalog) (truth : Truth) (c : Condition) : Prop :=
  ∃ clause, conditionClause catalog c = .ok clause ∧ clause.Holds truth

/-- A clause says of every document what a tree says, whose conditions all have clauses. -/
structure Means (catalog : FieldCatalog) (tree : ConditionTree) (clause : Clause) : Prop where
  accepted : ∀ c ∈ tree.conditions, ∃ lowered, conditionClause catalog c = .ok lowered
  holds_iff : ∀ truth, clause.Holds truth ↔ tree.Holds (ConditionHolds catalog truth)

/-- A diverted condition and its clause under the same key. -/
def Diverts (catalog : FieldCatalog) (taken : String × Condition) (diverted : String × Clause) :
    Prop :=
  taken.1 = diverted.1 ∧ conditionClause catalog taken.2 = .ok diverted.2

/-- A contribution has the clauses of the trees that are kept and of the conditions that are
diverted. -/
structure Represents (catalog : FieldCatalog) (kept : List ConditionTree)
    (taken : List (String × Condition)) (contribution : Contribution) : Prop where
  clauses : List.Forall₂ (Means catalog) kept contribution.clauses
  diverted : List.Forall₂ (Diverts catalog) taken contribution.diverted

theorem Represents.nil : Represents catalog [] [] {} := ⟨.nil, .nil⟩

theorem Represents.append {kept others : List ConditionTree} {taken more : List (String × Condition)}
    {first second : Contribution} (hfirst : Represents catalog kept taken first)
    (hsecond : Represents catalog others more second) :
    Represents catalog (kept ++ others) (taken ++ more) (first.append second) :=
  ⟨List.rel_append hfirst.clauses hsecond.clauses, List.rel_append hfirst.diverted hsecond.diverted⟩

theorem conditionHolds_iff {truth : Truth} {c : Condition} {clause : Clause}
    (h : conditionClause catalog c = .ok clause) :
    ConditionHolds catalog truth c ↔ clause.Holds truth := by
  constructor
  · rintro ⟨other, hother, hholds⟩
    cases h.symm.trans hother
    exact hholds
  · intro hholds
    exact ⟨clause, h, hholds⟩

theorem means_condition {c : Condition} {clause : Clause}
    (h : conditionClause catalog c = .ok clause) : Means catalog (.condition c) clause where
  accepted := by
    intro other hother
    rw [conditions, List.mem_singleton] at hother
    exact hother ▸ ⟨clause, h⟩
  holds_iff truth := by rw [ConditionTree.Holds, conditionHolds_iff h]

/-- A group without clauses asks for nothing, as an alternative too. -/
theorem groupQuery_holds_iff {truth : Truth} {clauses : List Clause} :
    (groupQuery conjunction clauses).Holds truth ↔
      match conjunction with
      | .and => ∀ clause ∈ clauses, clause.Holds truth
      | .or => clauses = [] ∨ ∃ clause ∈ clauses, clause.Holds truth := by
  cases conjunction with
  | and => simp [groupQuery, BoolQuery.holds_iff, BoolQuery.RequirementsHold,
      BoolQuery.AlternativesHold]
  | or => simp [groupQuery, BoolQuery.holds_iff, BoolQuery.RequirementsHold,
      BoolQuery.AlternativesHold]

/-- All members hold where their clauses do, and some member holds where some clause does. -/
theorem forall_exists_holds_iff (truth : Truth) {members : List ConditionTree}
    {clauses : List Clause} (h : List.Forall₂ (Means catalog) members clauses) :
    ((∀ clause ∈ clauses, clause.Holds truth) ↔
        AllHold (ConditionHolds catalog truth) members) ∧
      ((∃ clause ∈ clauses, clause.Holds truth) ↔
        SomeHold (ConditionHolds catalog truth) members) := by
  induction h with
  | nil => simp [AllHold, SomeHold]
  | cons hmember _ ih =>
      simp only [List.forall_mem_cons, List.exists_mem_cons_iff, AllHold, SomeHold, ih.1, ih.2,
        hmember.holds_iff truth, and_self]

theorem accepted_of_forall₂ {members : List ConditionTree} {clauses : List Clause}
    (h : List.Forall₂ (Means catalog) members clauses) :
    ∀ c ∈ conditionsOf members, ∃ clause, conditionClause catalog c = .ok clause := by
  induction h with
  | nil => simp [conditionsOf]
  | cons hmember _ ih =>
      intro c hc
      rcases List.mem_append.mp hc with hown | hrest
      · exact hmember.accepted c hown
      · exact ih c hrest

/-- A group that has members means what the query of their clauses says. -/
theorem means_group {members : List ConditionTree} {clauses : List Clause}
    (h : List.Forall₂ (Means catalog) members clauses) (hmembers : members ≠ []) :
    Means catalog (.group conjunction members tags) (groupQuery conjunction clauses).toClause where
  accepted := accepted_of_forall₂ h
  holds_iff truth := by
    have hclauses : clauses ≠ [] := by
      rintro rfl
      exact hmembers (List.forall₂_nil_right_iff.mp h)
    obtain ⟨hall, hsome⟩ := forall_exists_holds_iff truth h
    refine groupQuery_holds_iff.trans ?_
    cases conjunction with
    | and => exact hall
    | or => exact (or_iff_right hclauses).trans hsome

theorem isSelection_iff {c : Condition} :
    isSelection conjunction tags c.field = true ↔ IsSelected conjunction tags c := by
  simp [isSelection, IsSelected]

/-- A condition is skipped, diverted, or lowered in its place. -/
theorem lowerCondition_cases {c : Condition} {contribution : Contribution}
    (h : lowerCondition catalog conjunction tags c = .ok contribution) :
    (IsSelected conjunction tags c ∧ catalog.isNestedField c.field = true ∧ contribution = {}) ∨
    (IsSelected conjunction tags c ∧ catalog.isNestedField c.field = false ∧
      ∃ clause, conditionClause catalog c = .ok clause ∧
        contribution = { diverted := [(facetKey tags c.field, clause)] }) ∨
    (¬IsSelected conjunction tags c ∧
      ∃ clause, conditionClause catalog c = .ok clause ∧
        contribution = { clauses := [clause] }) := by
  obtain ⟨_, -, h⟩ := Outcome.bind_eq_ok.mp h
  by_cases hselected : IsSelected conjunction tags c
  · rw [if_pos (isSelection_iff.mpr hselected)] at h
    cases hnested : catalog.isNestedField c.field with
    | true =>
        rw [hnested, if_pos rfl] at h
        exact .inl ⟨hselected, rfl, (Outcome.pure_eq_ok.mp h).symm⟩
    | false =>
        rw [hnested, if_neg Bool.false_ne_true] at h
        obtain ⟨clause, hclause, h⟩ := Outcome.bind_eq_ok.mp h
        exact .inr (.inl ⟨hselected, rfl, clause, hclause, (Outcome.pure_eq_ok.mp h).symm⟩)
  · rw [if_neg (mt isSelection_iff.mp hselected)] at h
    obtain ⟨clause, hclause, h⟩ := Outcome.bind_eq_ok.mp h
    exact .inr (.inr ⟨hselected, clause, hclause, (Outcome.pure_eq_ok.mp h).symm⟩)

theorem lowerCondition_represents {c : Condition} {contribution : Contribution}
    (h : lowerCondition catalog conjunction tags c = .ok contribution) :
    Represents catalog (populatedMembers (unselectedMembers conjunction tags [.condition c]))
      (divertedMembers catalog conjunction tags [.condition c]) contribution := by
  rcases lowerCondition_cases h with
    ⟨hselected, hnested, rfl⟩ | ⟨hselected, hnested, clause, hclause, rfl⟩ |
    ⟨hselected, clause, hclause, rfl⟩
  · simp only [unselectedMembers, IsSelectedMember, hselected, if_true, populatedMembers,
      divertedMembers, ownDiverted, hnested, diverted]
    exact .nil
  · simp only [unselectedMembers, IsSelectedMember, hselected, if_true, populatedMembers,
      divertedMembers, ownDiverted, hnested, diverted]
    exact ⟨.nil, .cons ⟨rfl, hclause⟩ .nil⟩
  · simp only [unselectedMembers, IsSelectedMember, hselected, if_false, populatedMembers,
      divertedMembers, ownDiverted, diverted, false_and, unselected, populated?]
    exact ⟨.cons (means_condition hclause) .nil, .nil⟩

/-- The contribution of a group stands for the group without the conditions that are taken out, if
there is anything left of it. -/
theorem groupContribution_represents {members : List ConditionTree}
    {taken : List (String × Condition)} {contribution : Contribution}
    (h : Represents catalog (populatedMembers members) taken contribution) :
    Represents catalog (populated? (.group conjunction members tags)).toList taken
      (groupContribution conjunction contribution) := by
  obtain ⟨hclauses, hdiverted⟩ := h
  obtain ⟨clauses, diverted⟩ := contribution
  unfold populated?
  cases hpopulated : populatedMembers members with
  | nil =>
      rw [hpopulated] at hclauses
      obtain rfl := List.forall₂_nil_left_iff.mp hclauses
      exact ⟨.nil, hdiverted⟩
  | cons member rest =>
      rw [hpopulated] at hclauses
      obtain ⟨clause, others, -, -, rfl⟩ := List.forall₂_cons_left_iff.mp hclauses
      exact ⟨.cons (means_group hclauses (List.cons_ne_nil _ _)) .nil, hdiverted⟩

mutual

theorem lowerMember_represents {conjunction : Conjunction} {tags : List String} :
    ∀ {member : ConditionTree} {contribution : Contribution},
      lowerMember catalog conjunction tags member = .ok contribution →
        Represents catalog (populatedMembers (unselectedMembers conjunction tags [member]))
          (divertedMembers catalog conjunction tags [member]) contribution
  | .condition _, _, h => lowerCondition_represents h
  | .group inner members innerTags, _, h => by
      obtain ⟨contribution, hmembers, h⟩ := Outcome.bind_eq_ok.mp h
      obtain rfl := Outcome.pure_eq_ok.mp h
      have hgroup : Represents catalog
          (populated? (.group inner (unselectedMembers inner innerTags members) innerTags)).toList
          (divertedMembers catalog inner innerTags members)
          (groupContribution inner contribution) :=
        groupContribution_represents (lowerMembers_represents hmembers)
      simpa [unselectedMembers, IsSelectedMember, populatedMembers, divertedMembers, ownDiverted,
        unselected, diverted] using hgroup

theorem lowerMembers_represents {conjunction : Conjunction} {tags : List String} :
    ∀ {members : List ConditionTree} {contribution : Contribution},
      lowerMembers catalog conjunction tags members = .ok contribution →
        Represents catalog (populatedMembers (unselectedMembers conjunction tags members))
          (divertedMembers catalog conjunction tags members) contribution
  | [], _, h => by
      cases h
      exact .nil
  | member :: rest, _, h => by
      obtain ⟨first, hfirst, h⟩ := Outcome.bind_eq_ok.mp h
      obtain ⟨others, hothers, h⟩ := Outcome.bind_eq_ok.mp h
      obtain rfl := Outcome.pure_eq_ok.mp h
      have happend := (lowerMember_represents hfirst).append (lowerMembers_represents hothers)
      rwa [← populatedMembers_append, ← unselectedMembers_cons, ← divertedMembers_cons] at happend

end

/-- The tree of a group as it filters: without selected conditions and without empty groups. -/
def remainder (group : ConditionGroup) : Option ConditionTree :=
  (ofGroup group).unselected.populated?

/-- What a filter query and post filters say about the condition tree of a query. -/
structure FilterMeaning (catalog : FieldCatalog) (group : ConditionGroup) (parts : FilterParts) :
    Prop where
  remainder_accepted : ∀ tree ∈ remainder group, ∀ c ∈ tree.conditions,
    ∃ clause, conditionClause catalog c = .ok clause
  diverted_accepted : ∀ entry ∈ (ofGroup group).diverted catalog,
    ∃ clause, conditionClause catalog entry.2 = .ok clause
  query_holds_iff : ∀ truth, parts.query.Holds truth ↔
    RemainderHolds (ConditionHolds catalog truth) (remainder group)
  postFilters_names :
    parts.postFilters.names = (((ofGroup group).diverted catalog).map Prod.fst).eraseDups
  postFilter_holds_iff : ∀ key clause, (key, clause) ∈ parts.postFilters → ∀ truth,
    clause.Holds truth ↔
      ∃ c, (key, c) ∈ (ofGroup group).diverted catalog ∧ ConditionHolds catalog truth c

/-- The members of a group that are kept, whose clauses its query is made of. -/
def keptMembers (group : ConditionGroup) : List ConditionTree :=
  populatedMembers (unselectedMembers group.conjunction group.tags group.members)

theorem remainder_eq (group : ConditionGroup) :
    remainder group =
      match keptMembers group with
      | [] => none
      | member :: rest => some (.group group.conjunction (member :: rest) group.tags) := rfl

theorem lowerConditions_represents {group : ConditionGroup} {parts : FilterParts}
    (h : lowerConditions catalog group = .ok parts) :
    ∃ members : Contribution,
      Represents catalog (keptMembers group) ((ofGroup group).diverted catalog) members ∧
      parts.query = groupQuery group.conjunction members.clauses ∧
      parts.postFilters = Entries.mapValues Clause.anyOf (collect members.diverted) := by
  obtain ⟨members, hmembers, h⟩ := Outcome.bind_eq_ok.mp h
  obtain rfl := Outcome.pure_eq_ok.mp h
  exact ⟨members, lowerMembers_represents hmembers, rfl, rfl⟩

theorem conditions_of_remainder {group : ConditionGroup} {tree : ConditionTree}
    (h : tree ∈ remainder group) : tree.conditions = conditionsOf (keptMembers group) := by
  rw [remainder_eq] at h
  cases hkept : keptMembers group with
  | nil =>
      rw [hkept] at h
      cases h
  | cons member rest =>
      rw [hkept] at h
      cases h
      rfl

/-- The query of a whole tree says what is left of the tree, and nothing where nothing is left. -/
theorem groupQuery_holds_iff_remainder {truth : Truth} {group : ConditionGroup}
    {clauses : List Clause} (h : List.Forall₂ (Means catalog) (keptMembers group) clauses) :
    (groupQuery group.conjunction clauses).Holds truth ↔
      RemainderHolds (ConditionHolds catalog truth) (remainder group) := by
  rw [remainder_eq]
  cases hkept : keptMembers group with
  | nil =>
      rw [hkept] at h
      rw [List.forall₂_nil_left_iff.mp h, groupQuery_holds_iff]
      cases group.conjunction with
      | and => simp [RemainderHolds]
      | or => simp [RemainderHolds]
  | cons member rest =>
      rw [hkept] at h
      exact (means_group h (List.cons_ne_nil _ _)).holds_iff truth

theorem accepted_of_diverts {taken : List (String × Condition)} {diverted : List (String × Clause)}
    (h : List.Forall₂ (Diverts catalog) taken diverted) :
    ∀ entry ∈ taken, ∃ clause, conditionClause catalog entry.2 = .ok clause := by
  intro entry hentry
  obtain ⟨lowered, -, hdiverts⟩ := Outcome.exists_of_forall₂ h hentry
  exact ⟨lowered.2, hdiverts.2⟩

/-- Diverted conditions and their clauses have the same keys in the same order. -/
theorem map_fst_of_diverts {taken : List (String × Condition)} {diverted : List (String × Clause)}
    (h : List.Forall₂ (Diverts catalog) taken diverted) :
    taken.map Prod.fst = diverted.map Prod.fst := by
  induction h with
  | nil => rfl
  | cons hentry _ ih => rw [List.map_cons, List.map_cons, ih, hentry.1]

theorem exists_diverted_holds_iff {truth : Truth} {taken : List (String × Condition)}
    {diverted : List (String × Clause)} (h : List.Forall₂ (Diverts catalog) taken diverted)
    (key : String) :
    (∃ clause, (key, clause) ∈ diverted ∧ clause.Holds truth) ↔
      ∃ c, (key, c) ∈ taken ∧ ConditionHolds catalog truth c := by
  induction h with
  | nil => simp
  | @cons entry lowered _ _ hentry _ ih =>
      obtain ⟨name, c⟩ := entry
      obtain ⟨name', clause⟩ := lowered
      obtain ⟨rfl, hclause⟩ := hentry
      simp only [List.mem_cons, Prod.mk.injEq, or_and_right, exists_or, ih, and_assoc,
        exists_and_left, exists_eq_left, conditionHolds_iff hclause]

/-- The filter and the post filters of an accepted condition tree mean what the tree says. -/
theorem lowerConditions_meaning {group : ConditionGroup} {parts : FilterParts}
    (h : lowerConditions catalog group = .ok parts) : FilterMeaning catalog group parts := by
  obtain ⟨members, ⟨hclauses, hdiverted⟩, hquery, hpost⟩ := lowerConditions_represents h
  refine ⟨?accepted, accepted_of_diverts hdiverted, ?query, ?names, ?postFilter⟩
  case accepted =>
    intro tree htree
    rw [conditions_of_remainder htree]
    exact accepted_of_forall₂ hclauses
  case query =>
    intro truth
    rw [hquery]
    exact groupQuery_holds_iff_remainder hclauses
  case names =>
    rw [hpost, Entries.names_mapValues, names_collect, map_fst_of_diverts hdiverted]
  case postFilter =>
    intro key clause hmem truth
    rw [hpost] at hmem
    obtain ⟨⟨name, clauses⟩, hcollected, heq⟩ := List.mem_map.mp hmem
    obtain ⟨hname, rfl⟩ := Prod.mk.inj heq
    obtain ⟨hvalues, hne⟩ := values_of_mem_collect hcollected
    rw [Clause.holds_anyOf hne, ← exists_diverted_holds_iff hdiverted key, hvalues]
    simp only [mem_valuesNamed, ← hname]

/-- Colors and sizes of goods, and offers as nested objects. -/
def goodsCatalog : FieldCatalog where
  entries :=
    [("color", { id := "color" }), ("size", { id := "size" }),
      ("offers", { id := "offers", type := .nestedObject })]

/-- A selection of colors and of a size, and a selection of offers, beside an ordinary condition. -/
def goodsConditions : ConditionGroup where
  members :=
    [.group .or
      [.condition { field := "color", value := .str "red" },
        .condition { field := "color", value := .str "blue" },
        .group .or [.condition { field := "size", value := .str "L" }]
          ["facet:size", "facet_id:sizes"]]
      ["facet:color"],
     .group .or [.condition { field := "offers.kind", value := .str "new" }] ["facet:offers.kind"],
     .group .or
      [.condition { field := "color", value := .str "green" },
        .condition { field := "size", value := .str "S" }]
      ["facet:color"]]

def goodsParts : FilterParts where
  query := { filter := [.bool [] [.term "size" (.str "S")] [] []] }
  postFilters :=
    [("color", .bool [] [.term "color" (.str "red"), .term "color" (.str "blue"),
        .term "color" (.str "green")] [] []),
      ("sizes", .term "size" (.str "L"))]

theorem goodsParts_meaning :
    lowerConditions goodsCatalog goodsConditions = .ok goodsParts ∧
      FilterMeaning goodsCatalog goodsConditions goodsParts :=
  ⟨rfl, lowerConditions_meaning rfl⟩

end FacetedSearch.Lowering
