import FacetedSearch.Proofs.ComparedValues
import FacetedSearch.Proofs.ContraryConditions

/-!
Lists of values as alternatives. A condition that asks for one of the listed values and an
alternative group with one condition for each of them are lowered alike: they match the same
documents, in nested objects too, and selected they give post filters that do.
-/

namespace FacetedSearch.Lowering

open ConditionTree

variable {catalog : FieldCatalog} {field : String} {conjunction : Conjunction}
  {tags : List String}

/-- Conditions that the value of a field is one each of the given ones. -/
def equalities (field : String) (values : List Value) : List Condition :=
  values.map (Operator.equal.condition field)

/-- Filters that match the same documents, with post filters of the same facets that do. -/
structure FilterParts.Agree (first second : FilterParts) : Prop where
  query : ∀ backend document, first.query.toClause.Matches backend document ↔
    second.query.toClause.Matches backend document
  postFilters : List.Forall₂
    (fun entry other => entry.1 = other.1 ∧ ∀ backend document,
      entry.2.Matches backend document ↔ other.2.Matches backend document)
    first.postFilters second.postFilters

/-- Two condition trees are both accepted, and their filters agree, with post filters of the facets
that are named. -/
def AreLoweredAlike (catalog : FieldCatalog) (names : List String)
    (first second : ConditionGroup) : Prop :=
  ∃ parts others, lowerConditions catalog first = .ok parts ∧
    lowerConditions catalog second = .ok others ∧
    parts.postFilters.names = names ∧ parts.Agree others

theorem comparedValue_ne_null {c : Condition} {compared : Value}
    (h : comparedValue catalog c = .ok compared) (hvalue : c.value ≠ .null) :
    compared ≠ .null := by
  obtain ⟨value, hcompared, hnull, -⟩ := comparedValue_total catalog c
  cases h.symm.trans hcompared
  exact mt hnull.mp hvalue

theorem conditionClause_equal {value compared : Value} (hvalue : value ≠ .null)
    (h : comparedValue catalog (Operator.equal.condition field value) = .ok compared) :
    conditionClause catalog (Operator.equal.condition field value) =
      .ok (placed catalog field (.term (FieldPath.dotted field) compared)) := by
  refine conditionClause_eq_ok_iff.mpr ⟨_, ?_, rfl⟩
  rw [flatClause_condition h, if_neg (comparedValue_ne_null h hvalue)]
  rfl

theorem conditionClauses_equalities {values sought : List Value} (hvalues : .null ∉ values)
    (h : List.Forall₂ (fun value compared =>
      comparedValue catalog (Operator.equal.condition field value) = .ok compared) values sought) :
    List.Forall₂ (fun c clause => conditionClause catalog c = .ok clause) (equalities field values)
      (sought.map fun value => placed catalog field (.term (FieldPath.dotted field) value)) := by
  rw [equalities, List.forall₂_map_left_iff, List.forall₂_map_right_iff]
  induction h with
  | nil => exact .nil
  | cons hfirst _ ih =>
      rw [List.mem_cons, not_or] at hvalues
      exact .cons (conditionClause_equal (Ne.symm hvalues.1) hfirst) (ih hvalues.2)

variable {backend : Backend} {document : Document}

/-- A document has one of the sought values where it has the first, or the second, and so on. In
nested objects the values are sought in the objects one by one. -/
theorem matches_placed_terms {path : String} {sought : List Value} :
    (placed catalog field (.terms path sought)).Matches backend document ↔
      ∃ clause ∈ sought.map fun value => placed catalog field (.term path value),
        clause.Matches backend document := by
  simp only [List.mem_map, exists_exists_and_eq_and]
  cases hnested : catalog.isNestedField field with
  | true =>
      simp only [matches_placed_of_nested hnested, Clause.Matches]
      constructor
      · rintro ⟨object, hobject, value, hvalue, wanted, hwanted, hequals⟩
        exact ⟨wanted, hwanted, object, hobject, value, hvalue, hequals⟩
      · rintro ⟨wanted, hwanted, object, hobject, value, hvalue, hequals⟩
        exact ⟨object, hobject, value, hvalue, wanted, hwanted, hequals⟩
  | false =>
      simp only [placed_of_flat hnested, Clause.Matches]
      constructor
      · rintro ⟨value, hvalue, wanted, hwanted, hequals⟩
        exact ⟨wanted, hwanted, value, hvalue, hequals⟩
      · rintro ⟨wanted, hwanted, value, hvalue, hequals⟩
        exact ⟨value, hvalue, wanted, hwanted, hequals⟩

/-- A listing and its equalities have clauses, and the clause of the listing matches the documents
that one of the others matches. -/
theorem exists_clauses_isIn (catalog : FieldCatalog) (field : String) {listed : Value}
    {values : List Value}
    (hlisted : listed.sequence? = some values) (hnull : .null ∉ values) :
    ∃ listing clauses,
      conditionClause catalog (Operator.isIn.condition field listed) = .ok listing ∧
      List.Forall₂ (fun c clause => conditionClause catalog c = .ok clause)
        (equalities field values) clauses ∧
      ∀ backend document, listing.Matches backend document ↔
        ∃ clause ∈ clauses, clause.Matches backend document := by
  obtain ⟨compared, sought, hcompared, hsought, hitem⟩ :=
    comparedValue_of_sequence catalog (Operator.isIn.condition field listed) hlisted
  have hlistedNull : listed ≠ .null := by
    rintro rfl
    cases hlisted
  have hflat : flatClause catalog (Operator.isIn.condition field listed) =
      .ok (.terms (FieldPath.dotted field) sought) := by
    rw [flatClause_condition hcompared, if_neg (comparedValue_ne_null hcompared hlistedNull),
      comparisonClause, Clause.oneOf, hsought, Option.getD_some]
  refine ⟨_, _, conditionClause_eq_ok_iff.mpr ⟨_, hflat, rfl⟩,
    conditionClauses_equalities hnull hitem, ?_⟩
  intro backend document
  exact matches_placed_terms

/-- Conditions that are not selected are lowered in their place. -/
theorem lowerMembers_of_unselected (conjunction : Conjunction) (tags : List String)
    {conditions : List Condition} {clauses : List Clause}
    (hknown : ∀ c ∈ conditions, catalog.Knows c.field)
    (hunselected : ∀ c ∈ conditions, ¬IsSelected conjunction tags c)
    (h : List.Forall₂ (fun c clause => conditionClause catalog c = .ok clause) conditions
      clauses) :
    lowerMembers catalog conjunction tags (conditions.map .condition) = .ok { clauses } := by
  induction h with
  | nil => rfl
  | cons hclause _ ih =>
      rw [List.forall_mem_cons] at hknown hunselected
      obtain ⟨known, hresolve⟩ := FieldCatalog.resolve_of_knows hknown.1
      have hselection := mt isSelection_iff.mp hunselected.1
      rw [List.map_cons, lowerMembers, lowerMember, lowerCondition, hresolve, Outcome.bind_ok,
        if_neg hselection, hclause, ih hknown.2 hunselected.2]
      rfl

/-- Selected conditions on one flat field are diverted to the facet of their group. -/
theorem lowerMembers_of_selected {conditions : List Condition} {clauses : List Clause}
    (hfield : ∀ c ∈ conditions, c.field = field) (hknown : catalog.Knows field)
    (hflat : catalog.isNestedField field = false) (htag : facetTag field ∈ tags)
    (h : List.Forall₂ (fun c clause => conditionClause catalog c = .ok clause) conditions
      clauses) :
    lowerMembers catalog .or tags (conditions.map .condition) =
      .ok { diverted := clauses.map fun clause => (facetKey tags field, clause) } := by
  obtain ⟨known, hresolve⟩ := FieldCatalog.resolve_of_knows hknown
  induction h with
  | nil => rfl
  | @cons c clause _ _ hclause _ ih =>
      obtain ⟨rfl, hrest⟩ := List.forall_mem_cons.mp hfield
      have hselection : isSelection .or tags c.field = true := isSelection_iff.mpr ⟨rfl, htag⟩
      rw [List.map_cons, lowerMembers, lowerMember, lowerCondition, hresolve, Outcome.bind_ok,
        if_pos hselection, hflat, if_neg Bool.false_ne_true, hclause, ih hrest]
      rfl

/-- A group inside of another contributes what its members make of it. -/
theorem lowerMembers_group (conjunction : Conjunction) (tags : List String) {inner : Conjunction}
    {innerTags : List String} {members : List ConditionTree} {contribution : Contribution}
    (h : lowerMembers catalog inner innerTags members = .ok contribution) :
    lowerMembers catalog conjunction tags [.group inner members innerTags] =
      .ok (groupContribution inner contribution) := by
  rw [lowerMembers, lowerMember, h]
  simp [lowerMembers, Contribution.append]

theorem groupContribution_of_clauses {clauses : List Clause} (h : clauses ≠ []) :
    groupContribution conjunction { clauses } =
      { clauses := [(groupQuery conjunction clauses).toClause] } :=
  if_neg (mt List.isEmpty_iff.mp h)

theorem lowerConditions_of_members {group : ConditionGroup} {members : Contribution}
    (h : lowerMembers catalog group.conjunction group.tags group.members = .ok members) :
    lowerConditions catalog group = .ok {
      query := groupQuery group.conjunction members.clauses
      postFilters := Entries.mapValues Clause.anyOf (collect members.diverted) } := by
  rw [lowerConditions, h]
  rfl

theorem matches_groupQuery_and {clauses : List Clause} :
    (groupQuery .and clauses).toClause.Matches backend document ↔
      ∀ clause ∈ clauses, clause.Matches backend document := by
  simp only [Clause.matches_iff_holds]
  exact groupQuery_holds_iff

theorem matches_groupQuery_or {clauses : List Clause} (hclauses : clauses ≠ []) :
    (groupQuery .or clauses).toClause.Matches backend document ↔
      ∃ clause ∈ clauses, clause.Matches backend document := by
  simp only [Clause.matches_iff_holds]
  exact groupQuery_holds_iff.trans (or_iff_right hclauses)

theorem matches_anyOf {clauses : List Clause} (hclauses : clauses ≠ []) :
    (Clause.anyOf clauses).Matches backend document ↔
      ∃ clause ∈ clauses, clause.Matches backend document := by
  simp only [Clause.matches_iff_holds]
  exact Clause.holds_anyOf hclauses

/-- Groups that filter by one clause, and by a group of alternatives that match the documents it
matches, are lowered alike. -/
theorem areLoweredAlike_of_filtered {members others : List ConditionTree} {clause : Clause}
    {clauses : List Clause}
    (hmembers : lowerMembers catalog .and tags members = .ok { clauses := [clause] })
    (hothers : lowerMembers catalog .and tags others =
      .ok { clauses := [(groupQuery .or clauses).toClause] })
    (hclauses : clauses ≠ [])
    (h : ∀ backend document, clause.Matches backend document ↔
      ∃ other ∈ clauses, other.Matches backend document) :
    AreLoweredAlike catalog [] { members, tags } { members := others, tags } := by
  refine ⟨_, _, lowerConditions_of_members hmembers, lowerConditions_of_members hothers, rfl,
    ?query, .nil⟩
  case query =>
    intro backend document
    calc (groupQuery .and [clause]).toClause.Matches backend document
        ↔ clause.Matches backend document := by
          rw [matches_groupQuery_and, List.forall_mem_singleton]
      _ ↔ ∃ other ∈ clauses, other.Matches backend document := h backend document
      _ ↔ (groupQuery .or clauses).toClause.Matches backend document :=
          (matches_groupQuery_or hclauses).symm
      _ ↔ (groupQuery .and [(groupQuery .or clauses).toClause]).toClause.Matches backend
            document := by
          rw [matches_groupQuery_and, List.forall_mem_singleton]

/-- A group with one member and a group with several, all of them diverted to one facet, are lowered
alike where the one clause matches the documents that some of the others match. -/
theorem areLoweredAlike_of_diverted {first second : ConditionGroup} {key : String}
    {clause : Clause} {others : List Clause} (hconjunction : first.conjunction = second.conjunction)
    (hfirst : lowerMembers catalog first.conjunction first.tags first.members =
      .ok { diverted := [(key, clause)] })
    (hsecond : lowerMembers catalog second.conjunction second.tags second.members =
      .ok { diverted := others.map fun other => (key, other) })
    (hothers : others ≠ [])
    (h : ∀ backend document, clause.Matches backend document ↔
      ∃ other ∈ others, other.Matches backend document) :
    AreLoweredAlike catalog [key] first second := by
  refine ⟨_, _, lowerConditions_of_members hfirst, lowerConditions_of_members hsecond, rfl,
    ?query, ?postFilters⟩
  case query =>
    intro backend document
    rw [hconjunction]
  case postFilters =>
    rw [collect_of_same_name key hothers]
    refine .cons ⟨rfl, ?_⟩ .nil
    intro backend document
    exact (h backend document).trans (matches_anyOf hothers).symm

/-- The listing of values and the group of their equalities are lowered alike, as members of a
group and as the selection of a facet, which stands by itself or within a group. -/
structure ListsAlternatives (catalog : FieldCatalog) (field : String) (listed : Value)
    (values : List Value) : Prop where
  unselected : ∀ outer inner, facetTag field ∉ inner →
    AreLoweredAlike catalog []
      { members := [.condition (Operator.isIn.condition field listed)], tags := outer }
      { members := [.group .or ((equalities field values).map .condition) inner], tags := outer }
  selected : catalog.isNestedField field = false → ∀ tags, facetTag field ∈ tags →
    AreLoweredAlike catalog [facetKey tags field]
      { conjunction := .or
        members := [.condition (Operator.isIn.condition field listed)], tags }
      { conjunction := .or
        members := (equalities field values).map .condition, tags }
  selectedWithin : catalog.isNestedField field = false → ∀ outer tags, facetTag field ∈ tags →
    AreLoweredAlike catalog [facetKey tags field]
      { members := [.group .or [.condition (Operator.isIn.condition field listed)] tags]
        tags := outer }
      { members := [.group .or ((equalities field values).map .condition) tags]
        tags := outer }

theorem field_of_mem_equalities {values : List Value} :
    ∀ c ∈ equalities field values, c.field = field := by
  intro c hc
  obtain ⟨value, -, rfl⟩ := List.mem_map.mp hc
  rfl

/-- A listing on a known field asks for each of its values as a condition on that value does. -/
theorem isIn_listsAlternatives {listed : Value} {values : List Value}
    (hknown : catalog.Knows field) (hlisted : listed.sequence? = some values)
    (hne : values ≠ []) (hnull : .null ∉ values) :
    ListsAlternatives catalog field listed values := by
  obtain ⟨listing, clauses, hlisting, hequalities, hmatches⟩ :=
    exists_clauses_isIn catalog field hlisted hnull
  have hlisting : List.Forall₂ (fun c clause => conditionClause catalog c = .ok clause)
      [Operator.isIn.condition field listed] [listing] := .cons hlisting .nil
  have hclauses : clauses ≠ [] := by
    rintro rfl
    exact hne (List.map_eq_nil_iff.mp (List.forall₂_nil_right_iff.mp hequalities))
  have hlistingField : ∀ c ∈ [Operator.isIn.condition field listed], c.field = field := by
    simp [Operator.condition]
  have hequalField : ∀ c ∈ equalities field values, c.field = field := field_of_mem_equalities
  refine ⟨?unselected, ?selected, ?selectedWithin⟩
  case unselected =>
    intro outer inner hinner
    have hone := lowerMembers_of_unselected .and outer
      (fun c hc => (hlistingField c hc).symm ▸ hknown)
      (fun c _ hselected => absurd hselected.1 (by decide)) hlisting
    have heach := lowerMembers_of_unselected .or inner
      (fun c hc => (hequalField c hc).symm ▸ hknown)
      (fun c hc hselected => hinner (hequalField c hc ▸ hselected.2)) hequalities
    have hgroup := lowerMembers_group .and outer heach
    rw [groupContribution_of_clauses hclauses] at hgroup
    exact areLoweredAlike_of_filtered hone hgroup hclauses hmatches
  case selected =>
    intro hflat tags htag
    exact areLoweredAlike_of_diverted rfl
      (lowerMembers_of_selected hlistingField hknown hflat htag hlisting)
      (lowerMembers_of_selected hequalField hknown hflat htag hequalities)
      hclauses hmatches
  case selectedWithin =>
    intro hflat outer tags htag
    have hone := lowerMembers_group .and outer
      (lowerMembers_of_selected hlistingField hknown hflat htag hlisting)
    have heach := lowerMembers_group .and outer
      (lowerMembers_of_selected hequalField hknown hflat htag hequalities)
    exact areLoweredAlike_of_diverted rfl hone heach hclauses hmatches

/-- Whether goods are sold, and whether single offers of them are. -/
def soldCatalog : FieldCatalog where
  entries :=
    [("sold", { id := "sold", type := .boolean }),
      ("offers", { id := "offers", type := .nestedObject }),
      ("offers__sold", { id := "offers__sold", type := .boolean })]

/-- Truth values as they are written in different places. -/
def soldValues : List Value := [.bool true, .str " FALSE ", .int 0]

theorem soldCatalog_listsAlternatives :
    soldCatalog.Knows "sold" ∧ soldCatalog.Knows "offers__sold" ∧
      (Value.list soldValues).sequence? = some soldValues ∧ soldValues ≠ [] ∧
      .null ∉ soldValues ∧
      ListsAlternatives soldCatalog "sold" (.list soldValues) soldValues ∧
      ListsAlternatives soldCatalog "offers__sold" (.list soldValues) soldValues := by
  have hflat : soldCatalog.Knows "sold" := by decide
  have hnested : soldCatalog.Knows "offers__sold" := by decide
  have hnull : .null ∉ soldValues := by decide
  exact ⟨hflat, hnested, rfl, List.cons_ne_nil _ _, hnull,
    isIn_listsAlternatives hflat rfl (List.cons_ne_nil _ _) hnull,
    isIn_listsAlternatives hnested rfl (List.cons_ne_nil _ _) hnull⟩

end FacetedSearch.Lowering
