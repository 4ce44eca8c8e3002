import FacetedSearch.Proofs.CatalogResolution
import FacetedSearch.Proofs.ConditionLowering

/-!
Which condition trees are accepted. Every field must be known, and every condition that is lowered
needs a value that suits its operator. Conditions that are skipped, as selections on nested fields,
are not looked into any further.
-/

namespace FacetedSearch

/-- A list or a tuple of two elements. -/
def Value.IsPair (value : Value) : Prop := value.sequence?.map List.length = some 2

instance (value : Value) : Decidable value.IsPair := inferInstanceAs (Decidable (_ = _))

/-- Operators that compare with the two ends of a range. -/
def Operator.isRange : Operator → Bool
  | .between | .notBetween => true
  | _ => false

/-- Operators that ask for presence take no value, and those of ranges take a pair. -/
structure Operator.Suits (operator : Operator) (value : Value) : Prop where
  given : value = .null → operator = .equal ∨ operator = .notEqual
  pair : operator.isRange = true → value.IsPair

instance (operator : Operator) (value : Value) : Decidable (operator.Suits value) :=
  decidable_of_iff
    ((value = .null → operator = .equal ∨ operator = .notEqual) ∧
      (operator.isRange = true → value.IsPair))
    ⟨fun h => ⟨h.1, h.2⟩, fun h => ⟨h.given, h.pair⟩⟩

/-- A condition with a supported operator and a value that suits it. -/
def Condition.IsWellFormed (c : Condition) : Prop :=
  ∃ operator ∈ c.operator?, operator.Suits c.value

instance (c : Condition) : Decidable c.IsWellFormed :=
  inferInstanceAs (Decidable (∃ operator ∈ c.operator?, operator.Suits c.value))

namespace ConditionTree

/-- A selected condition on a nested field, whose facet builds the selection. -/
def IsSkippedMember (catalog : FieldCatalog) (conjunction : Conjunction) (tags : List String) :
    ConditionTree → Prop
  | .condition c => IsSelected conjunction tags c ∧ catalog.isNestedField c.field = true
  | .group .. => False

instance (catalog : FieldCatalog) (conjunction : Conjunction) (tags : List String)
    (member : ConditionTree) : Decidable (IsSkippedMember catalog conjunction tags member) :=
  match member with
  | .condition _ => inferInstanceAs (Decidable (_ ∧ _))
  | .group .. => inferInstanceAs (Decidable False)

mutual

/-- The conditions of a tree that are not skipped. -/
def unskipped (catalog : FieldCatalog) : ConditionTree → List Condition
  | .condition c => [c]
  | .group conjunction members tags => unskippedOf catalog conjunction tags members

def unskippedOf (catalog : FieldCatalog) (conjunction : Conjunction) (tags : List String) :
    List ConditionTree → List Condition
  | [] => []
  | member :: rest =>
    if IsSkippedMember catalog conjunction tags member then
      unskippedOf catalog conjunction tags rest
    else member.unskipped catalog ++ unskippedOf catalog conjunction tags rest

end

/-- A tree on known fields whose conditions are well formed where they are not skipped. -/
structure IsAccepted (catalog : FieldCatalog) (tree : ConditionTree) : Prop where
  known : ∀ c ∈ tree.conditions, catalog.Knows c.field
  wellFormed : ∀ c ∈ tree.unskipped catalog, c.IsWellFormed

instance (catalog : FieldCatalog) (tree : ConditionTree) : Decidable (tree.IsAccepted catalog) :=
  decidable_of_iff
    ((∀ c ∈ tree.conditions, catalog.Knows c.field) ∧
      ∀ c ∈ tree.unskipped catalog, c.IsWellFormed)
    ⟨fun h => ⟨h.1, h.2⟩, fun h => ⟨h.known, h.wellFormed⟩⟩

theorem unskippedOf_cons (catalog : FieldCatalog) (conjunction : Conjunction) (tags : List String)
    (member : ConditionTree) (rest : List ConditionTree) :
    unskippedOf catalog conjunction tags (member :: rest) =
      unskippedOf catalog conjunction tags [member] ++
        unskippedOf catalog conjunction tags rest := by
  simp only [unskippedOf]
  split_ifs with h
  · rfl
  · rw [List.append_nil]

end ConditionTree

namespace FieldCatalog

mutual

/-- Conversion to truth values never fails, and keeps null and the length of sequences. -/
theorem coerceTo_boolean :
    ∀ value : Value, ∃ converted, coerceTo (some .boolean) value = .ok converted ∧
      (converted = .null ↔ value = .null) ∧
        converted.sequence?.map List.length = value.sequence?.map List.length
  | .null => ⟨.null, rfl, Iff.rfl, rfl⟩
  | .list items => by
      obtain ⟨converted, hconverted, hlength⟩ := coerceAll_boolean items
      refine ⟨.list converted, ?_, by simp, by simp [Value.sequence?, hlength]⟩
      rw [coerceTo, hconverted]
      rfl
  | .tuple items => by
      obtain ⟨converted, hconverted, hlength⟩ := coerceAll_boolean items
      refine ⟨.tuple converted, ?_, by simp, by simp [Value.sequence?, hlength]⟩
      rw [coerceTo, hconverted]
      rfl
  | .bool flag => ⟨toBoolean (.bool flag), rfl, by simp [toBoolean], rfl⟩
  | .int i => ⟨toBoolean (.int i), rfl, by simp [toBoolean], rfl⟩
  | .float x => ⟨toBoolean (.float x), rfl, by simp [toBoolean], rfl⟩
  | .str text => ⟨toBoolean (.str text), rfl, by simp [toBoolean], rfl⟩
  | .set members => ⟨toBoolean (.set members), rfl, by simp [toBoolean], rfl⟩
  | .object entries => ⟨toBoolean (.object entries), rfl, by simp [toBoolean], rfl⟩

theorem coerceAll_boolean :
    ∀ values : List Value, ∃ converted, coerceAll (some .boolean) values = .ok converted ∧
      converted.length = values.length
  | [] => ⟨[], rfl, rfl⟩
  | value :: rest => by
      obtain ⟨first, hfirst, -⟩ := coerceTo_boolean value
      obtain ⟨others, hothers, hlength⟩ := coerceAll_boolean rest
      refine ⟨first :: others, ?_, by simp [hlength]⟩
      rw [coerceAll, hfirst, Outcome.bind_ok, hothers]
      rfl

end

end FieldCatalog

namespace Lowering

open ConditionTree
open Outcome (AcceptsIff)

variable {catalog : FieldCatalog}

/-- The value that is compared suits the same operators as the value of the condition. -/
theorem comparedValue_total (catalog : FieldCatalog) (c : Condition) :
    ∃ value, comparedValue catalog c = .ok value ∧ (value = .null ↔ c.value = .null) ∧
      (value.IsPair ↔ c.value.IsPair) := by
  unfold comparedValue
  split_ifs with htype
  · obtain ⟨value, hvalue, hnull, hlength⟩ := FieldCatalog.coerceTo_boolean c.value
    refine ⟨value, ?_, hnull, ?_⟩
    · rw [FieldCatalog.coerce, htype, hvalue]
    · rw [Value.IsPair, Value.IsPair, hlength]
  · exact ⟨c.value, rfl, Iff.rfl, Iff.rfl⟩

theorem betweenClause_acceptsIff (id field : String) (value : Value) :
    AcceptsIff value.IsPair (betweenClause id field value) := by
  unfold betweenClause
  split
  case h_1 lower upper hvalue =>
      exact .accepted _ (by simp [Value.IsPair, hvalue])
  case h_2 hvalue =>
      refine .refused rfl fun hpair => ?_
      obtain ⟨items, hitems, hlength⟩ := Option.map_eq_some_iff.mp hpair
      obtain ⟨lower, upper, rfl⟩ := List.length_eq_two.mp hlength
      exact hvalue lower upper hitems

theorem comparisonClause_acceptsIff (id field : String) (operator : Operator) (value : Value) :
    AcceptsIff (operator.isRange = true → value.IsPair)
      (comparisonClause id field operator value) := by
  have hbetween := betweenClause_acceptsIff id field value
  cases operator with
  | between => exact hbetween.congr (by simp [Operator.isRange])
  | notBetween =>
      exact (hbetween.bind_total fun clause _ => ⟨_, rfl⟩).congr (by simp [Operator.isRange])
  | _ => exact .accepted _ (by simp [Operator.isRange])

theorem presenceClause_acceptsIff (id field : String) (operator : Operator) :
    AcceptsIff (operator = .equal ∨ operator = .notEqual) (presenceClause id field operator) := by
  cases operator with
  | equal => exact .accepted _ (.inl rfl)
  | notEqual => exact .accepted _ (.inr rfl)
  | _ => exact .refused rfl (by simp)

/-- Null suits the operators that ask for presence; any other value suits all but those of ranges,
which take a pair. -/
theorem suits_iff {operator : Operator} {value : Value} :
    operator.Suits value ↔
      if value = .null then operator = .equal ∨ operator = .notEqual
      else operator.isRange = true → value.IsPair := by
  split_ifs with hnull
  · constructor
    · intro hsuits
      exact hsuits.given hnull
    · intro hpresence
      refine ⟨fun _ => hpresence, fun hrange => ?_⟩
      rcases hpresence with rfl | rfl
      · cases hrange
      · cases hrange
  · exact ⟨fun hsuits => hsuits.pair, fun hpair => ⟨fun h => absurd h hnull, hpair⟩⟩

theorem flatClause_acceptsIff (catalog : FieldCatalog) (c : Condition) :
    AcceptsIff c.IsWellFormed (flatClause catalog c) := by
  obtain ⟨value, hvalue, hnull, hpair⟩ := comparedValue_total catalog c
  unfold flatClause Condition.IsWellFormed
  rw [hvalue, Outcome.bind_ok]
  cases c.operator? with
  | none => exact .refused rfl (by simp)
  | some operator =>
      -- The converted value is null, or a pair, exactly where the given one is.
      have hsuits : operator.Suits value ↔ operator.Suits c.value := by
        simp only [suits_iff, hnull, hpair]
      have hclause : AcceptsIff (operator.Suits value)
          (if value = .null then presenceClause c.field (FieldPath.dotted c.field) operator
            else comparisonClause c.field (FieldPath.dotted c.field) operator value) := by
        rw [suits_iff]
        split_ifs with h
        · exact presenceClause_acceptsIff _ _ operator
        · exact comparisonClause_acceptsIff _ _ operator value
      exact hclause.congr (by simp [hsuits])

/-- A condition has a clause exactly when it is well formed, whatever its field is. -/
theorem conditionClause_acceptsIff (catalog : FieldCatalog) (c : Condition) :
    AcceptsIff c.IsWellFormed (conditionClause catalog c) := by
  refine (flatClause_acceptsIff catalog c).bind_total fun clause _ => ?_
  split_ifs
  · exact ⟨_, rfl⟩
  · exact ⟨_, rfl⟩

/-- A list of members on known fields that are well formed where they are not skipped. -/
def AreAccepted (catalog : FieldCatalog) (conjunction : Conjunction) (tags : List String)
    (members : List ConditionTree) : Prop :=
  (∀ c ∈ conditionsOf members, catalog.Knows c.field) ∧
    ∀ c ∈ unskippedOf catalog conjunction tags members, c.IsWellFormed

theorem areAccepted_cons {conjunction : Conjunction} {tags : List String} {member : ConditionTree}
    {rest : List ConditionTree} :
    AreAccepted catalog conjunction tags (member :: rest) ↔
      AreAccepted catalog conjunction tags [member] ∧
        AreAccepted catalog conjunction tags rest := by
  rw [AreAccepted, unskippedOf_cons]
  simp only [AreAccepted, conditionsOf, List.append_nil, List.forall_mem_append]
  tauto

theorem lowerCondition_acceptsIff (catalog : FieldCatalog) (conjunction : Conjunction)
    (tags : List String) (c : Condition) :
    AcceptsIff (AreAccepted catalog conjunction tags [.condition c])
      (lowerCondition catalog conjunction tags c) := by
  have hclause := conditionClause_acceptsIff catalog c
  have hresolve := catalog.resolve_acceptsIff c.field
  simp only [AreAccepted, conditionsOf, unskippedOf, conditions, unskipped, IsSkippedMember,
    ← isSelection_iff]
  unfold lowerCondition
  by_cases hselected : isSelection conjunction tags c.field = true
  · rw [if_pos hselected]
    cases hnested : catalog.isNestedField c.field with
    | true =>
        -- The field of a skipped condition is resolved all the same, but no clause is made.
        rw [if_pos rfl]
        refine (hresolve.bind_total fun _ _ => ⟨_, rfl⟩).congr ?_
        simp [hselected]
    | false =>
        rw [if_neg Bool.false_ne_true]
        refine (hresolve.bind fun _ _ => hclause.bind_total fun _ _ => ⟨_, rfl⟩).congr ?_
        simp
  · rw [if_neg hselected]
    refine (hresolve.bind fun _ _ => hclause.bind_total fun _ _ => ⟨_, rfl⟩).congr ?_
    simp [hselected]

mutual

theorem lowerMember_acceptsIff (catalog : FieldCatalog) (conjunction : Conjunction)
    (tags : List String) :
    ∀ member : ConditionTree, AcceptsIff (AreAccepted catalog conjunction tags [member])
      (lowerMember catalog conjunction tags member)
  | .condition c => lowerCondition_acceptsIff catalog conjunction tags c
  | .group inner members innerTags => by
      have hmembers := lowerMembers_acceptsIff catalog inner innerTags members
      refine (hmembers.bind_total fun _ _ => ⟨_, rfl⟩).congr ?_
      simp [AreAccepted, conditionsOf, unskippedOf, conditions, unskipped, IsSkippedMember]

theorem lowerMembers_acceptsIff (catalog : FieldCatalog) (conjunction : Conjunction)
    (tags : List String) :
    ∀ members : List ConditionTree, AcceptsIff (AreAccepted catalog conjunction tags members)
      (lowerMembers catalog conjunction tags members)
  | [] => .accepted _ (by simp [AreAccepted, conditionsOf, unskippedOf])
  | member :: rest => by
      have hmember := lowerMember_acceptsIff catalog conjunction tags member
      have hrest := lowerMembers_acceptsIff catalog conjunction tags rest
      exact (hmember.bind fun _ _ => hrest.bind_total fun _ _ => ⟨_, rfl⟩).congr
        areAccepted_cons.symm

end

/-- The tree of a query is accepted or the request is at fault. -/
theorem lowerConditions_acceptsIff (catalog : FieldCatalog) (group : ConditionGroup) :
    AcceptsIff ((ofGroup group).IsAccepted catalog) (lowerConditions catalog group) := by
  have hmembers := lowerMembers_acceptsIff catalog group.conjunction group.tags group.members
  refine (hmembers.bind_total fun _ _ => ⟨_, rfl⟩).congr ?_
  exact ⟨fun h => ⟨h.1, h.2⟩, fun h => ⟨h.known, h.wellFormed⟩⟩

end Lowering

end FacetedSearch
