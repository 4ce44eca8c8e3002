import FacetedSearch.Proofs.ConditionAcceptance
import FacetedSearch.Proofs.DocumentMatching

/-!
Conditions that say the contrary of others. On flat fields the clause of the one matches exactly the
documents that the clause of the other does not. In nested objects both ask for one object, which
the comparison matches or does not match, so that the two are contrary of the documents that have
objects of one kind only and at least one of them.
-/

namespace FacetedSearch

/-- The operator whose contrary an operator says. Without a value they say whether there is one. -/
def Operator.affirmative? (value : Value) : Operator → Option Operator
  | .equal => if value = .null then some .notEqual else none
  | .notEqual => if value = .null then none else some .equal
  | .notIn => some .isIn
  | .notBetween => some .between
  | _ => none

/-- The condition that a field compares in one way to a value. -/
def Operator.condition (operator : Operator) (field : String) (value : Value) : Condition where
  field := field
  op := operator.word
  value := value

theorem Operator.operator?_condition (operator : Operator) (field : String) (value : Value) :
    (operator.condition field value).operator? = some operator :=
  Operator.ofWord?_word operator

/-- The objects under a path are all matched by a clause or none of them is, and there are some. -/
def Document.IsUniform (backend : Backend) (document : Document) (path : String)
    (clause : Clause) : Prop :=
  document.objectsAt path ≠ [] ∧
    ((∀ object ∈ document.objectsAt path, clause.Matches backend object) ∨
      ∀ object ∈ document.objectsAt path, ¬clause.Matches backend object)

namespace Lowering

variable {catalog : FieldCatalog} {id field : String} {operator affirmative : Operator}
  {value : Value} {clause : Clause}

theorem comparisonClause_contrary (haffirmative : operator.affirmative? value = some affirmative)
    (hvalue : value ≠ .null) (h : comparisonClause id field operator value = .ok clause) :
    ∃ inner, comparisonClause id field affirmative value = .ok inner ∧ clause = inner.negate := by
  cases operator with
  | notEqual =>
      rw [Operator.affirmative?, if_neg hvalue] at haffirmative
      cases haffirmative
      cases h
      exact ⟨_, rfl, rfl⟩
  | notIn =>
      cases haffirmative
      cases h
      exact ⟨_, rfl, rfl⟩
  | notBetween =>
      cases haffirmative
      obtain ⟨between, hbetween, h⟩ := Outcome.bind_eq_ok.mp h
      exact ⟨between, hbetween, (Outcome.pure_eq_ok.mp h).symm⟩
  | equal =>
      rw [Operator.affirmative?, if_neg hvalue] at haffirmative
      cases haffirmative
  | _ => cases haffirmative

theorem presenceClause_contrary (haffirmative : operator.affirmative? .null = some affirmative)
    (h : presenceClause id field operator = .ok clause) :
    ∃ inner, presenceClause id field affirmative = .ok inner ∧ clause = inner.negate := by
  cases operator with
  | equal =>
      cases haffirmative
      cases h
      exact ⟨_, rfl, rfl⟩
  | notEqual => cases haffirmative
  | _ => cases h

theorem flatClause_condition {compared : Value}
    (hcompared : comparedValue catalog (operator.condition field value) = .ok compared) :
    flatClause catalog (operator.condition field value) =
      if compared = .null then presenceClause field (FieldPath.dotted field) operator
      else comparisonClause field (FieldPath.dotted field) operator compared := by
  rw [flatClause, hcompared, Outcome.bind_ok, Operator.operator?_condition]
  rfl

/-- On its path a contrary condition has the negated clause of the other one. -/
theorem flatClause_contrary (haffirmative : operator.affirmative? value = some affirmative)
    (h : flatClause catalog (operator.condition field value) = .ok clause) :
    ∃ inner, flatClause catalog (affirmative.condition field value) = .ok inner ∧
      clause = inner.negate := by
  obtain ⟨compared, hcompared, hnull, -⟩ :=
    comparedValue_total catalog (operator.condition field value)
  have hcompared' : comparedValue catalog (affirmative.condition field value) = .ok compared :=
    hcompared
  rw [flatClause_condition hcompared] at h
  rw [flatClause_condition hcompared']
  -- The converted value is null exactly where the given one is.
  have haffirmative' : operator.affirmative? compared = some affirmative := by
    rw [← haffirmative]
    cases operator with
    | equal | notEqual => simp only [Operator.affirmative?, hnull, Operator.condition]
    | _ => rfl
  split_ifs at h ⊢ with hvalue
  · subst hvalue
    exact presenceClause_contrary haffirmative' h
  · exact comparisonClause_contrary haffirmative' hvalue h

/-- A clause on a field as it is placed: in nested objects it must match within one of them. -/
def placed (catalog : FieldCatalog) (field : String) (clause : Clause) : Clause :=
  if catalog.isNestedField field then .nested (FieldPath.root field) clause else clause

theorem conditionClause_eq_ok_iff {c : Condition} :
    conditionClause catalog c = .ok clause ↔
      ∃ inner, flatClause catalog c = .ok inner ∧ clause = placed catalog c.field inner := by
  rw [conditionClause, Outcome.bind_eq_ok]
  apply exists_congr
  intro inner
  apply and_congr_right
  intro _
  rw [placed]
  split_ifs
  · rw [Outcome.pure_eq_ok, eq_comm]
  · rw [Outcome.pure_eq_ok, eq_comm]

variable {backend : Backend} {document : Document} {path : String}

/-- Some object is not matched where none is, and only there, exactly if the objects are uniform. -/
theorem isUniform_iff :
    ((∃ object ∈ document.objectsAt path, ¬clause.Matches backend object) ↔
        ¬∃ object ∈ document.objectsAt path, clause.Matches backend object) ↔
      document.IsUniform backend path clause := by
  constructor
  · intro hcontrary
    by_cases hsome : ∃ object ∈ document.objectsAt path, clause.Matches backend object
    · obtain ⟨object, hobject, -⟩ := id hsome
      refine ⟨List.ne_nil_of_mem hobject, .inl ?_⟩
      intro other hother
      by_contra hnot
      exact hcontrary.mp ⟨other, hother, hnot⟩ hsome
    · obtain ⟨object, hobject, -⟩ := hcontrary.mpr hsome
      refine ⟨List.ne_nil_of_mem hobject, .inr ?_⟩
      intro other hother hmatches
      exact hsome ⟨other, hother, hmatches⟩
  · rintro ⟨hne, huniform⟩
    obtain ⟨object, hobject⟩ := List.exists_mem_of_ne_nil _ hne
    rcases huniform with hall | hnone
    · refine iff_of_false ?_ (not_not_intro ⟨object, hobject, hall object hobject⟩)
      rintro ⟨other, hother, hnot⟩
      exact hnot (hall other hother)
    · refine iff_of_true ⟨object, hobject, hnone object hobject⟩ ?_
      rintro ⟨other, hother, hmatches⟩
      exact hnone other hother hmatches

theorem placed_of_flat (h : catalog.isNestedField field = false) :
    placed catalog field clause = clause := by
  rw [placed, h, if_neg Bool.false_ne_true]

/-- In nested objects a clause is placed so that one object has to match. -/
theorem matches_placed_of_nested (h : catalog.isNestedField field = true) :
    (placed catalog field clause).Matches backend document ↔
      ∃ object ∈ document.objectsAt (FieldPath.root field), clause.Matches backend object := by
  rw [placed, if_pos h, Clause.Matches]

/-- An accepted contrary condition has an accepted counterpart. On a flat field the one matches the
documents that the other does not. In nested objects it matches those with an object that the
comparison does not match, which are the same documents exactly if the objects are uniform. -/
theorem conditionClause_contrary_matches_iff {negative : Clause}
    (haffirmative : operator.affirmative? value = some affirmative)
    (h : conditionClause catalog (operator.condition field value) = .ok negative) :
    ∃ positive inner,
      conditionClause catalog (affirmative.condition field value) = .ok positive ∧
      flatClause catalog (affirmative.condition field value) = .ok inner ∧
      ∀ backend document,
        (catalog.isNestedField field = false →
          (negative.Matches backend document ↔ ¬positive.Matches backend document)) ∧
        (catalog.isNestedField field = true →
          (negative.Matches backend document ↔
            ∃ object ∈ document.objectsAt (FieldPath.root field),
              ¬inner.Matches backend object) ∧
          ((negative.Matches backend document ↔ ¬positive.Matches backend document) ↔
            document.IsUniform backend (FieldPath.root field) inner)) := by
  obtain ⟨contrary, hcontrary, rfl⟩ := conditionClause_eq_ok_iff.mp h
  obtain ⟨inner, hinner, rfl⟩ := flatClause_contrary haffirmative hcontrary
  refine ⟨placed catalog field inner, inner, conditionClause_eq_ok_iff.mpr ⟨inner, hinner, rfl⟩,
    hinner, ?_⟩
  intro backend document
  constructor
  · intro hflat
    rw [Operator.condition, placed_of_flat hflat, placed_of_flat hflat, Clause.matches_negate]
  · intro hnested
    have hnegative : (placed catalog field inner.negate).Matches backend document ↔
        ∃ object ∈ document.objectsAt (FieldPath.root field), ¬inner.Matches backend object := by
      simp only [matches_placed_of_nested hnested, Clause.matches_negate]
    refine ⟨hnegative, ?_⟩
    rw [← isUniform_iff, ← hnegative, ← matches_placed_of_nested hnested]
    rfl

/-- Goods of which no offer is to be new. -/
def notNewClause : Clause :=
  .nested "offers" (.bool [] [] [] [.terms "offers.kind" [.str "new"]])

theorem notNewClause_matches_iff :
    Operator.affirmative? (.list [.str "new"]) .notIn = some .isIn ∧
      conditionClause goodsCatalog (Operator.notIn.condition "offers__kind" (.list [.str "new"])) =
        .ok notNewClause ∧
      ∃ positive inner,
        conditionClause goodsCatalog
          (Operator.isIn.condition "offers__kind" (.list [.str "new"])) = .ok positive ∧
        flatClause goodsCatalog
          (Operator.isIn.condition "offers__kind" (.list [.str "new"])) = .ok inner ∧
        ∀ backend document,
          (goodsCatalog.isNestedField "offers__kind" = false →
            (notNewClause.Matches backend document ↔ ¬positive.Matches backend document)) ∧
          (goodsCatalog.isNestedField "offers__kind" = true →
            (notNewClause.Matches backend document ↔
              ∃ object ∈ document.objectsAt (FieldPath.root "offers__kind"),
                ¬inner.Matches backend object) ∧
            ((notNewClause.Matches backend document ↔ ¬positive.Matches backend document) ↔
              document.IsUniform backend (FieldPath.root "offers__kind") inner)) := by
  have hclause : conditionClause goodsCatalog
      (Operator.notIn.condition "offers__kind" (.list [.str "new"])) = .ok notNewClause := rfl
  exact ⟨rfl, hclause, conditionClause_contrary_matches_iff rfl hclause⟩

/-- A backend that compares values as they are, and integers by their order. -/
def plainBackend : Backend where
  equals value sought := value = sought
  isWithin value bounds := ∀ bound ∈ bounds,
    match value, bound with
    | .int i, ("gt", .int j) => j < i
    | .int i, ("gte", .int j) => j ≤ i
    | .int i, ("lt", .int j) => i < j
    | .int i, ("lte", .int j) => i ≤ j
    | _, _ => False
  finds _ _ := False

/-- Goods with a new and a used offer. -/
def mixedOffers : Document :=
  .indexed [("color", [.str "red"])]
    [("offers",
      [.indexed [("offers.kind", [.str "new"])] [], .indexed [("offers.kind", [.str "used"])] []])]

/-- Goods with offers of both kinds match a condition and its contrary. -/
theorem mixedOffers_match_both :
    ¬∀ (catalog : FieldCatalog) (field : String) (value : Value)
        (operator affirmative : Operator) (negative positive : Clause),
      operator.affirmative? value = some affirmative →
      conditionClause catalog (operator.condition field value) = .ok negative →
      conditionClause catalog (affirmative.condition field value) = .ok positive →
        ∀ backend document,
          negative.Matches backend document ↔ ¬positive.Matches backend document := by
  intro hcontrary
  let kind : Clause := .term "offers.kind" (.str "new")
  have hnew : kind.Matches plainBackend (.indexed [("offers.kind", [.str "new"])] []) :=
    ⟨.str "new", .head _, rfl⟩
  have hused : kind.negate.Matches plainBackend (.indexed [("offers.kind", [.str "used"])] []) := by
    rw [Clause.matches_negate]
    rintro ⟨value, hvalue, hequal⟩
    obtain rfl := List.mem_singleton.mp hvalue
    exact absurd (show Value.str "used" = Value.str "new" from hequal) (by decide)
  have hpositive : (Clause.nested "offers" kind).Matches plainBackend mixedOffers :=
    ⟨_, .head _, hnew⟩
  have hnegative : (Clause.nested "offers" kind.negate).Matches plainBackend mixedOffers :=
    ⟨_, .tail _ (.head _), hused⟩
  exact (hcontrary goodsCatalog "offers__kind" (.str "new") .notEqual .equal
    (.nested "offers" kind.negate) (.nested "offers" kind) rfl rfl rfl plainBackend
    mixedOffers).mp hnegative hpositive

end Lowering

end FacetedSearch
