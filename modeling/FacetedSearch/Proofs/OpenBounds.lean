import FacetedSearch.Proofs.ComparedValues
import FacetedSearch.Proofs.ContraryConditions

/-!
The bounds of ranges between two values. An end is left open where no value, or the empty text, is
given for it. On fields of truth values the ends are converted first: there the empty text is a
value, and only null leaves an end open.
-/

namespace FacetedSearch

/-- Null and the empty text stand for no bound. -/
def Value.IsOpenEnd (value : Value) : Prop := value = .null ∨ value = .str ""

instance (value : Value) : Decidable value.IsOpenEnd := inferInstanceAs (Decidable (_ ∨ _))

namespace FieldCatalog

theorem coerceBound_eq_null_iff {value : Value} : coerceBound value = .null ↔ value = .null := by
  cases value with
  | str text =>
      simp only [coerceBound]
      cases Numeral.readInt? text with
      | some i => simp
      | none =>
          cases Numeral.readFloat? text with
          | some x => simp
          | none => simp
  | _ => exact Iff.rfl

theorem coerceTo_boolean_ne_str {value converted : Value} {text : String}
    (h : coerceTo (some .boolean) value = .ok converted) : converted ≠ .str text := by
  rintro rfl
  cases value with
  | list | tuple =>
      obtain ⟨items, -, h⟩ := Outcome.bind_eq_ok.mp h
      cases h
  | _ => cases h

end FieldCatalog

namespace Lowering

variable {catalog : FieldCatalog} {c : Condition} {operator : Operator}
  {lower upper : Value}

theorem bound_eq_null_iff {value : Value} : bound value = .null ↔ value.IsOpenEnd := by
  unfold Value.IsOpenEnd
  cases value with
  | null => simp [bound]
  | str text =>
      by_cases htext : text = ""
      · simp [bound, htext]
      · simp [bound, htext, FieldCatalog.coerceBound_eq_null_iff]
  | _ => simp [bound, FieldCatalog.coerceBound]

/-- The values that leave an end open on a field: null and, if it has no truth values, the empty
text. -/
def LeavesOpen (catalog : FieldCatalog) (field : String) (value : Value) : Prop :=
  value = .null ∨ value = .str "" ∧ catalog.typeOf? field ≠ some .boolean

theorem bound_comparedValue_eq_null_iff {compared : Value}
    (h : comparedValue catalog c = .ok compared) :
    bound compared = .null ↔ LeavesOpen catalog c.field c.value := by
  obtain ⟨value, hvalue, hnull, -⟩ := comparedValue_total catalog c
  cases h.symm.trans hvalue
  rw [bound_eq_null_iff, Value.IsOpenEnd, hnull, LeavesOpen]
  apply or_congr_right
  by_cases htype : catalog.typeOf? c.field = some .boolean
  · rw [comparedValue, if_pos htype, FieldCatalog.coerce, htype] at h
    exact iff_of_false (FieldCatalog.coerceTo_boolean_ne_str h) fun hopen => hopen.2 htype
  · rw [comparedValue, if_neg htype] at h
    cases h
    exact (and_iff_left htype).symm

theorem mem_names_givenBounds {bounds : Entries Value} {name : String} :
    name ∈ (Clause.givenBounds bounds).names ↔ ∃ value, (name, value) ∈ bounds ∧ value ≠ .null := by
  simp [Clause.givenBounds, Entries.names]

/-- A range on a field, or its negation. -/
def rangeClause (operator : Operator) (field : String) (bounds : Entries Value) : Clause :=
  if operator = .notBetween then (Clause.range field bounds).negate else .range field bounds

theorem comparisonClause_of_isRange {id field : String} {value : Value}
    (hrange : operator.isRange = true) (hpair : value.sequence? = some [lower, upper]) :
    comparisonClause id field operator value = .ok (rangeClause operator field
      (Clause.givenBounds [("gte", bound lower), ("lte", bound upper)])) := by
  have hbetween : betweenClause id field value =
      .ok (.bounded field [("gte", bound lower), ("lte", bound upper)]) := by
    rw [betweenClause, hpair]
  cases operator with
  | between => exact hbetween
  | notBetween =>
      rw [comparisonClause, hbetween]
      rfl
  | _ => cases hrange

/-- A condition between two values is a range with the bounds that are given at either end. -/
theorem conditionClause_of_isRange (catalog : FieldCatalog) (hoperator : c.operator? = some operator)
    (hrange : operator.isRange = true) (hpair : c.value.sequence? = some [lower, upper]) :
    ∃ bounds, conditionClause catalog c =
        .ok (placed catalog c.field (rangeClause operator (FieldPath.dotted c.field) bounds)) ∧
      bounds.names.Sublist ["gte", "lte"] ∧
      ("gte" ∈ bounds.names ↔ ¬LeavesOpen catalog c.field lower) ∧
      ("lte" ∈ bounds.names ↔ ¬LeavesOpen catalog c.field upper) := by
  obtain ⟨compared, ends, hcompared, hends, hitems⟩ :=
    comparedValue_of_sequence catalog c hpair
  obtain _ | @⟨_, first, _, _, hfirst, _ | @⟨_, last, _, _, hlast, _ | _⟩⟩ := hitems
  have hlower : bound first = .null ↔ LeavesOpen catalog c.field lower :=
    bound_comparedValue_eq_null_iff hfirst
  have hupper : bound last = .null ↔ LeavesOpen catalog c.field upper :=
    bound_comparedValue_eq_null_iff hlast
  have hnull : compared ≠ .null := by
    rintro rfl
    cases hends
  have hflat : flatClause catalog c = .ok (rangeClause operator (FieldPath.dotted c.field)
      (Clause.givenBounds [("gte", bound first), ("lte", bound last)])) := by
    rw [flatClause, hcompared, Outcome.bind_ok, hoperator]
    exact (if_neg hnull).trans (comparisonClause_of_isRange hrange hends)
  refine ⟨_, conditionClause_eq_ok_iff.mpr ⟨_, hflat, rfl⟩, ?names, ?lower, ?upper⟩
  case names => exact List.filter_sublist.map Prod.fst
  case lower =>
    rw [mem_names_givenBounds, ← hlower]
    simp
  case upper =>
    rw [mem_names_givenBounds, ← hupper]
    simp

/-- A field leaves open what stands for no bound, unless it takes the empty text for a truth value. -/
theorem leavesOpen_iff_isOpenEnd {field : String} {value : Value} :
    (LeavesOpen catalog field value ↔ value.IsOpenEnd) ↔
      (catalog.typeOf? field = some .boolean → value ≠ .str "") := by
  unfold LeavesOpen Value.IsOpenEnd
  constructor
  · rintro hiff hboolean rfl
    rcases hiff.mpr (.inr rfl) with hnull | ⟨-, htype⟩
    · cases hnull
    · exact htype hboolean
  · intro hempty
    apply or_congr_right
    rw [and_iff_left_iff_imp]
    intro hvalue hboolean
    exact hempty hboolean hvalue

/-- Conditions between two values always lower to ranges, or their negations, with a bound at each
end that the field does not leave open. The open ends are those without a value exactly where no
empty text is given on a field of truth values. -/
theorem conditionClause_openEnds_iff (hoperator : c.operator? = some operator)
    (hrange : operator.isRange = true) (hpair : c.value.sequence? = some [lower, upper]) :
    ∃ bounds, conditionClause catalog c =
        .ok (placed catalog c.field (rangeClause operator (FieldPath.dotted c.field) bounds)) ∧
      bounds.names.Sublist ["gte", "lte"] ∧
      ("gte" ∈ bounds.names ↔ ¬LeavesOpen catalog c.field lower) ∧
      ("lte" ∈ bounds.names ↔ ¬LeavesOpen catalog c.field upper) ∧
      ((("gte" ∈ bounds.names ↔ ¬lower.IsOpenEnd) ∧ ("lte" ∈ bounds.names ↔ ¬upper.IsOpenEnd)) ↔
        (catalog.typeOf? c.field = some .boolean → lower ≠ .str "" ∧ upper ≠ .str "")) := by
  obtain ⟨bounds, hclause, hnames, hlower, hupper⟩ :=
    conditionClause_of_isRange catalog hoperator hrange hpair
  refine ⟨bounds, hclause, hnames, hlower, hupper, ?_⟩
  rw [hlower, hupper, not_iff_not, not_iff_not, leavesOpen_iff_isOpenEnd,
    leavesOpen_iff_isOpenEnd, ← imp_and]

/-- Goods that are published or not, with offers that are checked or not. -/
def publishedCatalog : FieldCatalog where
  entries :=
    [("published", { id := "published", type := .boolean }),
      ("offers", { id := "offers", type := .nestedObject }),
      ("offers.checked", { id := "offers.checked", type := .boolean })]

/-- Offers that are not between no value and the empty text. -/
def uncheckedOffers : Condition where
  field := "offers.checked"
  op := "NOT BETWEEN"
  value := .tuple [.null, .str ""]

theorem uncheckedOffers_openEnds :
    uncheckedOffers.operator? = some .notBetween ∧ Operator.notBetween.isRange = true ∧
      uncheckedOffers.value.sequence? = some [.null, .str ""] ∧
      ∃ bounds, conditionClause publishedCatalog uncheckedOffers =
          .ok (placed publishedCatalog "offers.checked"
            (rangeClause .notBetween (FieldPath.dotted "offers.checked") bounds)) ∧
        bounds.names.Sublist ["gte", "lte"] ∧
        ("gte" ∈ bounds.names ↔ ¬LeavesOpen publishedCatalog "offers.checked" .null) ∧
        ("lte" ∈ bounds.names ↔ ¬LeavesOpen publishedCatalog "offers.checked" (.str "")) ∧
        ((("gte" ∈ bounds.names ↔ ¬Value.null.IsOpenEnd) ∧
            ("lte" ∈ bounds.names ↔ ¬(Value.str "").IsOpenEnd)) ↔
          (publishedCatalog.typeOf? "offers.checked" = some .boolean →
            Value.null ≠ .str "" ∧ Value.str "" ≠ .str "")) :=
  ⟨by decide, rfl, rfl, conditionClause_openEnds_iff (by decide) rfl rfl⟩

/-- The empty text bounds a range on a field of truth values: it is taken for false. -/
theorem published_bounded_by_empty_text :
    ¬∀ (catalog : FieldCatalog) (c : Condition) (operator : Operator) (lower upper : Value)
        (bounds : Entries Value),
      c.operator? = some operator → operator.isRange = true →
      c.value.sequence? = some [lower, upper] →
      conditionClause catalog c =
        .ok (placed catalog c.field (rangeClause operator (FieldPath.dotted c.field) bounds)) →
        (("gte" ∈ bounds.names ↔ ¬lower.IsOpenEnd) ∧
          ("lte" ∈ bounds.names ↔ ¬upper.IsOpenEnd)) := by
  intro hopen
  obtain ⟨hlower, -⟩ := hopen publishedCatalog
    { field := "published", op := "BETWEEN", value := .list [.str "", .bool true] } .between
    (.str "") (.bool true) [("gte", .bool false), ("lte", .bool true)] (by decide) rfl rfl rfl
  exact hlower.mp (by decide) (.inr rfl)

end Lowering

end FacetedSearch
