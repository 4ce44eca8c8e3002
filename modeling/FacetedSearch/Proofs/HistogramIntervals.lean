import FacetedSearch.Proofs.Compile
import FacetedSearch.Proofs.FacetLowering
import FacetedSearch.Proofs.RefusedGranularities
import FacetedSearch.Proofs.Rounding
import Mathlib.Algebra.Order.Field.Power
import Mathlib.Algebra.Order.Ring.Rat

/-!
Intervals of histograms. A granularity gives a positive number or is refused, unless it is, or reads
as, not-a-number or the positive infinity: such a granularity is below or at zero in no comparison.
Nor is an integer refused, in words that show it, if it is too long to be written.
The histograms of a compiled query, in nested objects or not, have positive numbers as intervals
exactly where the facets that they are made of have no such granularity.
-/

namespace FacetedSearch

namespace Binary64

/-- The number that a binary number stands for; infinities and not-a-number stand for none. -/
def amount? : Binary64 → Option ℚ
  | .finite negative significand exponent =>
    some ((if negative then -(significand : ℚ) else significand) * 2 ^ exponent)
  | _ => none

/-- Not-a-number or the positive infinity. -/
def IsBoundless (x : Binary64) : Prop := x = .nan ∨ x = .infinite false

instance (x : Binary64) : Decidable x.IsBoundless := inferInstanceAs (Decidable (_ ∨ _))

end Binary64

namespace Value

/-- The number that a value is. -/
def amount? : Value → Option ℚ
  | .int i => some i
  | .float x => x.amount?
  | _ => none

/-- A finite number greater than zero. -/
def IsPositiveNumber (value : Value) : Prop := ∃ amount ∈ value.amount?, 0 < amount

theorem isPositiveNumber_int_iff {i : Int} : (int i).IsPositiveNumber ↔ 0 < i := by
  simp [IsPositiveNumber, amount?]

/-- A number that is neither zero nor below is positive, except that nothing can be said of what is
no number or above all numbers. -/
theorem isPositiveNumber_float_iff {x : Binary64} :
    (x.isNonPositive = false → (float x).IsPositiveNumber) ↔ ¬x.IsBoundless := by
  cases x with
  | nan =>
      refine iff_of_false (fun h => ?_) (not_not_intro (.inl rfl))
      obtain ⟨_, hamount, -⟩ := h rfl
      cases hamount
  | infinite negative =>
      cases negative with
      | true => exact iff_of_true nofun (by decide)
      | false =>
          refine iff_of_false (fun h => ?_) (not_not_intro (.inr rfl))
          obtain ⟨_, hamount, -⟩ := h rfl
          cases hamount
  | finite negative significand exponent =>
      refine iff_of_true (fun hsign => ?_) (by simp [Binary64.IsBoundless])
      obtain ⟨rfl, hpos⟩ := Binary64.finite_of_isNonPositive_eq_false hsign
      have hamount : (0 : ℚ) < significand * 2 ^ exponent :=
        mul_pos (Nat.cast_pos.mpr hpos) (zpow_pos two_pos exponent)
      exact ⟨_, rfl, by simpa using hamount⟩

end Value

namespace Granularity

/-- The binary number that a granularity is or reads as; the name of a unit is none. -/
def meant? : Value → Option Binary64
  | .float x => some x
  | .str text => if (seconds? text).isSome then none else Numeral.readFloat? text
  | _ => none

/-- A granularity that means no number, and is on no side of zero or above all numbers. -/
def IsBoundless (granularity : Value) : Prop := ∃ x ∈ meant? granularity, x.IsBoundless

instance (granularity : Value) : Decidable (IsBoundless granularity) :=
  inferInstanceAs (Decidable (∃ x ∈ meant? granularity, x.IsBoundless))

/-- The interval of a granularity is a positive number, or the granularity is refused. -/
inductive IsSettled (granularity : Value) : Outcome Value → Prop
  | number {interval : Value} (h : interval.IsPositiveNumber) : IsSettled granularity (.ok interval)
  | refused : IsSettled granularity (.error (.unsupportedGranularity granularity))

theorem seconds_pos {name : String} {seconds : Int} (h : seconds? name = some seconds) :
    0 < seconds := by
  have hunits : ∀ unit ∈ units, 0 < unit.2 := by decide
  unfold seconds? at h
  generalize Text.lowercase name = word at h
  obtain ⟨before, after, heq, -⟩ := List.lookup_eq_some_iff.mp h
  exact hunits (word, seconds) (heq ▸ by simp)

/-- A binary number with an integral value is taken as that integer. -/
theorem readNumber?_eq (text : String) :
    readNumber? text =
      (Numeral.readFloat? text).map fun x => (x.toInt?.map Value.int).getD (.float x) := by
  unfold readNumber?
  congr 1
  funext x
  cases x.toInt? <;> rfl

theorem isSettled_refusal_iff {granularity : Value} :
    IsSettled granularity (.error (refusal granularity)) ↔ granularity.isWritable = true := by
  constructor
  · intro h
    by_contra hwritable
    rw [refusal_of_not_isWritable (Bool.eq_false_iff.mpr hwritable)] at h
    cases h
  · intro hwritable
    rw [refusal_of_isWritable hwritable]
    exact .refused

/-- What is neither zero nor below must be positive, and all else must be shown. -/
theorem isSettled_numericInterval_iff {granularity : Value} :
    IsSettled granularity (numericInterval granularity) ↔
      (∀ number ∈ number? granularity, isNonPositive number = false → number.IsPositiveNumber) ∧
        ((∃ number ∈ number? granularity, isNonPositive number = false) ∨
          granularity.isWritable = true) := by
  unfold numericInterval
  cases number? granularity with
  | none => simp [isSettled_refusal_iff]
  | some number =>
      simp only [Option.mem_some_iff, forall_eq', exists_eq_left']
      cases isNonPositive number with
      | true => simp [isSettled_refusal_iff]
      | false =>
          simp only [Bool.false_eq_true, if_false, forall_const, true_or, and_true]
          constructor
          · rintro (h | _)
            exact h
          · exact .number

/-- What compares as neither zero nor below is a positive number, unless it is boundless. -/
theorem forall_isPositiveNumber_iff {granularity : Value}
    (hnamed : ∀ name ∈ granularity.text?, seconds? name = none) :
    (∀ number ∈ number? granularity, isNonPositive number = false → number.IsPositiveNumber) ↔
      ¬IsBoundless granularity := by
  cases granularity with
  | float x => simpa [number?, isNonPositive, IsBoundless, meant?] using
      Value.isPositiveNumber_float_iff
  | int i =>
      simp [number?, isNonPositive, IsBoundless, meant?, Value.isPositiveNumber_int_iff]
  | str text =>
      have hname : seconds? text = none := hnamed text rfl
      simp only [number?, readNumber?_eq, IsBoundless, meant?, hname]
      cases Numeral.readFloat? text with
      | none => simp
      | some x =>
          cases hwhole : x.toInt? with
          | none => simpa [isNonPositive, hwhole] using Value.isPositiveNumber_float_iff
          | some i =>
              -- not-a-number and infinities are no integers
              have hfinite : ¬x.IsBoundless := by
                rintro (rfl | rfl)
                · cases hwhole
                · cases hwhole
              simp [hwhole, hfinite, isNonPositive, Value.isPositiveNumber_int_iff]
  | _ => simp [number?, IsBoundless, meant?]

theorem isSettled_numericInterval {granularity : Value} (hnull : granularity ≠ .null)
    (hnamed : ∀ name ∈ granularity.text?, seconds? name = none) :
    IsSettled granularity (numericInterval granularity) ↔
      ¬IsBoundless granularity ∧ ¬IsUnwritable granularity := by
  rw [isSettled_numericInterval_iff, forall_isPositiveNumber_iff hnamed, IsUnwritable,
    isInterval_iff_of_unnamed hnull hnamed, not_and_or, not_not, Bool.not_eq_false]

theorem isSettled_interval_iff (granularity : Value) :
    IsSettled granularity (interval granularity) ↔
      ¬IsBoundless granularity ∧ ¬IsUnwritable granularity := by
  cases granularity with
  | null =>
      refine iff_of_true (.number ?_) ⟨by simp [IsBoundless, meant?], fun h => h.1 (.inl rfl)⟩
      exact Value.isPositiveNumber_int_iff.mpr (by decide)
  | str name =>
      rw [interval]
      cases hname : seconds? name with
      | some seconds =>
          have hunit : IsInterval (.str name) := .inr (.inl ⟨name, rfl, by rw [hname]; rfl⟩)
          refine iff_of_true (.number ?_)
            ⟨by simp [IsBoundless, meant?, hname], fun h => h.1 hunit⟩
          exact Value.isPositiveNumber_int_iff.mpr (seconds_pos hname)
      | none => exact isSettled_numericInterval (by simp) (by simpa [Value.text?] using hname)
  | _ => exact isSettled_numericInterval (by simp) (by simp [Value.text?])

end Granularity

namespace Aggregation

mutual

/-- The intervals of the histograms in an aggregation, at any depth. -/
def intervals : Aggregation → List Value
  | .filter _ aggs | .nested _ aggs | .terms _ _ _ _ aggs => intervalsIn aggs
  | .histogram _ interval _ => [interval]
  | .topHit _ | .minimum _ | .maximum _ | .dateHistogram .. | .completions .. => []

def intervalsIn : List (String × Aggregation) → List Value
  | [] => []
  | (_, agg) :: rest => agg.intervals ++ intervalsIn rest

end

/-- The intervals of all histograms are positive numbers. -/
def HasPositiveIntervals (agg : Aggregation) : Prop :=
  ∀ interval ∈ agg.intervals, interval.IsPositiveNumber

theorem forall_mem_intervalsIn {p : Value → Prop} {aggs : List (String × Aggregation)} :
    (∀ interval ∈ intervalsIn aggs, p interval) ↔
      ∀ entry ∈ aggs, ∀ interval ∈ entry.2.intervals, p interval := by
  induction aggs with
  | nil => simp [intervalsIn]
  | cons entry rest ih =>
      rw [intervalsIn, List.forall_mem_append, List.forall_mem_cons, ih]

end Aggregation

/-- Facets that are counted in intervals of numbers have no boundless granularity. -/
def FacetRequest.IsBounded (facet : FacetRequest) : Prop :=
  facet.kind.isHistogram = true → facet.dateDisplay ≠ some true →
    ¬Granularity.IsBoundless facet.granularity

/-- The facets that a query counts: a later facet of the same id takes the place of an earlier one,
and a query for completions counts none. -/
def SearchQuery.Counts (query : SearchQuery) (facet : FacetRequest) : Prop :=
  query.autocomplete = none ∧ ∃ before after, query.facets = before ++ facet :: after ∧
    ∀ later ∈ after, later.id ≠ facet.id

namespace Lowering

variable {setting : Setting} {drawn : Value} {query : SearchQuery} {catalog : FieldCatalog}
  {facet : FacetRequest}

/-- A granularity that is not refused gives a positive number, unless it is boundless. -/
theorem isPositiveNumber_of_interval {granularity interval : Value}
    (h : Granularity.interval granularity = .ok interval) :
    interval.IsPositiveNumber ↔ ¬Granularity.IsBoundless granularity := by
  have hinterval : Granularity.IsInterval granularity :=
    (Granularity.interval_endsIn granularity).exists_ok_iff.mp ⟨interval, h⟩
  have hsettled := Granularity.isSettled_interval_iff granularity
  rw [h, and_iff_left fun hunwritable => hunwritable.1 hinterval] at hsettled
  rw [← hsettled]
  constructor
  · exact .number
  · rintro (hpositive | _)
    exact hpositive

theorem hasPositiveIntervals_histogramAggregation {field : String} {agg : Aggregation}
    (h : histogramAggregation facet field = .ok agg) :
    agg.HasPositiveIntervals ↔
      (facet.dateDisplay ≠ some true → ¬Granularity.IsBoundless facet.granularity) := by
  unfold histogramAggregation at h
  split_ifs at h with hdate
  · cases h
    simp [Aggregation.HasPositiveIntervals, Aggregation.intervals, hdate]
  · obtain ⟨interval, hinterval, h⟩ := Outcome.bind_eq_ok.mp h
    obtain rfl := Outcome.pure_eq_ok.mp h
    rw [← isPositiveNumber_of_interval hinterval]
    simp [Aggregation.HasPositiveIntervals, Aggregation.intervals, hdate]

theorem forall_hasPositiveIntervals_facetAggregations {field : String} {limit : Value}
    {source : Option String} {aggs : Entries Aggregation}
    (h : facetAggregations facet field limit source = .ok aggs) :
    (∀ entry ∈ aggs, entry.2.HasPositiveIntervals) ↔
      facet.IsBounded := by
  have huncounted : ∀ name : String, ∀ hits : List String,
      (Aggregation.terms field facet.minCount limit facet.missing
        (hits.map fun path => (name, Aggregation.topHit path))).HasPositiveIntervals := by
    intro name hits
    rw [Aggregation.HasPositiveIntervals, Aggregation.intervals, Aggregation.forall_mem_intervalsIn]
    simp [Aggregation.intervals]
  have hmeasured : ∀ {agg}, histogramAggregation facet field = .ok agg →
      facet.kind.isHistogram = true → ((∀ entry ∈ [(facet.id, agg)], entry.2.HasPositiveIntervals) ↔
        facet.IsBounded) := by
    intro agg hagg hkind
    simpa [FacetRequest.IsBounded, hkind] using hasPositiveIntervals_histogramAggregation hagg
  unfold facetAggregations at h
  cases hkind : facet.kind with
  | range =>
      rw [hkind] at h
      cases h
      simp [FacetRequest.IsBounded, hkind, FacetKind.isHistogram, Aggregation.HasPositiveIntervals,
        Aggregation.intervals]
  | string | nested =>
      rw [hkind] at h
      cases h
      simp [FacetRequest.IsBounded, hkind, FacetKind.isHistogram, huncounted]
  | date | granular =>
      rw [hkind] at h
      obtain ⟨agg, hagg, h⟩ := Outcome.bind_eq_ok.mp h
      obtain rfl := Outcome.pure_eq_ok.mp h
      exact hmeasured hagg (by rw [hkind]; rfl)

theorem hasPositiveIntervals_filter {clause : Clause} {aggs : List (String × Aggregation)} :
    (Aggregation.filter clause aggs).HasPositiveIntervals ↔
      ∀ entry ∈ aggs, entry.2.HasPositiveIntervals := by
  rw [Aggregation.HasPositiveIntervals, Aggregation.intervals]
  exact Aggregation.forall_mem_intervalsIn

theorem hasPositiveIntervals_nested {path : String} {aggs : List (String × Aggregation)} :
    (Aggregation.nested path aggs).HasPositiveIntervals ↔
      ∀ entry ∈ aggs, entry.2.HasPositiveIntervals := by
  rw [Aggregation.HasPositiveIntervals, Aggregation.intervals]
  exact Aggregation.forall_mem_intervalsIn

/-- The nested objects around a histogram change nothing of its interval. -/
theorem forall_hasPositiveIntervals_lowerFacet {part : FacetPart}
    (h : lowerFacet catalog facet = .ok part) :
    (∀ entry ∈ part.aggregations, entry.2.HasPositiveIntervals) ↔
      facet.IsBounded := by
  rcases lowerFacet_cases h with ⟨-, options, inner, -, hinner, rfl⟩ | ⟨-, aggs, haggs, rfl⟩
  · rw [← forall_hasPositiveIntervals_facetAggregations hinner, nestedFacetPart,
      List.forall_mem_singleton, hasPositiveIntervals_nested, List.forall_mem_singleton,
      hasPositiveIntervals_filter]
  · exact forall_hasPositiveIntervals_facetAggregations haggs

theorem forall_hasPositiveIntervals_lowerFacets {facets : List FacetRequest}
    {postFilters : Entries Clause} {result : FacetParts}
    (h : lowerFacets catalog facets postFilters = .ok result) :
    (∀ entry ∈ result.aggregations, entry.2.HasPositiveIntervals) ↔
      ∀ entry ∈ Entries.ofList (facets.map fun facet => (facet.id, facet)),
        entry.2.IsBounded := by
  obtain ⟨parts, hparts, rfl⟩ := lowerFacets_eq_ok_iff.mp h
  refine Entries.forall_mem_ofList_iff (p := Aggregation.HasPositiveIntervals)
    (q := FacetRequest.IsBounded) ?_
  rw [List.forall₂_map_left_iff, List.forall₂_map_right_iff]
  refine hparts.flip.imp fun part facet hpart => ⟨?_, ?_⟩
  · rw [aggregationEntry, (lowerFacet_spec hpart).1]
  · exact hasPositiveIntervals_filter.trans (forall_hasPositiveIntervals_lowerFacet hpart)

theorem mem_ofList_facets_iff {facets : List FacetRequest} {id : String} :
    (id, facet) ∈ Entries.ofList (facets.map fun facet => (facet.id, facet)) ↔
      facet.id = id ∧ ∃ before after, facets = before ++ facet :: after ∧
        ∀ later ∈ after, later.id ≠ facet.id := by
  rw [Entries.mem_ofList_iff]
  constructor
  · rintro ⟨before, after, heq, hafter⟩
    obtain ⟨first, rest, rfl, rfl, hrest⟩ := List.map_eq_append_iff.mp heq
    obtain ⟨other, last, rfl, hother, rfl⟩ := List.map_eq_cons_iff.mp hrest
    cases hother
    refine ⟨rfl, first, last, rfl, ?_⟩
    simpa [Entries.names] using hafter
  · rintro ⟨rfl, before, after, rfl, hafter⟩
    refine ⟨_, _, List.map_append, ?_⟩
    simpa [Entries.names] using hafter

theorem hasPositiveIntervals_completions {request : AutocompleteRequest}
    (hautocomplete : query.autocomplete = some request) {parts : SuggestionParts}
    (h : suggestionParts setting query = .ok parts) :
    ∀ entry ∈ parts.aggregations, entry.2.HasPositiveIntervals := by
  rw [suggestionParts, hautocomplete] at h
  dsimp only at h
  split_ifs at h
  · cases h
    exact List.forall_mem_nil _
  · cases h
    refine List.forall_mem_singleton.mpr ?_
    rw [completions, Aggregation.HasPositiveIntervals, Aggregation.intervals]
    exact List.forall_mem_nil _

/-- The facets whose histograms are in a compiled query are those that the query counts. -/
theorem forall_hasPositiveIntervals_assemble {parts : QueryParts}
    (h : QueryParts.AreOf setting drawn query parts) :
    (∀ entry ∈ (parts.assemble query).aggregations, entry.2.HasPositiveIntervals) ↔
      ∀ facet, query.Counts facet → facet.IsBounded := by
  have hfacets := h.facets
  show (∀ entry ∈ parts.suggestion.aggregations.putAll parts.facets.aggregations,
    entry.2.HasPositiveIntervals) ↔ _
  cases hautocomplete : query.autocomplete with
  | some request =>
      rw [facetPart_of_autocomplete hautocomplete] at hfacets
      rw [← Except.ok.inj hfacets, Entries.putAll_nil]
      refine iff_of_true (hasPositiveIntervals_completions hautocomplete h.suggestion) ?_
      rintro facet ⟨hnone, -⟩
      rw [hautocomplete] at hnone
      cases hnone
  | none =>
      rw [facetPart_eq_lowerFacets hautocomplete] at hfacets
      have haggregations : parts.suggestion.aggregations.putAll parts.facets.aggregations =
          parts.facets.aggregations := by
        obtain ⟨_, -, hmap⟩ := lowerFacets_eq_ok_iff.mp hfacets
        rw [(suggestionParts_of_no_autocomplete hautocomplete h.suggestion).2, ← hmap]
        exact Entries.putAll_ofList _ _
      rw [haggregations, forall_hasPositiveIntervals_lowerFacets hfacets]
      constructor
      · rintro hall facet ⟨-, hcounted⟩
        exact hall (facet.id, facet) (mem_ofList_facets_iff.mpr ⟨rfl, hcounted⟩)
      · rintro hall ⟨id, facet⟩ hfacet
        exact hall facet ⟨hautocomplete, (mem_ofList_facets_iff.mp hfacet).2⟩

theorem intervals_positive_iff {compiled : CompiledQuery}
    (hcompiled : compileQuery setting drawn query = .ok compiled) :
    (∀ granularity, Granularity.IsSettled granularity (Granularity.interval granularity) ↔
        ¬Granularity.IsBoundless granularity ∧ ¬Granularity.IsUnwritable granularity) ∧
      ((∀ interval ∈ Aggregation.intervalsIn compiled.aggregations, interval.IsPositiveNumber) ↔
        ∀ facet, query.Counts facet → facet.IsBounded) := by
  refine ⟨Granularity.isSettled_interval_iff, ?_⟩
  obtain ⟨parts, hparts, rfl⟩ := compileQuery_eq_ok_iff.mp hcompiled
  rw [Aggregation.forall_mem_intervalsIn]
  exact forall_hasPositiveIntervals_assemble hparts

/-- Articles with a price and, in nested objects, offers. -/
def articles : FieldCatalog where
  entries := [("price", { id := "price", type := .decimal }),
    ("offers", { id := "offers", type := .nestedObject })]

def prices (granularity : Value) : FacetRequest where
  id := "price"
  field := "price"
  kind := .granular
  granularity := granularity

/-- Prices of new offers by the month. -/
def offerDates : FacetRequest where
  id := "offered"
  field := "offers__date"
  kind := .date
  nested := some { groupField := "offers__kind", groupValue := .str "new" }

/-- Of two facets with one id the later one is counted. -/
def pricedOffers : SearchQuery where
  facets := [prices (.str "nan"), offerDates, prices (.str "2.5")]

theorem pricedOffers_isBounded (facet : FacetRequest) (hcounted : pricedOffers.Counts facet) :
    facet.IsBounded := by
  have hmem := mem_ofList_facets_iff.mpr ⟨rfl, hcounted.2⟩
  have hmap : Entries.ofList (pricedOffers.facets.map fun facet => (facet.id, facet)) =
      [("price", prices (.str "2.5")), ("offered", offerDates)] := rfl
  rw [hmap] at hmem
  rcases List.mem_cons.mp hmem with hprice | hoffered
  · obtain ⟨-, rfl⟩ := Prod.mk.inj hprice
    exact fun _ _ => by decide +kernel
  · obtain ⟨-, rfl⟩ := Prod.mk.inj (List.mem_singleton.mp hoffered)
    exact fun _ _ => by decide +kernel

theorem pricedOffers_compiles :
    ∃ compiled,
      compileQuery { collection := .null, catalog := articles } .null pricedOffers = .ok compiled ∧
        Aggregation.intervalsIn compiled.aggregations =
          [.float (.finite false 5629499534213120 (-51)), .int 2592000] :=
  ⟨_, rfl, rfl⟩

theorem pricedOffers_intervals_positive :
    ∃ compiled,
      compileQuery { collection := .null, catalog := articles } .null pricedOffers = .ok compiled ∧
        Aggregation.intervalsIn compiled.aggregations =
          [.float (.finite false 5629499534213120 (-51)), .int 2592000] ∧
        ∀ interval ∈ Aggregation.intervalsIn compiled.aggregations, interval.IsPositiveNumber := by
  obtain ⟨compiled, hcompiled, hintervals⟩ := pricedOffers_compiles
  have hpositive := (intervals_positive_iff hcompiled).2.mpr pricedOffers_isBounded
  exact ⟨compiled, hcompiled, hintervals, hpositive⟩

/-- A granularity that reads as not-a-number becomes the interval of the histogram. -/
theorem nanPrices_have_no_interval :
    ∃ compiled,
      compileQuery { collection := .null, catalog := articles } .null
        { facets := [prices (.str "nan")] } = .ok compiled ∧
        Aggregation.intervalsIn compiled.aggregations = [.float .nan] ∧
        ¬(Value.float .nan).IsPositiveNumber := by
  refine ⟨_, rfl, rfl, ?_⟩
  rintro ⟨_, hamount, -⟩
  cases hamount

end Lowering

end FacetedSearch
