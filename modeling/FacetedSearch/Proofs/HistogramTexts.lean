import FacetedSearch.Proofs.CatalogResolution
import FacetedSearch.Proofs.Compile
import FacetedSearch.Proofs.FacetLowering
import FacetedSearch.Proofs.HistogramIntervals
import FacetedSearch.Proofs.WrittenIntegers

/-!
Histograms of facets whose ends and granularity are written as texts. A text in digits is read by
way of a binary number, and the integer that it stands for is reached exactly where the binary
number holds all of its bits. With such texts a facet has the histogram that it has with the
integers themselves, and with any other it has another one; the bounds of ranges take each text as
the integer.
-/

namespace FacetedSearch

namespace Granularity

/-- An integer as it is read from a text: the binary number is an integer again if it has a whole
value. -/
def ofDigits (i : Int) : Value :=
  ((Binary64.ofInt i).toInt?.map .int).getD (.float (Binary64.ofInt i))

theorem number?_toString (i : Int) : number? (.str (toString i)) = some (ofDigits i) := by
  rw [number?, readNumber?_eq, Numeral.readFloat?_toString]
  rfl

/-- What is read from the digits is the integer, if a binary number holds it. -/
theorem ofDigits_eq_int_iff {i : Int} : ofDigits i = .int i ↔ Binary64.IsExact i := by
  rw [← Binary64.toInt?_ofInt_iff, ofDigits]
  cases (Binary64.ofInt i).toInt? <;> simp

theorem isNonPositive_ofDigits {i : Int} (hpositive : 0 < i) :
    isNonPositive (ofDigits i) = false := by
  have hrounded := Binary64.isNonPositive_ofInt hpositive
  rw [ofDigits]
  cases hwhole : (Binary64.ofInt i).toInt? with
  | none => exact hrounded
  | some j => exact decide_eq_false (Binary64.toInt?_pos hrounded hwhole).not_ge

theorem interval_int {i : Int} (hpositive : 0 < i) : interval (.int i) = .ok (.int i) := by
  have hsign : isNonPositive (.int i) = false := decide_eq_false hpositive.not_ge
  simp only [interval, numericInterval, number?, hsign]
  rfl

theorem interval_toString {i : Int} (hpositive : 0 < i) :
    interval (.str (toString i)) = .ok (ofDigits i) := by
  simp only [interval, seconds?_toString, numericInterval, number?_toString,
    isNonPositive_ofDigits hpositive]
  rfl

/-- The digits of a number name no calendar unit, nor does the number. -/
theorem calendarUnit_toString (i : Int) :
    calendarUnit (.str (toString i)) = calendarUnit (.int i) := by
  rw [calendarUnit, seconds?_toString]
  rfl

end Granularity

/-- A granular facet with the ends and the granularity of its histogram. -/
def FacetRequest.measured (facet : FacetRequest) (lower upper granularity : Value) : FacetRequest :=
  { facet with kind := .granular, minValue := lower, maxValue := upper, granularity }

/-- A granular facet that is measured in integers. -/
def FacetRequest.inNumbers (facet : FacetRequest) (lower upper granularity : Int) : FacetRequest :=
  facet.measured (.int lower) (.int upper) (.int granularity)

/-- A granular facet that is measured in the texts of integers. -/
def FacetRequest.inTexts (facet : FacetRequest) (lower upper granularity : Int) : FacetRequest :=
  facet.measured (.str (toString lower)) (.str (toString upper)) (.str (toString granularity))

namespace Lowering

open Granularity Binary64

variable {setting : Setting} {drawn : Value} {query : SearchQuery} {catalog : FieldCatalog}
  {facet : FacetRequest} {lower upper granularity : Int}

/-- A granular facet without calendar units is counted in the interval of its granularity, between
the numbers of its ends. -/
theorem histogramAggregation_measured {first last size first' last' interval : Value}
    (hdate : facet.dateDisplay ≠ some true) (hfirst : number? first = some first')
    (hlast : number? last = some last') (hsize : Granularity.interval size = .ok interval)
    (field : String) :
    histogramAggregation (facet.measured first last size) field =
      .ok (.histogram field interval (some (first', last'))) := by
  have hmeasured : (facet.measured first last size).dateDisplay ≠ some true := hdate
  have hbounds : extendedBounds (facet.measured first last size) = some (first', last') := by
    simp only [extendedBounds, FacetRequest.measured, hfirst, hlast]
  have hinterval : Granularity.interval (facet.measured first last size).granularity =
      .ok interval := hsize
  rw [histogramAggregation, if_neg hmeasured, hinterval, hbounds]
  rfl

theorem histogramAggregation_inNumbers (hdate : facet.dateDisplay ≠ some true)
    (hpositive : 0 < granularity) (field : String) :
    histogramAggregation (facet.inNumbers lower upper granularity) field =
      .ok (.histogram field (.int granularity) (some (.int lower, .int upper))) :=
  histogramAggregation_measured hdate rfl rfl (interval_int hpositive) field

theorem histogramAggregation_inTexts (hdate : facet.dateDisplay ≠ some true)
    (hpositive : 0 < granularity) (field : String) :
    histogramAggregation (facet.inTexts lower upper granularity) field =
      .ok (.histogram field (ofDigits granularity) (some (ofDigits lower, ofDigits upper))) :=
  histogramAggregation_measured hdate (number?_toString lower) (number?_toString upper)
    (interval_toString hpositive) field

/-- Both histograms of a facet. -/
theorem histogramAggregations_eq_iff (facet : FacetRequest) (lower upper : Int)
    (hpositive : 0 < granularity) (field : String) :
    ∃ texts numbers,
      histogramAggregation (facet.inTexts lower upper granularity) field = .ok texts ∧
      histogramAggregation (facet.inNumbers lower upper granularity) field = .ok numbers ∧
      (texts = numbers ↔ facet.dateDisplay = some true ∨
        (IsExact lower ∧ IsExact upper ∧ IsExact granularity)) := by
  by_cases hdate : facet.dateDisplay = some true
  · refine ⟨_, _, if_pos hdate, if_pos hdate, iff_of_true ?_ (.inl hdate)⟩
    exact congrArg (Aggregation.dateHistogram field) (calendarUnit_toString granularity)
  · refine ⟨_, _, histogramAggregation_inTexts hdate hpositive field,
      histogramAggregation_inNumbers hdate hpositive field, ?_⟩
    simp only [Aggregation.histogram.injEq, Option.some.injEq, Prod.mk.injEq, ofDigits_eq_int_iff,
      true_and, hdate, false_or]
    tauto

/-- The nested objects that a facet is counted in, if it has options for them and its field is
nested. -/
def nestedOptions? (catalog : FieldCatalog) (facet : FacetRequest) : Option NestedFacetOptions :=
  facet.nested.filter fun _ => catalog.isNestedField facet.field

/-- The part of a granular facet with a histogram. -/
def histogramPart (catalog : FieldCatalog) (facet : FacetRequest) (histogram : Aggregation) :
    FacetPart :=
  match nestedOptions? catalog facet with
  | some options => nestedFacetPart facet options [(facet.id, histogram)]
  | none => { facet, aggregations := [(facet.id, histogram)] }

theorem lowerFacet_of_histogram {histogram : Aggregation} (hfield : catalog.Knows facet.field)
    (hkind : facet.kind = .granular)
    (hhistogram : histogramAggregation facet (FieldPath.dotted facet.field) = .ok histogram) :
    lowerFacet catalog facet = .ok (histogramPart catalog facet histogram) := by
  obtain ⟨known, hknown⟩ := FieldCatalog.resolve_of_knows hfield
  have haggregations : ∀ limit source,
      facetAggregations facet (FieldPath.dotted facet.field) limit source =
        .ok [(facet.id, histogram)] := by
    intro limit source
    simp only [facetAggregations, hkind, hhistogram]
    rfl
  have hnested : isNestedFacet catalog facet = (nestedOptions? catalog facet).isSome := by
    rw [isNestedFacet, hkind, nestedOptions?, Option.isSome_filter]
    cases facet.nested <;> rfl
  rw [lowerFacet, hknown, Outcome.bind_ok, hnested, histogramPart]
  cases hoptions : nestedOptions? catalog facet with
  | none =>
      rw [haggregations]
      rfl
  | some options =>
      have hsome : facet.nested = some options := (Option.filter_eq_some_iff.mp hoptions).1
      exact lowerNestedFacet_eq_ok_iff.mpr ⟨options, _, hsome, haggregations _ _, rfl⟩

/-- Parts of one facet with different ends or granularities differ in their histograms only. -/
theorem histogramPart_measured (first last size first' last' size' : Value)
    (histogram histogram' : Aggregation) :
    ((histogramPart catalog (facet.measured first last size) histogram).aggregations =
        (histogramPart catalog (facet.measured first' last' size') histogram').aggregations ↔
      histogram = histogram') ∧
      (histogramPart catalog (facet.measured first last size) histogram).selection =
        (histogramPart catalog (facet.measured first' last' size') histogram').selection := by
  have hoptions : nestedOptions? catalog (facet.measured first last size) =
      nestedOptions? catalog (facet.measured first' last' size') := rfl
  unfold histogramPart
  rw [hoptions]
  cases nestedOptions? catalog (facet.measured first' last' size') with
  | none => exact ⟨by simp [FacetRequest.measured], rfl⟩
  | some options =>
      refine ⟨?_, rfl⟩
      simp [nestedFacetPart, FacetRequest.measured, nestedPath]

/-- A binary number holds the ends and the granularity of a facet, or the facet is counted in
calendar units. -/
def ReadsAlike (facet : FacetRequest) (lower upper granularity : Int) : Prop :=
  facet.dateDisplay = some true ∨ (IsExact lower ∧ IsExact upper ∧ IsExact granularity)

/-- In texts a facet has the histogram that it has in numbers exactly where a binary number holds
these; with such texts all queries that count the facet are compiled alike. As bounds of ranges all
texts in digits are the integers. -/
theorem histogram_inTexts_iff (setting : Setting) (facet : FacetRequest) (lower upper : Int)
    (hfield : setting.catalog.Knows facet.field) (hpositive : 0 < granularity) :
    (∃ texts numbers,
      lowerFacet setting.catalog (facet.inTexts lower upper granularity) = .ok texts ∧
      lowerFacet setting.catalog (facet.inNumbers lower upper granularity) = .ok numbers ∧
      (facet.dateDisplay ≠ some true →
        numbers = histogramPart setting.catalog (facet.inNumbers lower upper granularity)
          (.histogram (FieldPath.dotted facet.field) (.int granularity)
            (some (.int lower, .int upper)))) ∧
      (texts.aggregations = numbers.aggregations ↔ ReadsAlike facet lower upper granularity)) ∧
    (ReadsAlike facet lower upper granularity → ∀ drawn (query : SearchQuery) before after,
      compileQuery setting drawn
          { query with facets := before ++ facet.inTexts lower upper granularity :: after } =
        compileQuery setting drawn
          { query with facets := before ++ facet.inNumbers lower upper granularity :: after }) ∧
    ∀ i : Int, decimalLength i.natAbs ≤ Numeral.digitLimit →
      FieldCatalog.coerceBound (.str (toString i)) = FieldCatalog.coerceBound (.int i) := by
  let inTexts := facet.inTexts lower upper granularity
  let inNumbers := facet.inNumbers lower upper granularity
  obtain ⟨histogram, histogram', hhistogram, hhistogram', hiff⟩ :=
    histogramAggregations_eq_iff facet lower upper hpositive (FieldPath.dotted facet.field)
  have htexts : lowerFacet setting.catalog inTexts = _ :=
    lowerFacet_of_histogram hfield rfl hhistogram
  have hnumbers : lowerFacet setting.catalog inNumbers = _ :=
    lowerFacet_of_histogram hfield rfl hhistogram'
  obtain ⟨haggregations, hselection⟩ :
      ((histogramPart setting.catalog inTexts histogram).aggregations =
          (histogramPart setting.catalog inNumbers histogram').aggregations ↔
        histogram = histogram') ∧ (histogramPart setting.catalog inTexts histogram).selection =
          (histogramPart setting.catalog inNumbers histogram').selection :=
    histogramPart_measured _ _ _ _ _ _ _ _
  have hagree := haggregations.trans hiff
  refine ⟨⟨_, _, htexts, hnumbers, ?_, hagree⟩, ?_, fun i => FieldCatalog.coerceBound_toString⟩
  · intro hdate
    rw [histogramAggregation_inNumbers hdate hpositive] at hhistogram'
    rw [Except.ok.inj hhistogram']
  · intro halike drawn query before after
    apply compileQuery_congr_facets
    exact lowerFacets_replace hnumbers htexts rfl rfl (hagree.mpr halike) hselection before after

/-- Even ends of 54 bits and small ones are read as they are written. -/
theorem evenPrices_agree :
    articles.Knows "price" ∧ (0 : Int) < 10 ∧
      ReadsAlike (prices .null) (-5) 9007199254740994 10 ∧
      compileQuery { collection := .null, catalog := articles } .null
          { facets := [(prices .null).inTexts (-5) 9007199254740994 10] } =
        compileQuery { collection := .null, catalog := articles } .null
          { facets := [(prices .null).inNumbers (-5) 9007199254740994 10] } := by
  have hfield : articles.Knows "price" := by decide
  have halike : ReadsAlike (prices .null) (-5) 9007199254740994 10 :=
    .inr ⟨⟨5, 0, by decide⟩, ⟨4503599627370497, 1, by decide⟩, ⟨10, 0, by decide⟩⟩
  obtain ⟨-, hcompiled, -⟩ := histogram_inTexts_iff { collection := .null, catalog := articles }
    (prices .null) (-5) 9007199254740994 hfield (show (0 : Int) < 10 by decide)
  exact ⟨hfield, by decide, halike, hcompiled halike .null {} [] []⟩

/-- The odd number after the first one of 54 bits is lost: a histogram begins at the even number
below. -/
theorem oddPrice_lost :
    ∃ texts numbers,
      lowerFacet articles ((prices .null).inTexts 9007199254740993 9007199254741000 10) =
        .ok texts ∧
      lowerFacet articles ((prices .null).inNumbers 9007199254740993 9007199254741000 10) =
        .ok numbers ∧
      texts.aggregations = [("price", .histogram "price" (.int 10)
        (some (.int 9007199254740992, .int 9007199254741000)))] ∧
      numbers.aggregations = [("price", .histogram "price" (.int 10)
        (some (.int 9007199254740993, .int 9007199254741000)))] :=
  ⟨_, _, rfl, rfl, rfl, rfl⟩

end Lowering

end FacetedSearch
