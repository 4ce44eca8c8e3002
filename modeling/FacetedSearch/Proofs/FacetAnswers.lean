import FacetedSearch.Lowering.Query
import FacetedSearch.Proofs.FacetReading
import FacetedSearch.Proofs.Readings
import FacetedSearch.Result.Response

/-!
Compiled facets and read facets fit together. Whatever a backend answers to the aggregations of some
facets, reading gives the facets exactly the buckets of their bucket aggregations with a sufficient
count, and ranges exactly their measures.
-/

namespace FacetedSearch.Lowering

open Aggregation

variable {catalog : FieldCatalog} {facet : FacetRequest} {own : List String} {leaf : Aggregation}
  {isNested : Bool}

theorem keyOf_of_not_date (hdate : leaf.isDateHistogram = false) (bucket : Value) :
    leaf.keyOf bucket = bucket.path ["key"] := by
  cases leaf with
  | dateHistogram field unit => cases hdate
  | _ => rfl

/-- Keys are read as times exactly where they are keys of date histograms. -/
theorem readKey_of_leaf (hleaf : IsLeafOf facet isNested leaf) {bucket : Value}
    (h : BucketAnswers own leaf bucket) :
    (if facet.hasDateKeys then FacetBucket.inSeconds (bucket.path ["key"])
      else pure (bucket.path ["key"])) = .ok (leaf.keyOf bucket) := by
  rw [hleaf.hasDateKeys]
  cases hdate : leaf.isDateHistogram with
  | false =>
      rw [if_neg Bool.false_ne_true, keyOf_of_not_date hdate]
      rfl
  | true =>
      rw [if_pos rfl]
      have htime := h.isTime hdate
      cases leaf with
      | dateHistogram field unit =>
          rcases htime with ⟨i, hkey, hlong⟩ | ⟨x, hkey⟩
          · simp only [hkey, FacetBucket.inSeconds, keyOf, Binary64.isFinite_ofQuotient hlong,
              if_true]
          · simp only [hkey, FacetBucket.inSeconds, keyOf]
      | _ => cases hdate

/-- Where a bucket has no result under the id of its facet, there is no top source. -/
theorem topSource_of_no_hits {entries : Entries Value} (h : facet.id ∉ entries.names) :
    facet.topSource entries = .null := by
  rw [FacetRequest.topSource, Value.path, Value.member, Entries.find?_eq_none_of_not_mem h]
  rfl

theorem optional_object_of_isSource {source : Value} (h : IsSource source) :
    Decode.optional Decode.object source = some source.entries? := by
  rcases h with rfl | ⟨entries, rfl⟩
  · rfl
  · rfl

/-- Sources are read exactly where the aggregation has top hits. -/
theorem readSource_of_leaf (hleaf : IsLeafOf facet isNested leaf) (hown : facet.id ∉ own)
    {entries : Entries Value} (h : BucketAnswers own leaf (.object entries)) :
    Decode.optional Decode.object (if isNested then facet.topSource entries else .null) =
      some (leaf.sourceOf (.object entries)) := by
  rcases hleaf.held with hheld | ⟨rfl, path, hheld⟩
  · have hsource : leaf.sourceOf (.object entries) = none := by
      simp [sourceOf, topHitName?, hheld]
    have hnull : (if isNested then facet.topSource entries else .null) = .null := by
      obtain ⟨_, _, _, ⟨⟩, -, -, hnames⟩ := h.isBucket
      rw [topSource_of_no_hits, ite_self]
      intro hid
      simpa [hheld, hown] using hnames _ hid
    rw [hsource, hnull]
    rfl
  · have hsource : leaf.sourceOf (.object entries) = (facet.topSource entries).entries? := by
      simp only [sourceOf, topHitName?, hheld, FacetRequest.topSource, isTopHit, List.find?_cons_of_pos,
        Option.map_some]
      generalize (Value.object entries).path [facet.id, "hits", "hits"] = hits
      cases hits with
      | list items => cases items <;> rfl
      | _ => rfl
    have hanswer := h.held
    rw [hheld] at hanswer
    obtain ⟨hits, hhits, hsources⟩ := hanswer.1
    rw [if_pos rfl, hsource]
    apply optional_object_of_isSource
    rw [FacetRequest.topSource, Value.path_cons, hhits]
    cases hits with
    | nil => exact .inl rfl
    | cons hit rest => exact hsources hit List.mem_cons_self

/-- A bucket of a facet is read as what its aggregation reports, if its count is large enough. -/
theorem readBucket_of_leaf (hleaf : IsLeafOf facet isNested leaf) (hown : facet.id ∉ own)
    {bucket : Value} (h : BucketAnswers own leaf bucket) :
    facet.readBucket isNested bucket =
      .ok (if facet.minCount ≤ countOf bucket then .value (leaf.reportedBucket bucket)
        else .nothing) := by
  obtain ⟨entries, key, count, rfl, hkey, hcount, -⟩ := h.isBucket
  have hpath : (Value.object entries).path ["key"] = key := by
    simp [Value.path, Value.member, hkey]
  have hcountOf : countOf (.object entries) = count := by
    simp [countOf, Value.path, Value.member, hcount]
  have hread : facet.readCounted isNested entries key count =
      .ok (leaf.reportedBucket (.object entries)) := by
    have hkeyRead := readKey_of_leaf hleaf h
    rw [hpath] at hkeyRead
    simp only [FacetRequest.readCounted, readSource_of_leaf hleaf hown h, reportedBucket, hcountOf]
    split_ifs at hkeyRead ⊢ with hdate
    · rw [hkeyRead]
      rfl
    · rw [hkeyRead]
      rfl
  simp only [FacetRequest.readBucket, hkey, hcount, Option.getD_some, hcountOf, hread,
    Outcome.bind_ok]
  by_cases hmin : facet.minCount ≤ count
  · rw [if_neg (Int.not_lt.mpr hmin), if_pos hmin]
    rfl
  · rw [if_pos (Int.not_le.mp hmin), if_neg hmin]

theorem exists_object_of_path {value result : Value} {name : String} {names : List String}
    (h : value.path (name :: names) = result) (hresult : result ≠ .null) :
    ∃ entries, value = .object entries := by
  cases value with
  | object entries => exact ⟨entries, rfl⟩
  | _ => exact absurd h.symm hresult

theorem exists_bucketPath_cons (catalog : FieldCatalog) (facet : FacetRequest) :
    ∃ names, bucketPath catalog facet = facet.id :: names := by
  unfold bucketPath
  split_ifs
  · exact ⟨_, rfl⟩
  · exact ⟨_, rfl⟩

theorem elements_list (items : List Value) : elements (.list items) = .ok items := by
  cases items <;> rfl

/-- The readings of buckets without malformed ones among them. -/
theorem ofList_reported (leaf : Aggregation) (minCount : Int) (buckets : List Value) :
    Readings.ofList (buckets.map fun bucket =>
        if minCount ≤ countOf bucket then Reading.value (leaf.reportedBucket bucket)
        else Reading.nothing) =
      { values := (buckets.filter fun bucket => decide (minCount ≤ countOf bucket)).map
          leaf.reportedBucket
        warnings := [] } := by
  have hread : ∀ bucket ∈ buckets,
      (if minCount ≤ countOf bucket then Reading.value (leaf.reportedBucket bucket)
        else Reading.nothing) =
      if false then .malformed ""
      else if decide (minCount ≤ countOf bucket) then .value (leaf.reportedBucket bucket)
      else .nothing := by
    intro bucket _
    simp
  rw [Readings.ofList_map hread]
  simp

/-- A facet that is no range is read as what its bucket aggregation reports. -/
theorem readBuckets_of_leaf (hleaf : IsLeafOf facet (facet.hasNestedBuckets catalog) leaf)
    (hown : facet.id ∉ own) {result : Value}
    (h : leaf.Answers own (result.path (bucketPath catalog facet))) :
    facet.readBuckets catalog result =
      .ok { values := leaf.reportedBuckets facet.minCount (result.path (bucketPath catalog facet))
            warnings := [] } := by
  obtain ⟨buckets, hbuckets, hall⟩ := hasBuckets_of_answers hleaf.isBucketed h
  obtain ⟨inner, hinner⟩ := exists_object_of_path hbuckets nofun
  have hmember : Value.member inner "buckets" = .list buckets := by
    rw [hinner] at hbuckets
    exact hbuckets
  have hmapM : buckets.mapM (facet.readBucket (facet.hasNestedBuckets catalog)) =
      .ok (buckets.map fun bucket =>
        if facet.minCount ≤ countOf bucket then .value (leaf.reportedBucket bucket)
        else .nothing) :=
    Outcome.mapM_eq_ok_map fun bucket hbucket => readBucket_of_leaf hleaf hown (hall bucket hbucket)
  have hreported : leaf.reportedBuckets facet.minCount (result.path (bucketPath catalog facet)) =
      (buckets.filter fun bucket => decide (facet.minCount ≤ countOf bucket)).map
        leaf.reportedBucket := by
    rw [reportedBuckets, bucketsOf, hbuckets]
  obtain ⟨names, hnames⟩ := exists_bucketPath_cons catalog facet
  have hfirst : result.path (facet.id :: names) = .object inner := hnames ▸ hinner
  obtain ⟨outer, rfl⟩ := exists_object_of_path hfirst nofun
  have hinnermost : facet.innermost (facet.hasNestedBuckets catalog) outer = .object inner := hinner
  simp only [FacetRequest.readBuckets, hinnermost, hmember, elements_list, Outcome.bind_ok, hmapM]
  rw [hreported, Outcome.pure_eq, ofList_reported]

theorem optional_real_of_isMeasure {result : Value} (h : IsMeasure (result.path ["value"])) :
    Decode.optional Decode.real (result.path ["value"]) = some (measureOf result) := by
  unfold measureOf
  rcases h with hnull | ⟨x, hfloat⟩ | ⟨i, hint, hlong⟩
  · rw [hnull]
    rfl
  · rw [hfloat]
    rfl
  · rw [hint]
    simp [Decode.optional, Decode.real, Decode.finiteInt?, Binary64.isFinite_ofInt hlong]

/-- The statistics under two measures and a count. -/
theorem statsOf_of_answers {entries : Entries Value} {field : String}
    (hcounted : IsCounted (.object entries))
    (h : AllAnswer own [("min", .minimum field), ("max", .maximum field)] (.object entries)) :
    ∃ stats, FacetRequest.statsOf entries = .ok stats ∧
      stats.min = measureOf ((Value.object entries).path ["min"]) ∧
      stats.max = measureOf ((Value.object entries).path ["max"]) := by
  obtain ⟨count, hcount⟩ := hcounted
  have hdocCount : Value.member entries "doc_count" = .int count := hcount
  have hmin := optional_real_of_isMeasure h.1
  have hmax := optional_real_of_isMeasure h.2.1
  rw [← Value.path_cons] at hmin hmax
  refine ⟨⟨_, _, some count⟩, ?_, rfl, rfl⟩
  simp only [FacetRequest.statsOf, FacetStats.ofEntries?, Decode.defaulted, Entries.find?_cons,
    hdocCount, String.reduceEq, if_true, if_false, hmin, hmax]
  rfl

/-- What the results of a search report about a facet: exactly the buckets of its bucket aggregation
that have a sufficient count, or exactly its measures. -/
def Reports (facet : FacetRequest) (agg : Aggregation) (answer : Value) (results : ResultSet) :
    Prop :=
  if facet.kind = .range then
    ∃ field low high stats, agg.leafResults answer = [(.minimum field, low), (.maximum field, high)] ∧
      results.facetStats.find? facet.id = some stats ∧
      stats.min = measureOf low ∧ stats.max = measureOf high
  else
    ∃ leaf result, agg.leafResults answer = [(leaf, result)] ∧ leaf.isBucketed = true ∧
      results.facets.find? facet.id = some (leaf.reportedBuckets facet.minCount result)

/-- The results under an id are the same. -/
def AgreeAt (results others : ResultSet) (id : String) : Prop :=
  results.facets.find? id = others.facets.find? id ∧
    results.facetStats.find? id = others.facetStats.find? id

theorem Reports.of_agreeAt {agg : Aggregation} {answer : Value} {results others : ResultSet}
    (h : Reports facet agg answer results) (hagree : AgreeAt others results facet.id) :
    Reports facet agg answer others := by
  unfold Reports at h ⊢
  rw [hagree.1, hagree.2]
  exact h

/-- A range facet is read as the measures of its aggregations. -/
theorem readStats_of_answers {part : FacetPart} {clause : Clause} {answer : Value}
    (hkind : facet.kind = .range) (hpart : lowerFacet catalog facet = .ok part)
    (h : (Aggregation.filter clause part.aggregations).Answers own answer) :
    ∃ field low high stats,
      leafResultsOf part.aggregations answer = [(.minimum field, low), (.maximum field, high)] ∧
      facet.readStats catalog answer = .ok (some stats) ∧
      stats.min = measureOf low ∧ stats.max = measureOf high := by
  have hnestedStats : facet.hasNestedStats catalog = isNestedFacet catalog facet := by
    simp [FacetRequest.hasNestedStats, isNestedFacet, hkind]
  obtain ⟨hcounted, hall⟩ := h
  obtain ⟨entries, rfl⟩ : ∃ entries, answer = .object entries := by
    obtain ⟨count, hcount⟩ := hcounted
    exact exists_object_of_path hcount nofun
  rcases lowerFacet_aggregations hpart with
    ⟨hnested, field, limit, haggs⟩ | ⟨hnested, field, limit, path, group, inner, hinner, haggs⟩
  · rw [facetAggregations, hkind] at haggs
    obtain haggs := Except.ok.inj haggs
    rw [← haggs] at hall ⊢
    obtain ⟨stats, hstats, hmin, hmax⟩ := statsOf_of_answers hcounted hall
    refine ⟨field, _, _, stats, rfl, ?_, hmin, hmax⟩
    simp [FacetRequest.readStats, hnestedStats, hnested, hstats]
  · rw [facetAggregations, hkind] at hinner
    obtain rfl := Except.ok.inj hinner
    rw [haggs] at hall ⊢
    obtain ⟨hcountedInner, hallInner⟩ := hall.1.2.1
    rw [← Value.path_cons] at hcountedInner hallInner
    obtain ⟨below, hbelow⟩ : ∃ below,
        (Value.object entries).path [facet.id, facet.id] = .object below := by
      obtain ⟨count, hcount⟩ := hcountedInner
      exact exists_object_of_path hcount nofun
    rw [hbelow] at hcountedInner hallInner
    obtain ⟨stats, hstats, hmin, hmax⟩ := statsOf_of_answers hcountedInner hallInner
    refine ⟨field, _, _, stats, ?_, ?_, hmin, hmax⟩
    · simp only [leafResultsOf, leafResults, ← Value.path_cons, hbelow]
      rfl
    · simp [FacetRequest.readStats, hnestedStats, hnested, hbelow, hstats]

/-- Adding a facet reports it and leaves the results of others alone. -/
theorem addFacet_reports {aggregations : Entries Value} {part : FacetPart} {clause : Clause}
    (hown : facet.id ∉ own) (hpart : lowerFacet catalog facet = .ok part)
    (h : (Aggregation.filter clause part.aggregations).Answers own
      (Value.member aggregations facet.id)) (results : ResultSet) :
    ∃ added, ResultSet.addFacet catalog aggregations results facet = .ok added ∧
      Reports facet (.filter clause part.aggregations) (Value.member aggregations facet.id) added ∧
      ∀ id, id ≠ facet.id → AgreeAt added results id := by
  by_cases hkind : facet.kind = .range
  · obtain ⟨field, low, high, stats, hleaves, hread, hmin, hmax⟩ :=
      readStats_of_answers hkind hpart h
    refine ⟨{ results with facetStats := results.facetStats.put facet.id stats }, ?_, ?_, ?_⟩
    · simp [ResultSet.addFacet, hkind, hread]
    · rw [Reports, if_pos hkind]
      exact ⟨field, low, high, stats, hleaves, Entries.find?_put_self _ _ _, hmin, hmax⟩
    · intro id hid
      exact ⟨rfl, Entries.find?_put_of_ne _ _ hid⟩
  · obtain ⟨leaf, hleaf, hresults⟩ := lowerFacet_leaf own hkind hpart
    obtain ⟨hleaves, hanswers⟩ := hresults (Value.member aggregations facet.id)
    have hread := readBuckets_of_leaf hleaf hown (hanswers h.2)
    refine ⟨{ results with
      facets := results.facets.put facet.id (leaf.reportedBuckets facet.minCount
        ((Value.member aggregations facet.id).path (bucketPath catalog facet)))
      warnings := results.warnings ++ [] }, ?_, ?_, ?_⟩
    · unfold ResultSet.addFacet
      split
      · next hrange => exact absurd hrange hkind
      · simp only [hread, Outcome.bind_ok]
        rfl
    · rw [Reports, if_neg hkind]
      exact ⟨leaf, _, hleaves, hleaf.isBucketed, Entries.find?_put_self _ _ _⟩
    · intro id hid
      exact ⟨Entries.find?_put_of_ne _ _ hid, rfl⟩

/-- Facets that are added one by one are all reported in the end. -/
theorem foldlM_addFacet (reported : FacetRequest → ResultSet → Prop) {aggregations : Entries Value}
    {facets : List FacetRequest} (hids : (facets.map (·.id)).Nodup)
    (hagree : ∀ facet results others, reported facet results →
      AgreeAt others results facet.id → reported facet others)
    (hadd : ∀ facet ∈ facets, ∀ results, ∃ added,
      ResultSet.addFacet catalog aggregations results facet = .ok added ∧ reported facet added ∧
      ∀ id, id ≠ facet.id → AgreeAt added results id)
    (start : ResultSet) :
    ∃ results, facets.foldlM (ResultSet.addFacet catalog aggregations) start = .ok results ∧
      (∀ facet ∈ facets, reported facet results) ∧
      ∀ id, id ∉ facets.map (·.id) → AgreeAt results start id := by
  induction facets generalizing start with
  | nil => exact ⟨start, rfl, by simp, fun id _ => ⟨rfl, rfl⟩⟩
  | cons first rest ih =>
      rw [List.map_cons, List.nodup_cons] at hids
      obtain ⟨hfirst, hrest⟩ := List.forall_mem_cons.mp hadd
      obtain ⟨added, hadded, hreported, hothers⟩ := hfirst start
      obtain ⟨results, hresults, hall, hkept⟩ := ih hids.2 hrest added
      refine ⟨results, ?_, ?_, ?_⟩
      · rw [List.foldlM_cons, hadded]
        exact hresults
      · refine List.forall_mem_cons.mpr ⟨?_, hall⟩
        exact hagree first added results hreported (hkept first.id hids.1)
      · intro id hid
        rw [List.map_cons, List.mem_cons, not_or] at hid
        obtain ⟨hfacets, hstats⟩ := hkept id hid.2
        obtain ⟨hfacets', hstats'⟩ := hothers id hid.1
        exact ⟨hfacets.trans hfacets', hstats.trans hstats'⟩

def IsNullOrObject (value : Value) : Prop := value = .null ∨ ∃ entries, value = .object entries

/-- A response has the shape that is expected of it: its hits and suggestions are objects if they
are given, and its aggregations answer the ones that were asked for. -/
structure IsAnswered (own : List String) (aggs : Entries Aggregation) (response : Value) : Prop where
  isObject : ∃ entries, response = .object entries
  hits : IsNullOrObject (response.path ["hits"])
  items : response.path ["hits", "hits"] = .null ∨
    ∃ items, response.path ["hits", "hits"] = .list items
  suggest : IsNullOrObject (response.path ["suggest"])
  aggregations : AllAnswer own aggs (response.path ["aggregations"])

theorem exists_entriesOrEmpty {value : Value} (h : IsNullOrObject value) :
    ∃ entries, entriesOrEmpty value = .ok entries ∧
      ∀ name, Value.member entries name = value.path [name] := by
  rcases h with rfl | ⟨entries, rfl⟩
  · exact ⟨[], rfl, fun _ => rfl⟩
  · cases entries with
    | nil => exact ⟨[], rfl, fun _ => rfl⟩
    | cons entry rest => exact ⟨entry :: rest, rfl, fun _ => rfl⟩

theorem exists_elements {value : Value} (h : value = .null ∨ ∃ items, value = .list items) :
    ∃ items, elements value = .ok items := by
  rcases h with rfl | ⟨items, rfl⟩
  · exact ⟨[], rfl⟩
  · exact ⟨items, elements_list items⟩

variable {query : SearchQuery} {postFilters : Entries Clause} {parts : FacetParts}

/-- The answered facets of a query are reported, whatever results they are added to. -/
theorem addFacets_reports {aggregations : Value} (hautocomplete : query.autocomplete = none)
    (hids : (query.facets.map (·.id)).Nodup) (hown : ∀ facet ∈ query.facets, facet.id ∉ own)
    (h : lowerFacets catalog query.facets postFilters = .ok parts)
    (hanswers : AllAnswer own parts.aggregations aggregations) (start : ResultSet) :
    ∃ results, ResultSet.addFacets catalog query aggregations start = .ok results ∧
      ∀ facet ∈ query.facets, ∃ agg, parts.aggregations.find? facet.id = some agg ∧
        Reports facet agg (aggregations.path [facet.id]) results := by
  have hanswer : ∀ facet ∈ query.facets, ∃ part clause, lowerFacet catalog facet = .ok part ∧
      parts.aggregations.find? facet.id = some (.filter clause part.aggregations) ∧
      (Aggregation.filter clause part.aggregations).Answers own (aggregations.path [facet.id]) := by
    intro facet hfacet
    obtain ⟨part, hpart, hfind⟩ := find?_aggregations hids h hfacet
    exact ⟨part, _, hpart, hfind, answers_of_allAnswer hanswers (Entries.mem_of_find? hfind)⟩
  unfold ResultSet.addFacets
  rw [hautocomplete]
  cases hfacets : query.facets with
  | nil => exact ⟨start, rfl, by simp⟩
  | cons first rest =>
      rw [hfacets] at hids hown hanswer
      obtain ⟨entries, hentries⟩ : ∃ entries, aggregations = .object entries := by
        obtain ⟨_, _, -, -, ⟨count, hcount⟩, -⟩ := hanswer first List.mem_cons_self
        rw [← Value.path_cons] at hcount
        exact exists_object_of_path hcount nofun
      obtain ⟨found, hfound, hmember⟩ := exists_entriesOrEmpty (.inr ⟨entries, hentries⟩)
      let reported := fun (facet : FacetRequest) (results : ResultSet) =>
        ∃ agg, parts.aggregations.find? facet.id = some agg ∧
          Reports facet agg (aggregations.path [facet.id]) results
      have hagree : ∀ facet results others, reported facet results →
          AgreeAt others results facet.id → reported facet others := by
        rintro facet results others ⟨agg, hfind, hreports⟩ hothers
        exact ⟨agg, hfind, hreports.of_agreeAt hothers⟩
      have hadd : ∀ facet ∈ first :: rest, ∀ results, ∃ added,
          ResultSet.addFacet catalog found results facet = .ok added ∧ reported facet added ∧
          ∀ id, id ≠ facet.id → AgreeAt added results id := by
        intro facet hfacet results
        obtain ⟨part, clause, hpart, hfind, hanswer⟩ := hanswer facet hfacet
        rw [← hmember] at hanswer
        obtain ⟨added, hadded, hreports, hothers⟩ :=
          addFacet_reports (hown facet hfacet) hpart hanswer results
        exact ⟨added, hadded, ⟨_, hfind, hmember facet.id ▸ hreports⟩, hothers⟩
      obtain ⟨results, hresults, hall, -⟩ := foldlM_addFacet reported hids hagree hadd start
      refine ⟨results, ?_, hall⟩
      simp only [hfound, Outcome.bind_ok]
      exact hresults

/-- Reading a response to the aggregations of some facets succeeds and gives each facet exactly what
its aggregations report. -/
theorem ofResponse_reports_facets {response : Value} (hautocomplete : query.autocomplete = none)
    (hids : (query.facets.map (·.id)).Nodup) (hown : ∀ facet ∈ query.facets, facet.id ∉ own)
    (h : lowerFacets catalog query.facets postFilters = .ok parts)
    (hresponse : IsAnswered own parts.aggregations response) :
    ∃ results, ResultSet.ofResponse catalog query response = .ok results ∧
      ∀ facet ∈ query.facets, ∃ agg, parts.aggregations.find? facet.id = some agg ∧
        Reports facet agg (response.path ["aggregations", facet.id]) results := by
  obtain ⟨⟨entries, rfl⟩, hhits, hitems, hsuggest, haggregations⟩ := hresponse
  obtain ⟨block, hblock, hmember⟩ := exists_entriesOrEmpty hhits
  rw [Value.path_cons, ← hmember] at hitems
  obtain ⟨items, hitems⟩ := exists_elements hitems
  obtain ⟨suggest, hsuggest, -⟩ := exists_entriesOrEmpty hsuggest
  obtain ⟨results, hresults, hreports⟩ := addFacets_reports hautocomplete hids hown h haggregations
    { total := Hit.total (Value.member block "total")
      items := (Hit.readAll catalog items).values
      warnings := (Hit.readAll catalog items).warnings }
  have hgiven : ∀ name, (Value.object entries).path [name] = Value.member entries name :=
    fun _ => rfl
  rw [hgiven] at hblock hsuggest hresults
  have hread : ResultSet.ofResponse catalog query (.object entries) =
      ResultSet.addSuggestions query (Value.member entries "aggregations") suggest results := by
    simp only [ResultSet.ofResponse, hblock, hitems, hresults, hsuggest, Outcome.bind_ok]
  simp only [hread, ResultSet.addSuggestions, hautocomplete, Outcome.pure_eq]
  refine ⟨_, rfl, fun facet hfacet => ?_⟩
  obtain ⟨agg, hfind, hreport⟩ := hreports facet hfacet
  rw [← Value.path_cons] at hreport
  exact ⟨agg, hfind, hreport.of_agreeAt ⟨rfl, rfl⟩⟩

def offersCatalog : FieldCatalog where
  entries :=
    [("price", { id := "price", type := .decimal }),
      ("offers", { id := "offers", type := .nestedObject })]

/-- The sellers of new offers, and the range of prices. -/
def offersQuery : SearchQuery where
  facets :=
    [{ id := "sellers", field := "offers.seller", kind := .nested
       nested := some { groupField := "offers.kind", groupValue := .str "new" } },
      { id := "prices", field := "price", kind := .range }]

def offersAggregations : Entries Aggregation :=
  [("sellers", .filter .matchAll
      [("sellers", .nested "offers"
        [("sellers", .filter (.term "offers.kind" (.str "new"))
          [("sellers", .terms "offers.seller" 1 (.int 1000) false
            [("sellers", .topHit "offers")])])])]),
    ("prices", .filter .matchAll [("min", .minimum "price"), ("max", .maximum "price")])]

def counted (count : Int) (entries : List (String × Value)) : Value :=
  .object (("doc_count", .int count) :: entries)

def offersBucket : Value :=
  counted 2
    [("key", .str "first shop"),
      ("sellers", .object [("hits", .object [("hits", .list
        [.object [("_source", .object [("seller", .str "first shop")])]])])])]

/-- An answer of the backend, in which one seller has two offers. -/
def offersResponse : Value :=
  .object [("aggregations", .object
    [("sellers", counted 3 [("sellers", counted 4 [("sellers", counted 2
        [("sellers", .object [("buckets", .list [offersBucket])])])])]),
      ("prices", counted 3
        [("min", .object [("value", .int 5)]), ("max", .object [("value", .null)])])])]

theorem offersResponse_isAnswered :
    IsAnswered ["key", "doc_count"] offersAggregations offersResponse where
  isObject := ⟨_, rfl⟩
  hits := .inl rfl
  items := .inl rfl
  suggest := .inl rfl
  aggregations := by
    have hbucket : IsBucket ["key", "doc_count"] ["sellers"] offersBucket :=
      ⟨_, _, _, rfl, rfl, rfl, by simp [Entries.names]⟩
    have hhits : Answers ["key", "doc_count"] (.topHit "offers") (offersBucket.path ["sellers"]) :=
      ⟨_, rfl, by simp [IsSource, Value.path, Value.member, Entries.find?]⟩
    have hsellers : Answers ["key", "doc_count"]
        (.terms "offers.seller" 1 (.int 1000) false [("sellers", .topHit "offers")])
        (.object [("buckets", .list [offersBucket])]) :=
      ⟨_, rfl, by simpa using ⟨hbucket, hhits, trivial⟩⟩
    exact ⟨⟨⟨3, rfl⟩, ⟨⟨4, rfl⟩, ⟨⟨2, rfl⟩, hsellers, trivial⟩, trivial⟩, trivial⟩,
      ⟨⟨3, rfl⟩, .inr (.inr ⟨5, rfl, by decide⟩), .inl rfl, trivial⟩, trivial⟩

theorem ofResponse_reports_offers :
    offersQuery.autocomplete = none ∧ (offersQuery.facets.map (·.id)).Nodup ∧
      (∀ facet ∈ offersQuery.facets, facet.id ∉ ["key", "doc_count"]) ∧
      lowerFacets offersCatalog offersQuery.facets [] =
        .ok { aggregations := offersAggregations } ∧
      IsAnswered ["key", "doc_count"] offersAggregations offersResponse ∧
      ∃ results, ResultSet.ofResponse offersCatalog offersQuery offersResponse = .ok results ∧
        ∀ facet ∈ offersQuery.facets, ∃ agg, offersAggregations.find? facet.id = some agg ∧
          Reports facet agg (offersResponse.path ["aggregations", facet.id]) results := by
  have hids : (offersQuery.facets.map (·.id)).Nodup := by decide
  have hown : ∀ facet ∈ offersQuery.facets, facet.id ∉ ["key", "doc_count"] := by decide
  have hlower : lowerFacets offersCatalog offersQuery.facets [] =
      .ok { aggregations := offersAggregations } := rfl
  exact ⟨rfl, hids, hown, hlower, offersResponse_isAnswered,
    ofResponse_reports_facets rfl hids hown hlower offersResponse_isAnswered⟩

end FacetedSearch.Lowering
