import FacetedSearch.Proofs.FacetAnswers

/-!
Which aggregations of facets can be read. Buckets must be something that can be walked over, and of
those that count, the key of a date must be a time that a float can hold, and a top source an
object. Malformed buckets are skipped. The measures of a range must be numbers if they are given. An
aggregation that is not there can always be read, as no buckets or no statistics.
-/

namespace FacetedSearch

namespace Value

/-- A value that counts as given can be walked over. -/
def IsWalkable (value : Value) : Prop := value.isTruthy = true → value.visited?.isSome = true

/-- What a walk over a value visits, if it can be walked over. -/
def walked (value : Value) : List Value := value.visited?.getD []

theorem path_append (value : Value) (names others : List String) :
    value.path (names ++ others) = (value.path names).path others := by
  induction names generalizing value with
  | nil => rfl
  | cons name rest ih => rw [List.cons_append, path_cons, ih, ← path_cons]

theorem path_of_not_object {value : Value} (h : value.isObject = false) (name : String)
    (names : List String) : value.path (name :: names) = .null := by
  cases value with
  | object entries => cases h
  | _ => rfl

theorem walked_of_not_truthy {value : Value} (h : value.isTruthy = false) : value.walked = [] := by
  cases value with
  | str text =>
      have htext : text = "" := by simpa [isTruthy] using h
      rw [htext]
      rfl
  | list items | tuple items | set items | object items =>
      have hitems : items = [] := by simpa [isTruthy] using h
      rw [hitems]
      rfl
  | _ => rfl

end Value

open Outcome (ReadsIff)

theorem elements_eq_walked {value : Value} {items : List Value} (h : elements value = .ok items) :
    items = value.walked := by
  unfold elements at h
  split_ifs at h with htruthy
  · rw [Value.walked]
    cases hvisited : value.visited? with
    | none => simp [hvisited] at h
    | some visited => simpa [hvisited] using h.symm
  · rw [Value.walked_of_not_truthy (Bool.eq_false_iff.mpr htruthy)]
    exact (Except.ok.inj h).symm

theorem elements_readsIff (value : Value) : ReadsIff value.IsWalkable (elements value) := by
  unfold elements Value.IsWalkable
  split_ifs with htruthy
  · cases value.visited? with
    | none => exact .refused rfl (by simp [htruthy])
    | some items => exact .accepted items (by simp)
  · exact .accepted [] fun h => absurd h htruthy

/-- A key that can be given in seconds, if it is a number; as a float it must be finite. -/
def FacetBucket.HasSeconds (key : Value) : Prop :=
  match key with
  | .int i => (Binary64.ofQuotient i 1000).isFinite = true
  | _ => True

theorem FacetBucket.inSeconds_readsIff (key : Value) :
    ReadsIff (HasSeconds key) (inSeconds key) := by
  unfold inSeconds HasSeconds
  cases key with
  | int i =>
      dsimp only
      split_ifs with hfinite
      · exact .accepted _ hfinite
      · exact .refused rfl hfinite
  | bool flag =>
      have hfinite : (Binary64.ofQuotient (if flag then 1 else 0) 1000).isFinite = true := by
        apply Binary64.isFinite_ofQuotient
        cases flag with
        | true => decide
        | false => decide
      dsimp only
      rw [if_pos hfinite]
      exact .accepted _ trivial
  | _ => exact .accepted _ trivial

namespace FacetRequest

open Lowering (bucketPath)
open Aggregation (IsSource)

variable {catalog : FieldCatalog} {facet : FacetRequest} {isNested : Bool}

/-- The key of a bucket that is well formed and has a sufficient count. -/
def countedKey? (facet : FacetRequest) (bucket : Entries Value) : Option Value :=
  match bucket.find? "key", (bucket.find? "doc_count").getD (.int 0) with
  | some key, .int count => if count < facet.minCount then none else some key
  | _, _ => none

/-- A bucket of which, if it counts, the time and the top source can be taken over. -/
def IsReadableBucket (facet : FacetRequest) (isNested : Bool) (bucket : Value) : Prop :=
  ∀ entries ∈ bucket.entries?, ∀ key ∈ facet.countedKey? entries,
    (facet.hasDateKeys = true → FacetBucket.HasSeconds key) ∧
      (isNested = true → IsSource (facet.topSource entries))

/-- Measures and counts that can be taken over, among them missing ones. -/
def IsReadableStats (agg : Entries Value) : Prop :=
  (Decode.optional Decode.real ((Value.object agg).path ["min", "value"])).isSome = true ∧
  (Decode.optional Decode.real ((Value.object agg).path ["max", "value"])).isSome = true ∧
  (Decode.optional Decode.whole (Value.member agg "doc_count")).isSome = true

/-- The names that lead from the result of a range facet to its measures. -/
def statsPath (catalog : FieldCatalog) (facet : FacetRequest) : List String :=
  if facet.hasNestedStats catalog then [facet.id, facet.id] else []

/-- What stands in the place of a facet's buckets; null where its aggregation is not there. -/
def givenBuckets (catalog : FieldCatalog) (facet : FacetRequest) (agg : Value) : Value :=
  agg.path (bucketPath catalog facet ++ ["buckets"])

/-- The aggregation of a facet can be taken over. -/
def IsReadable (catalog : FieldCatalog) (facet : FacetRequest) (agg : Value) : Prop :=
  match facet.kind with
  | .range => ∀ entries ∈ (agg.path (statsPath catalog facet)).entries?, IsReadableStats entries
  | _ => (facet.givenBuckets catalog agg).IsWalkable ∧
      ∀ bucket ∈ (facet.givenBuckets catalog agg).walked,
        facet.IsReadableBucket (facet.hasNestedBuckets catalog) bucket

theorem optional_object_iff {data : Value} :
    (Decode.optional Decode.object data).isSome = true ↔ IsSource data := by
  unfold IsSource
  cases data with
  | null => simp [Decode.optional]
  | _ => simp [Decode.optional, Decode.object, Value.entries?]

/-- A bucket that counts is read exactly when its time and its top source can be taken over. -/
theorem readCounted_readsIff (facet : FacetRequest) (isNested : Bool) (entries : Entries Value)
    (key : Value) (count : Int) :
    ReadsIff ((facet.hasDateKeys = true → FacetBucket.HasSeconds key) ∧
        (isNested = true → IsSource (facet.topSource entries)))
      (facet.readCounted isNested entries key count) := by
  have hdata : (Decode.optional Decode.object
      (if isNested then facet.topSource entries else .null)).isSome = true ↔
        (isNested = true → IsSource (facet.topSource entries)) := by
    cases isNested with
    | true => simpa using optional_object_iff
    | false => simp [Decode.optional]
  rw [← hdata]
  simp only [readCounted, Outcome.pure_eq, Outcome.bind_ok]
  generalize Decode.optional Decode.object
    (if isNested then facet.topSource entries else .null) = data
  have hkey := FacetBucket.inSeconds_readsIff key
  cases data with
  | none =>
      have hthrow : ReadsIff False (throw Fault.invalidData : Outcome FacetBucket) :=
        .refused rfl not_false
      split_ifs with hdate
      · exact (hkey.bind fun _ _ => hthrow).congr (by simp)
      · exact hthrow.congr (by simp)
  | some data =>
      split_ifs with hdate
      · exact (hkey.bind_total fun _ _ => ⟨_, rfl⟩).congr (by simp [hdate])
      · exact .accepted _ (by simp [hdate])

theorem readBucket_readsIff (facet : FacetRequest) (isNested : Bool) (bucket : Value) :
    ReadsIff (facet.IsReadableBucket isNested bucket) (facet.readBucket isNested bucket) := by
  unfold IsReadableBucket
  cases bucket with
  | object entries =>
      simp only [readBucket, countedKey?, Value.entries?, Option.mem_some, forall_eq']
      cases Entries.find? entries "key" with
      | none => exact .accepted _ (by simp)
      | some key =>
          generalize (Entries.find? entries "doc_count").getD (.int 0) = given
          cases given with
          | int count =>
              dsimp only
              split_ifs with hmin
              · exact .accepted _ (by simp)
              · refine ((readCounted_readsIff facet isNested entries key count).bind_total
                  fun _ _ => ⟨_, rfl⟩).congr ?_
                simp
          | _ => exact .accepted _ (by simp)
  | _ => exact .accepted _ (by simp [Value.entries?])

/-- Buckets are read one by one from what stands in their place. -/
theorem readBuckets_eq (catalog : FieldCatalog) (facet : FacetRequest) (agg : Value) :
    facet.readBuckets catalog agg = (do
      let buckets ← elements (facet.givenBuckets catalog agg)
      return Readings.ofList
        (← buckets.mapM (facet.readBucket (facet.hasNestedBuckets catalog)))) := by
  cases agg with
  | object entries =>
      have hinnermost : facet.innermost (facet.hasNestedBuckets catalog) entries =
          (Value.object entries).path (bucketPath catalog facet) := rfl
      simp only [readBuckets, hinnermost, givenBuckets, Value.path_append]
      cases (Value.object entries).path (bucketPath catalog facet) with
      | object inner => rfl
      | _ => rfl
  | _ =>
      obtain ⟨names, hnames⟩ := Lowering.exists_bucketPath_cons catalog facet
      rw [givenBuckets, Value.path_append, hnames, Value.path_of_not_object rfl]
      rfl

theorem readBuckets_readsIff (catalog : FieldCatalog) (facet : FacetRequest) (agg : Value) :
    ReadsIff
      ((facet.givenBuckets catalog agg).IsWalkable ∧
        ∀ bucket ∈ (facet.givenBuckets catalog agg).walked,
          facet.IsReadableBucket (facet.hasNestedBuckets catalog) bucket)
      (facet.readBuckets catalog agg) := by
  rw [readBuckets_eq]
  refine (elements_readsIff _).bind fun buckets hbuckets => ?_
  rw [← elements_eq_walked hbuckets]
  exact (Outcome.SucceedsIff.mapM fun bucket _ => readBucket_readsIff facet _ bucket).bind_total
    fun _ _ => ⟨_, rfl⟩

theorem statsOf_readsIff (agg : Entries Value) :
    ReadsIff (IsReadableStats agg) (statsOf agg) := by
  unfold IsReadableStats statsOf
  simp only [FacetStats.ofEntries?, Decode.defaulted, Entries.find?_cons, String.reduceEq, if_true,
    if_false]
  cases Decode.optional Decode.real ((Value.object agg).path ["min", "value"]) with
  | none => exact .refused rfl (by simp)
  | some low =>
      cases Decode.optional Decode.real ((Value.object agg).path ["max", "value"]) with
      | none => exact .refused rfl (by simp)
      | some high =>
          cases Decode.optional Decode.whole (Value.member agg "doc_count") with
          | none => exact .refused rfl (by simp)
          | some count => exact .accepted _ (by simp)

/-- Statistics are read from the object that stands in their place. -/
theorem readStats_eq (catalog : FieldCatalog) (facet : FacetRequest) (agg : Value) :
    facet.readStats catalog agg =
      match agg.path (facet.statsPath catalog) with
      | .object inner => do return some (← statsOf inner)
      | _ => .ok none := by
  unfold statsPath
  cases agg with
  | object entries =>
      simp only [readStats]
      split_ifs with hnested
      · rfl
      · rfl
  | _ =>
      split_ifs with hnested
      · rfl
      · rfl

theorem readStats_readsIff (catalog : FieldCatalog) (facet : FacetRequest) (agg : Value) :
    ReadsIff (∀ entries ∈ (agg.path (facet.statsPath catalog)).entries?, IsReadableStats entries)
      (facet.readStats catalog agg) := by
  rw [readStats_eq]
  cases agg.path (facet.statsPath catalog) with
  | object inner =>
      refine ((statsOf_readsIff inner).bind_total fun _ _ => ⟨_, rfl⟩).congr ?_
      simp [Value.entries?]
  | _ => exact .accepted _ (by simp [Value.entries?])

/-- The buckets that are read for a facet. -/
def bucketsIn (catalog : FieldCatalog) (facet : FacetRequest) (agg : Value) : List FacetBucket :=
  match facet.readBuckets catalog agg with
  | .ok readings => readings.values
  | .error _ => []

/-- The warnings about buckets of a facet that cannot be read; a range has none. -/
def warningsIn (catalog : FieldCatalog) (facet : FacetRequest) (agg : Value) : List String :=
  match facet.kind, facet.readBuckets catalog agg with
  | .range, _ => []
  | _, .ok readings => readings.warnings
  | _, .error _ => []

/-- The statistics that are read for a range facet. -/
def statsIn (catalog : FieldCatalog) (facet : FacetRequest) (agg : Value) : Option FacetStats :=
  match facet.readStats catalog agg with
  | .ok stats => stats
  | .error _ => none

/-- The buckets of a facet under its id; a range has none. -/
def bucketEntries (catalog : FieldCatalog) (facet : FacetRequest) (agg : Value) :
    Entries (List FacetBucket) :=
  match facet.kind with
  | .range => []
  | _ => [(facet.id, facet.bucketsIn catalog agg)]

/-- The statistics of a range facet under its id, if there are any. -/
def statsEntries (catalog : FieldCatalog) (facet : FacetRequest) (agg : Value) :
    Entries FacetStats :=
  match facet.kind with
  | .range => (facet.statsIn catalog agg).toList.map fun stats => (facet.id, stats)
  | _ => []

/-- A facet whose aggregation is not there, or not where it should be, has no buckets. -/
theorem bucketEntries_of_not_object {agg : Value} (hkind : facet.kind ≠ .range)
    (h : (agg.path (bucketPath catalog facet)).isObject = false) :
    facet.bucketEntries catalog agg = [(facet.id, [])] := by
  have hread : facet.readBuckets catalog agg = .ok {} := by
    rw [readBuckets_eq, givenBuckets, Value.path_append, Value.path_of_not_object h]
    rfl
  unfold bucketEntries bucketsIn
  rw [hread]
  cases hfacet : facet.kind with
  | range => exact absurd hfacet hkind
  | _ => rfl

/-- A range whose aggregation is not there, or not where it should be, has no statistics. -/
theorem statsEntries_of_not_object {agg : Value}
    (h : (agg.path (facet.statsPath catalog)).isObject = false) :
    facet.statsEntries catalog agg = [] := by
  have hread : facet.readStats catalog agg = .ok none := by
    rw [readStats_eq]
    cases hinner : agg.path (facet.statsPath catalog) with
    | object inner =>
        rw [hinner] at h
        cases h
    | _ => rfl
  unfold statsEntries statsIn
  rw [hread]
  cases facet.kind with
  | range => rfl
  | _ => rfl

end FacetRequest

end FacetedSearch
