import FacetedSearch.Aggregation.Basic
import FacetedSearch.Proofs.Entries
import FacetedSearch.Proofs.Rounding
import FacetedSearch.Result.Bucket

/-!
What a response says about aggregations. The result of an aggregation that holds others has theirs
under their names, a bucket has the results of those held by its aggregation, and besides them
only names of the backend's own. What the buckets and the measures of a chain of aggregations report
is read along the names of the chain, whatever facet the chain was made for.
-/

namespace FacetedSearch.Aggregation

def IsCounted (result : Value) : Prop := ∃ count, result.path ["doc_count"] = .int count

/-- A bucket has a key and a count, and nothing else but what is the backend's own or held. -/
def IsBucket (own held : List String) (bucket : Value) : Prop :=
  ∃ entries key count, bucket = .object entries ∧ Entries.find? entries "key" = some key ∧
    Entries.find? entries "doc_count" = some (.int count) ∧
    ∀ name ∈ Entries.names entries, name ∈ own ∨ name ∈ held

def HasBuckets (isBucket : Value → Prop) (result : Value) : Prop :=
  ∃ buckets, result.path ["buckets"] = .list buckets ∧ ∀ bucket ∈ buckets, isBucket bucket

/-- A time in milliseconds. -/
def IsTime (key : Value) : Prop := (∃ i, key = .int i ∧ IsLong i) ∨ ∃ x, key = .float x

/-- A measure of documents; of no documents it is null. -/
def IsMeasure (value : Value) : Prop :=
  value = .null ∨ (∃ x, value = .float x) ∨ ∃ i, value = .int i ∧ IsLong i

def IsSource (source : Value) : Prop := source = .null ∨ ∃ entries, source = .object entries

mutual

/-- A value has the shape of a result of an aggregation; `own` are the names of the backend's own in
buckets. -/
def Answers (own : List String) : Aggregation → Value → Prop
  | .filter _ aggs, result => IsCounted result ∧ AllAnswer own aggs result
  | .nested _ aggs, result => IsCounted result ∧ AllAnswer own aggs result
  | .terms _ _ _ _ aggs, result =>
    HasBuckets (fun bucket => IsBucket own (aggs.map Prod.fst) bucket ∧ AllAnswer own aggs bucket)
      result
  | .topHit _, result =>
    ∃ hits, result.path ["hits", "hits"] = .list hits ∧ ∀ hit ∈ hits, IsSource (hit.path ["_source"])
  | .minimum _, result => IsMeasure (result.path ["value"])
  | .maximum _, result => IsMeasure (result.path ["value"])
  | .dateHistogram _ _, result =>
    HasBuckets (fun bucket => IsBucket own [] bucket ∧ IsTime (bucket.path ["key"])) result
  | .histogram _ _ _, result => HasBuckets (IsBucket own []) result
  | .completions _ _ _, result => HasBuckets (IsBucket own []) result

/-- The results of aggregations are under their names. -/
def AllAnswer (own : List String) : List (String × Aggregation) → Value → Prop
  | [], _ => True
  | (name, agg) :: rest, value => agg.Answers own (value.path [name]) ∧ AllAnswer own rest value

end

mutual

/-- The innermost aggregations of a chain of filters and nested objects, with their results. -/
def leafResults : Aggregation → Value → List (Aggregation × Value)
  | .filter _ aggs, result => leafResultsOf aggs result
  | .nested _ aggs, result => leafResultsOf aggs result
  | agg, result => [(agg, result)]

def leafResultsOf : List (String × Aggregation) → Value → List (Aggregation × Value)
  | [], _ => []
  | (name, agg) :: rest, value => agg.leafResults (value.path [name]) ++ leafResultsOf rest value

end

/-- The aggregations whose results each bucket of an aggregation has. -/
def held : Aggregation → List (String × Aggregation)
  | .terms _ _ _ _ aggs => aggs
  | _ => []

def isTopHit : Aggregation → Bool
  | .topHit _ => true
  | _ => false

/-- The name under which each bucket of an aggregation has its top hits. -/
def topHitName? (agg : Aggregation) : Option String := (agg.held.find? (·.2.isTopHit)).map (·.1)

/-- The source of the first top hit of a bucket, if its aggregation has top hits. -/
def sourceOf (agg : Aggregation) (bucket : Value) : Option (Entries Value) :=
  match agg.topHitName? with
  | some name =>
    match bucket.path [name, "hits", "hits"] with
    | .list (hit :: _) => (hit.path ["_source"]).entries?
    | _ => none
  | none => none

/-- The key of a bucket; the keys of date histograms become seconds. -/
def keyOf (agg : Aggregation) (bucket : Value) : Value :=
  match agg, bucket.path ["key"] with
  | .dateHistogram _ _, .int i => .float (Binary64.ofQuotient i 1000)
  | .dateHistogram _ _, .float x => .float (x.divide 1000)
  | _, key => key

def countOf (bucket : Value) : Int :=
  match bucket.path ["doc_count"] with
  | .int count => count
  | _ => 0

def bucketsOf (result : Value) : List Value :=
  match result.path ["buckets"] with
  | .list buckets => buckets
  | _ => []

/-- The facet bucket that a bucket of an aggregation gives. -/
def reportedBucket (agg : Aggregation) (bucket : Value) : FacetBucket where
  filter := FacetBucket.tokenOf (agg.keyOf bucket)
  count := countOf bucket
  data := agg.sourceOf bucket

/-- The facet buckets that a result of an aggregation gives: those of at least the least count, in
their order. -/
def reportedBuckets (agg : Aggregation) (minCount : Int) (result : Value) : List FacetBucket :=
  ((bucketsOf result).filter fun bucket => decide (minCount ≤ countOf bucket)).map agg.reportedBucket

/-- What a measuring aggregation reports. -/
def measureOf (result : Value) : Option Binary64 :=
  match result.path ["value"] with
  | .float x => some x
  | .int i => some (Binary64.ofInt i)
  | _ => none

def isBucketed : Aggregation → Bool
  | .terms _ _ _ _ _ | .dateHistogram _ _ | .histogram _ _ _ | .completions _ _ _ => true
  | _ => false

def isDateHistogram : Aggregation → Bool
  | .dateHistogram _ _ => true
  | _ => false

/-- A bucket of an aggregation with the results of what the aggregation holds. -/
structure BucketAnswers (own : List String) (agg : Aggregation) (bucket : Value) : Prop where
  isBucket : IsBucket own (agg.held.map Prod.fst) bucket
  held : AllAnswer own agg.held bucket
  isTime : agg.isDateHistogram = true → IsTime (bucket.path ["key"])

theorem hasBuckets_of_answers {own : List String} {agg : Aggregation} {result : Value}
    (hbucketed : agg.isBucketed = true) (h : agg.Answers own result) :
    HasBuckets (BucketAnswers own agg) result := by
  cases agg with
  | terms field minCount size missing aggs =>
      obtain ⟨buckets, hbuckets, hall⟩ := h
      refine ⟨buckets, hbuckets, fun bucket hbucket => ?_⟩
      exact ⟨(hall bucket hbucket).1, (hall bucket hbucket).2, by simp [isDateHistogram]⟩
  | dateHistogram field unit =>
      obtain ⟨buckets, hbuckets, hall⟩ := h
      refine ⟨buckets, hbuckets, fun bucket hbucket => ?_⟩
      exact ⟨(hall bucket hbucket).1, trivial, fun _ => (hall bucket hbucket).2⟩
  | histogram field interval bounds =>
      obtain ⟨buckets, hbuckets, hall⟩ := h
      refine ⟨buckets, hbuckets, fun bucket hbucket => ?_⟩
      exact ⟨hall bucket hbucket, trivial, by simp [isDateHistogram]⟩
  | completions field pattern size =>
      obtain ⟨buckets, hbuckets, hall⟩ := h
      refine ⟨buckets, hbuckets, fun bucket hbucket => ?_⟩
      exact ⟨hall bucket hbucket, trivial, by simp [isDateHistogram]⟩
  | filter _ _ | nested _ _ | topHit _ | minimum _ | maximum _ => cases hbucketed

theorem leafResults_of_isBucketed {agg : Aggregation} (hbucketed : agg.isBucketed = true)
    (result : Value) : agg.leafResults result = [(agg, result)] := by
  cases agg with
  | terms _ _ _ _ _ | dateHistogram _ _ | histogram _ _ _ | completions _ _ _ => rfl
  | filter _ _ | nested _ _ | topHit _ | minimum _ | maximum _ => cases hbucketed

theorem answers_of_allAnswer {own : List String} {aggs : List (String × Aggregation)} {value : Value}
    (h : AllAnswer own aggs value) {name : String} {agg : Aggregation} (hmem : (name, agg) ∈ aggs) :
    agg.Answers own (value.path [name]) := by
  induction aggs with
  | nil => cases hmem
  | cons entry rest ih =>
      rcases List.mem_cons.mp hmem with rfl | hrest
      · exact h.1
      · exact ih h.2 hrest

end FacetedSearch.Aggregation
