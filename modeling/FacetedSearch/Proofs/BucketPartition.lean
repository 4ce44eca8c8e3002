import FacetedSearch.Proofs.BucketReading
import FacetedSearch.Proofs.Readings

/-!
The entries of a bucket list. Where the buckets of a facet are not in nested objects and their keys are
no times, each entry is read for what it is: a malformed one gives a warning, one with too few
documents nothing, and any other a bucket, so that the list can always be read.
-/

namespace FacetedSearch

namespace FacetBucket

theorem quoted_ne_missingToken (text : String) : "\"" ++ text ++ "\"" ≠ missingToken := by
  intro h
  have hhead : ("\"" ++ text ++ "\"").toList.head? = some '"' := by
    rw [String.toList_append, String.toList_append]
    rfl
  rw [h] at hhead
  exact absurd hhead (by decide)

/-- Only the empty text is the key of documents without a value. -/
theorem tokenOf_eq_missingToken_iff {key : Value} : tokenOf key = missingToken ↔ key = .str "" := by
  constructor
  · intro h
    unfold tokenOf at h
    split at h
    · rfl
    · next flag =>
        cases flag with
        | true => exact absurd h (quoted_ne_missingToken "true")
        | false => exact absurd h (quoted_ne_missingToken "false")
    · split at h
      · exact absurd h (quoted_ne_missingToken _)
      · exact absurd h (quoted_ne_missingToken _)
    · exact absurd h (quoted_ne_missingToken _)
  · rintro rfl
    rfl

end FacetBucket

namespace FacetRequest

open Aggregation (countOf)

variable {catalog : FieldCatalog} {facet : FacetRequest}

/-- Whether a value is a number of documents; a truth value is none. -/
def isCount : Value → Bool
  | .int _ => true
  | _ => false

/-- Whether an entry is no bucket: it is no object, or it has no key, or it has a count that is not a
number of documents. -/
def isMalformedBucket : Value → Bool
  | .object entries =>
    !Entries.contains entries "key" ||
      (Entries.find? entries "doc_count").any fun given => !isCount given
  | _ => true

/-- The bucket of an entry that counts. -/
def bucketOf (entry : Value) : FacetBucket where
  filter := FacetBucket.tokenOf (entry.path ["key"])
  count := countOf entry

theorem hasDateKeys_of_dateDisplay (h : facet.dateDisplay ≠ some true) :
    facet.hasDateKeys = false := by
  simp [hasDateKeys, h]

/-- A bucket whose key is no time is taken over as it is, if it counts enough documents. -/
theorem countedReading_flat (hdate : facet.hasDateKeys = false) (entries : Entries Value)
    (key : Value) (count : Int) :
    (if count < facet.minCount then .ok .nothing
      else do return .value (← facet.readCounted false entries key count) :
      Outcome (Reading FacetBucket)) =
    .ok (if decide (facet.minCount ≤ count) then
        .value { filter := FacetBucket.tokenOf key, count }
      else .nothing) := by
  have hcounted : facet.readCounted false entries key count =
      .ok { filter := FacetBucket.tokenOf key, count } := by
    rw [readCounted, hdate]
    rfl
  rw [hcounted]
  by_cases hmin : facet.minCount ≤ count
  · rw [if_neg (Int.not_lt.mpr hmin), decide_eq_true hmin]
    rfl
  · rw [if_pos (Int.not_le.mp hmin), decide_eq_false hmin]
    rfl

/-- Each entry is read for what it is. -/
theorem readBucket_flat (hdate : facet.hasDateKeys = false) (entry : Value) :
    facet.readBucket false entry =
      .ok (if isMalformedBucket entry then .malformed (facet.malformedBucket entry)
        else if decide (facet.minCount ≤ countOf entry) then .value (bucketOf entry)
        else .nothing) := by
  cases entry with
  | object entries =>
      cases hkey : Entries.find? entries "key" with
      | none => simp [readBucket, isMalformedBucket, Entries.contains, hkey]
      | some key =>
          cases hcount : Entries.find? entries "doc_count" with
          | none =>
              simpa [readBucket, isMalformedBucket, bucketOf, countOf, Value.path_object,
                Value.member, Entries.contains, hkey, hcount]
                using countedReading_flat hdate entries key 0
          | some given =>
              cases given with
              | int count =>
                  simpa [readBucket, isMalformedBucket, isCount, bucketOf, countOf,
                    Value.path_object, Value.member, Entries.contains, hkey, hcount]
                    using countedReading_flat hdate entries key count
              | _ => simp [readBucket, isMalformedBucket, isCount, Entries.contains, hkey, hcount]
  | _ => rfl

/-- The entries of a bucket list are, in order, malformed ones, which give one warning each, those with
too few documents, which give nothing, and the others, which give one bucket each. -/
structure ArePartitioned (facet : FacetRequest) (entries : List Value)
    (readings : Readings FacetBucket) : Prop where
  malformed : readings.warnings = (entries.filter isMalformedBucket).map facet.malformedBucket
  counted : readings.values = (entries.filter fun entry =>
    !isMalformedBucket entry && decide (facet.minCount ≤ countOf entry)).map bucketOf
  length : readings.values.length + readings.warnings.length +
      (entries.filter fun entry =>
        !isMalformedBucket entry && decide (countOf entry < facet.minCount)).length =
    entries.length
  missing : ∀ entry ∈ entries, (bucketOf entry).filter = FacetBucket.missingToken ↔
    entry.path ["key"] = .str ""

/-- A list of buckets that are not in nested objects and have no times for keys can always be read,
whatever its entries are, and it is partitioned into buckets, warnings and what is left out. -/
theorem readBuckets_partitions {agg : Value} {entries : List Value}
    (hflat : facet.hasNestedBuckets catalog = false) (hdate : facet.dateDisplay ≠ some true)
    (hentries : agg.path [facet.id, "buckets"] = .list entries) :
    ∃ readings, facet.readBuckets catalog agg = .ok readings ∧
      ArePartitioned facet entries readings := by
  have hgiven : facet.givenBuckets catalog agg = .list entries := by
    rw [givenBuckets, Lowering.bucketPath, hflat]
    exact hentries
  have hread : facet.readBuckets catalog agg =
      .ok { values := (entries.filter fun entry =>
              !isMalformedBucket entry && decide (facet.minCount ≤ countOf entry)).map bucketOf
            warnings := (entries.filter isMalformedBucket).map facet.malformedBucket } := by
    have hmapM := Outcome.mapM_eq_ok_map fun entry (_ : entry ∈ entries) =>
      readBucket_flat (hasDateKeys_of_dateDisplay hdate) entry
    rw [readBuckets_eq, hgiven, hflat, Lowering.elements_list, Outcome.bind_ok, hmapM,
      Outcome.bind_ok, Outcome.pure_eq, Readings.ofList_map fun entry _ => rfl]
  refine ⟨_, hread, rfl, rfl, ?_, fun entry _ => FacetBucket.tokenOf_eq_missingToken_iff⟩
  have hlength := Readings.length_filter_parts isMalformedBucket
    (fun entry => decide (facet.minCount ≤ countOf entry)) entries
  simp only [List.length_map]
  simpa only [← decide_not, Int.not_le] using hlength

/-- The colors that at least two documents have. -/
def frequentColors : FacetRequest where
  id := "color"
  field := "color"
  minCount := 2
  missing := true

/-- A color, one that is too rare, documents without one, and three malformed entries. -/
def colorEntries : List Value :=
  [.object [("key", .str "red"), ("doc_count", .int 3)],
    .object [("key", .str "blue"), ("doc_count", .int 1)],
    .object [("key", .str ""), ("doc_count", .int 2)],
    .object [("key", .str "green"), ("doc_count", .null)],
    .object [("doc_count", .int 5)],
    .str "red"]

def colorAnswer : Value :=
  .object [("color", .object [("buckets", .list colorEntries)]), ("doc_count", .int 6)]

def colorReadings : Readings FacetBucket where
  values := [{ filter := "\"red\"", count := 3 }, { filter := "!", count := 2 }]
  warnings :=
    ["Skipped malformed bucket of facet \x60color\x60: \x7b'key': 'green', 'doc_count': None\x7d",
      "Skipped malformed bucket of facet \x60color\x60: \x7b'doc_count': 5\x7d",
      "Skipped malformed bucket of facet \x60color\x60: 'red'"]

theorem colorEntries_partitioned :
    frequentColors.hasNestedBuckets {} = false ∧ frequentColors.dateDisplay ≠ some true ∧
      colorAnswer.path [frequentColors.id, "buckets"] = .list colorEntries ∧
      frequentColors.readBuckets {} colorAnswer = .ok colorReadings ∧
      ArePartitioned frequentColors colorEntries colorReadings := by
  have hdate : frequentColors.dateDisplay ≠ some true := nofun
  have hread : frequentColors.readBuckets {} colorAnswer = .ok colorReadings := rfl
  obtain ⟨readings, hreadings, hpartition⟩ :=
    readBuckets_partitions (show frequentColors.hasNestedBuckets {} = false from rfl) hdate
      (show colorAnswer.path [frequentColors.id, "buckets"] = .list colorEntries from rfl)
  obtain rfl := Except.ok.inj (hread.symm.trans hreadings)
  exact ⟨rfl, hdate, rfl, hread, hpartition⟩

end FacetRequest

end FacetedSearch
