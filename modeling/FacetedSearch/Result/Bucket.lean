import FacetedSearch.Catalog.Basic
import FacetedSearch.Query.Facet
import FacetedSearch.Result.Basic
import FacetedSearch.Result.Reading

/-!
Aggregation results as facet buckets and facet statistics. The results of nested facets are below
those of their nested objects and of their group.
-/

namespace FacetedSearch

namespace FacetBucket

def missingToken : String := "!"

/-- The key of a bucket as a filter value: in quotes, whole numbers without a fraction. -/
def tokenOf (key : Value) : String :=
  match key with
  | .str "" => missingToken
  | .bool flag => if flag then "\"true\"" else "\"false\""
  | .float x =>
    match x.toInt? with
    | some i => "\"" ++ (Value.int i).display ++ "\""
    | none => "\"" ++ (Value.float x).display ++ "\""
  | key => "\"" ++ key.display ++ "\""

/-- A time in milliseconds as one in seconds. -/
def inSeconds (key : Value) : Outcome Value :=
  let quotient := fun (i : Int) =>
    let x := Binary64.ofQuotient i 1000
    if x.isFinite then Except.ok (Value.float x) else .error Fault.numberTooLarge
  match key with
  | .bool flag => quotient (if flag then 1 else 0)
  | .int i => quotient i
  | .float x => .ok (.float (x.divide 1000))
  | key => .ok key

end FacetBucket

namespace FacetRequest

/-- Whether the buckets of a facet are in nested objects. -/
def hasNestedBuckets (catalog : FieldCatalog) (facet : FacetRequest) : Bool :=
  facet.kind == .nested || (facet.nested.isSome && catalog.isNestedField facet.field)

/-- Whether the statistics of a facet are in nested objects. -/
def hasNestedStats (catalog : FieldCatalog) (facet : FacetRequest) : Bool :=
  facet.nested.isSome && catalog.isNestedField facet.field

/-- Whether the bucket keys of a facet are times. -/
def hasDateKeys (facet : FacetRequest) : Bool :=
  facet.dateDisplay == some true && facet.kind.isHistogram

def malformedBucket (facet : FacetRequest) (bucket : Value) : String :=
  s!"Skipped malformed bucket of facet \x60{facet.id}\x60: {bucket.shown}"

/-- The source of the first top hit of a bucket. -/
def topSource (facet : FacetRequest) (bucket : Entries Value) : Value :=
  match (Value.object bucket).path [facet.id, "hits", "hits"] with
  | .list (hit :: _) => hit.path ["_source"]
  | _ => .null

/-- A bucket with a key and a count that is large enough. -/
def readCounted (facet : FacetRequest) (isNested : Bool) (bucket : Entries Value) (key : Value)
    (count : Int) : Outcome FacetBucket := do
  let key ← if facet.hasDateKeys then FacetBucket.inSeconds key else pure key
  let data := if isNested then facet.topSource bucket else .null
  match Decode.optional Decode.object data with
  | some data => return { filter := FacetBucket.tokenOf key, count, data }
  | none => throw .invalidData

/-- A bucket needs a key and, if it has a count, an integer as such. -/
def readBucket (facet : FacetRequest) (isNested : Bool) (bucket : Value) :
    Outcome (Reading FacetBucket) :=
  match bucket with
  | .object entries =>
    match Entries.find? entries "key", (Entries.find? entries "doc_count").getD (.int 0) with
    | some key, .int count =>
      if count < facet.minCount then .ok .nothing
      else return .value (← readCounted facet isNested entries key count)
    | _, _ => .ok (.malformed (facet.malformedBucket bucket))
  | bucket => .ok (.malformed (facet.malformedBucket bucket))

/-- The result of a facet's aggregation inside those around it. -/
def innermost (facet : FacetRequest) (isNested : Bool) (agg : Entries Value) : Value :=
  (Value.object agg).path (List.replicate (if isNested then 3 else 1) facet.id)

/-- The buckets of a facet; an aggregation that is not there has none. -/
def readBuckets (catalog : FieldCatalog) (facet : FacetRequest) (agg : Value) :
    Outcome (Readings FacetBucket) :=
  match agg with
  | .object agg =>
    let isNested := facet.hasNestedBuckets catalog
    match facet.innermost isNested agg with
    | .object inner => do
      let buckets ← elements (Value.member inner "buckets")
      return Readings.ofList (← buckets.mapM (facet.readBucket isNested))
    | _ => .ok {}
  | _ => .ok {}

def statsOf (agg : Entries Value) : Outcome FacetStats :=
  let read := FacetStats.ofEntries?
    [("min", (Value.object agg).path ["min", "value"]),
      ("max", (Value.object agg).path ["max", "value"]),
      ("count", Value.member agg "doc_count")]
  match read with
  | some stats => .ok stats
  | none => .error .invalidData

/-- The statistics of a range facet, if its aggregation is there. -/
def readStats (catalog : FieldCatalog) (facet : FacetRequest) (agg : Value) :
    Outcome (Option FacetStats) :=
  match agg with
  | .object agg =>
    if facet.hasNestedStats catalog then
      match (Value.object agg).path [facet.id, facet.id] with
      | .object inner => return some (← statsOf inner)
      | _ => .ok none
    else return some (← statsOf agg)
  | _ => .ok none

end FacetRequest

end FacetedSearch
