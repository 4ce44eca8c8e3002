import FacetedSearch.Aggregation.Basic
import FacetedSearch.Aggregation.Granularity
import FacetedSearch.Lowering.Conditions
import FacetedSearch.Query.Facet

/-!
Facet requests as aggregations. The buckets of an alternative facet are counted under the selections
of all other facets but not under its own; the selections of nested facets are built here.
-/

namespace FacetedSearch.Lowering

/-- The bucket limit of nested facets. -/
def nestedFacetLimit : Int := 1000

/-- The bounds that a histogram is extended to, when both ends are numbers. -/
def extendedBounds (facet : FacetRequest) : Option (Value × Value) :=
  match Granularity.number? facet.minValue, Granularity.number? facet.maxValue with
  | some lower, some upper => some (lower, upper)
  | _, _ => none

def histogramAggregation (facet : FacetRequest) (field : String) : Outcome Aggregation :=
  if facet.dateDisplay = some true then
    .ok (.dateHistogram field (Granularity.calendarUnit facet.granularity))
  else return .histogram field (← Granularity.interval facet.granularity) (extendedBounds facet)

/-- The bucket limit of a facet: its own, else that of the catalog. -/
def bucketLimit (catalog : FieldCatalog) (facet : FacetRequest) : Value :=
  if facet.limit = 0 then catalog.maxBucketSize else .int facet.limit

/-- The aggregations of a facet on a path, with a bucket limit and the sources of top hits. -/
def facetAggregations (facet : FacetRequest) (field : String) (limit : Value)
    (source : Option String) : Outcome (Entries Aggregation) :=
  match facet.kind with
  | .range => .ok [("min", .minimum field), ("max", .maximum field)]
  | .date | .granular => return [(facet.id, ← histogramAggregation facet field)]
  | .string | .nested =>
    let hits := source.toList.map fun path => (facet.id, Aggregation.topHit path)
    .ok [(facet.id, .terms field facet.minCount limit facet.missing hits)]

/-- Facets are nested when they ask for it, or when they have nested options for a nested field. -/
def isNestedFacet (catalog : FieldCatalog) (facet : FacetRequest) : Bool :=
  facet.kind == .nested || (facet.nested.isSome && catalog.isNestedField facet.field)

/-- The path of the nested objects of a facet. -/
def nestedPath (facet : FacetRequest) (options : NestedFacetOptions) : String :=
  match options.path with
  | some path => if path.isEmpty then FieldPath.root facet.field else FieldPath.dotted path
  | none => FieldPath.root facet.field

/-- The ends of a range selection: a pair inside the selected values, or these themselves. -/
def selectedBounds (values : List Value) : Value × Value :=
  let ends := ((values.head?.bind Value.sequence?).getD values)
  (bound (ends[0]?.getD .null), bound (ends[1]?.getD .null))

/-- What the selected values of a facet ask of its field. -/
def selectedValues (facet : FacetRequest) (field : String) : Clause :=
  let selected :=
    match facet.kind with
    | .range =>
      let (lower, upper) := selectedBounds facet.activeValues
      Clause.bounded field [("gte", lower), ("lte", upper)]
    | _ => .terms field facet.activeValues
  if facet.exclude then .negate selected else selected

/-- A facet as lowered: its aggregations, and the clause of its selection if it builds one. -/
structure FacetPart where
  facet : FacetRequest
  aggregations : Entries Aggregation
  selection : Option Clause := none

/-- A facet whose buckets are in nested objects of a group. -/
def lowerNestedFacet (facet : FacetRequest) : Outcome FacetPart :=
  match facet.nested with
  | none => .error (.missingNestedOptions facet.id)
  | some options => do
    let field := FieldPath.dotted facet.field
    let path := nestedPath facet options
    let group := Clause.term (FieldPath.dotted options.groupField) options.groupValue
    let inner ← facetAggregations facet field (.int nestedFacetLimit) (some path)
    let selection :=
      if facet.activeValues.isEmpty then none
      else some (Clause.nested path (.allOf [group, selectedValues facet field]))
    return {
      facet
      aggregations := [(facet.id, .nested path [(facet.id, .filter group inner)])]
      selection }

def lowerFacet (catalog : FieldCatalog) (facet : FacetRequest) : Outcome FacetPart := do
  let _ ← catalog.resolve facet.field
  if isNestedFacet catalog facet then lowerNestedFacet facet
  else
    let aggregations ←
      facetAggregations facet (FieldPath.dotted facet.field) (bucketLimit catalog facet) none
    return { facet, aggregations }

/-- The selections of alternative facets, by facet id. -/
def alternativeSelections (parts : List FacetPart) : List (String × Clause) :=
  parts.filterMap fun part =>
    if part.facet.operator = .or then part.selection.map fun clause => (part.facet.id, clause)
    else none

/-- The selections of the other facets, which all documents must match. -/
def rootSelections (parts : List FacetPart) : List Clause :=
  parts.filterMap fun part => if part.facet.operator = .or then none else part.selection

/-- The documents a facet counts: for an alternative facet those that match the post filters of all
other facets, for any other facet all documents. -/
def countedDocuments (facet : FacetRequest) (postFilters : Entries Clause) : Clause :=
  match facet.operator with
  | .or => .allOf (postFilters.erase facet.id).values
  | .and => .matchAll

/-- The aggregations of facets with the post filters and the filters of their selections. -/
structure FacetParts where
  aggregations : Entries Aggregation := []
  postFilters : Entries Clause := []
  rootFilters : List Clause := []

def lowerFacets (catalog : FieldCatalog) (facets : List FacetRequest)
    (postFilters : Entries Clause) : Outcome FacetParts := do
  let parts ← facets.mapM (lowerFacet catalog)
  let postFilters := postFilters.putAll (alternativeSelections parts)
  return {
    aggregations := Entries.ofList (parts.map fun part =>
      (part.facet.id, .filter (countedDocuments part.facet postFilters) part.aggregations))
    postFilters
    rootFilters := rootSelections parts }

end FacetedSearch.Lowering
