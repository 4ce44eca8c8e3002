import FacetedSearch.Result.Bucket
import FacetedSearch.Result.Hit
import FacetedSearch.Result.Suggestion

/-!
Responses as result sets. Only a response whose outer members have the wrong shape is a fault; a
malformed part within them gives a warning or counts as absent.
-/

namespace FacetedSearch

namespace ResultSet

/-- Adds the buckets or the statistics of a facet. -/
def addFacet (catalog : FieldCatalog) (aggregations : Entries Value) (results : ResultSet)
    (facet : FacetRequest) : Outcome ResultSet := do
  let agg := Value.member aggregations facet.id
  match facet.kind with
  | .range =>
    match ← facet.readStats catalog agg with
    | some stats => return { results with facetStats := results.facetStats.put facet.id stats }
    | none => return results
  | _ =>
    let buckets ← facet.readBuckets catalog agg
    return { results with
      facets := results.facets.put facet.id buckets.values
      warnings := results.warnings ++ buckets.warnings }

def addFacets (catalog : FieldCatalog) (query : SearchQuery) (aggregations : Value)
    (results : ResultSet) : Outcome ResultSet :=
  match query.autocomplete, query.facets with
  | none, first :: rest => do
    let aggregations ← entriesOrEmpty aggregations
    (first :: rest).foldlM (addFacet catalog aggregations) results
  | _, _ => .ok results

def addSuggestions (query : SearchQuery) (aggregations : Value) (suggest : Entries Value)
    (results : ResultSet) : Outcome ResultSet := do
  let spelling := Suggestion.readAll (Value.member suggest "spelling_suggestion")
  let results := { results with
    suggestions := spelling.values
    warnings := results.warnings ++ spelling.warnings }
  match query.autocomplete with
  | none => return results
  | some request =>
    let completed ← request.readSuggestions
      (Value.member (← entriesOrEmpty aggregations) "autocomplete")
      (Value.member suggest "autocomplete")
    return { results with
      autocomplete := completed.values
      warnings := results.warnings ++ completed.warnings }

/-- The results that a response gives for a query. -/
def ofResponse (catalog : FieldCatalog) (query : SearchQuery) (response : Value) :
    Outcome ResultSet :=
  match response with
  | .object response => do
    let block ← entriesOrEmpty (Value.member response "hits")
    let hits := Hit.readAll catalog (← elements (Value.member block "hits"))
    let results : ResultSet :=
      { total := Hit.total (Value.member block "total")
        items := hits.values
        warnings := hits.warnings }
    let aggregations := Value.member response "aggregations"
    let results ← addFacets catalog query aggregations results
    let suggest ← entriesOrEmpty (Value.member response "suggest")
    addSuggestions query aggregations suggest results
  | _ => .error .noSuchMember

end ResultSet

end FacetedSearch
