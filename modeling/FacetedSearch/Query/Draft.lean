import FacetedSearch.Fault
import FacetedSearch.Query.Search

/-!
Queries under construction: sorts and facets are added one by one. A facet that is given as an
object is read as a request; anything else is taken as the facet itself.
-/

namespace FacetedSearch

structure QueryDraft where
  sorts : List SortSpec := []
  /-- The facets as documents. -/
  facets : List Value := []
deriving DecidableEq, Repr

namespace QueryDraft

def ofQuery (query : SearchQuery) : QueryDraft where
  sorts := query.sorts
  facets := query.facets.map FacetRequest.encode

/-- Adds a sort by a field in a direction. -/
def addSort (draft : QueryDraft) (field direction : Value) : Outcome QueryDraft :=
  match SortSpec.decode? (.object [("field", field), ("direction", direction)]) with
  | some spec => .ok { draft with sorts := draft.sorts ++ [spec] }
  | none => .error .invalidData

def addRequest (draft : QueryDraft) (facet : FacetRequest) : QueryDraft :=
  { draft with facets := draft.facets ++ [facet.encode] }

/-- Adds a facet in whatever form it is given. -/
def addFacet (draft : QueryDraft) (facet : Value) : Outcome QueryDraft :=
  match facet with
  | .object entries =>
    match FacetRequest.ofEntries? entries with
    | some request => .ok (draft.addRequest request)
    | none => .error .invalidData
  | facet => .ok { draft with facets := draft.facets ++ [facet] }

end QueryDraft

end FacetedSearch
