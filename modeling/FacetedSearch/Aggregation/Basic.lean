import FacetedSearch.Clause.Basic

/-!
Aggregations, which count or measure the documents of a query. Some of them hold others by name.
-/

namespace FacetedSearch

inductive Aggregation where
  | filter (clause : Clause) (aggs : List (String × Aggregation))
  | nested (path : String) (aggs : List (String × Aggregation))
  /-- Buckets by value, with the bucket limit and a bucket for documents without a value. -/
  | terms (field : String) (minCount : Int) (size : Value) (missing : Bool)
      (aggs : List (String × Aggregation))
  /-- The best document of a bucket. -/
  | topHit (source : String)
  | minimum (field : String)
  | maximum (field : String)
  | dateHistogram (field unit : String)
  | histogram (field : String) (interval : Value) (bounds : Option (Value × Value))
  /-- Buckets of the terms that a pattern accepts. -/
  | completions (field pattern : String) (size : Int)
deriving Repr

namespace Aggregation

/-- An aggregation with the ones it holds. -/
def holding (kind : String) (body : Value) (aggs : List (String × Value)) : Value :=
  .object ((kind, body) :: if aggs.isEmpty then [] else [("aggs", .object aggs)])

def renderBounds : Option (Value × Value) → List (String × Value)
  | some (lower, upper) => [("extended_bounds", .object [("min", lower), ("max", upper)])]
  | none => []

mutual

def render : Aggregation → Value
  | .filter clause aggs => holding "filter" clause.render (renderAll aggs)
  | .nested path aggs => holding "nested" (.object [("path", .str path)]) (renderAll aggs)
  | .terms field minCount size missing aggs =>
    holding "terms"
      (.object
        ([("field", .str field), ("min_doc_count", .int minCount), ("size", size)] ++
          if missing then [("missing", .str "")] else []))
      (renderAll aggs)
  | .topHit source => holding "top_hits" (.object [("size", .int 1), ("_source", .str source)]) []
  | .minimum field => holding "min" (.object [("field", .str field)]) []
  | .maximum field => holding "max" (.object [("field", .str field)]) []
  | .dateHistogram field unit =>
    holding "date_histogram"
      (.object [("field", .str field), ("calendar_interval", .str unit)]) []
  | .histogram field interval bounds =>
    holding "histogram"
      (.object ([("field", .str field), ("interval", interval)] ++ renderBounds bounds)) []
  | .completions field pattern size =>
    holding "terms"
      (.object [("field", .str field), ("include", .str pattern), ("size", .int size)]) []

def renderAll : List (String × Aggregation) → List (String × Value)
  | [] => []
  | (name, agg) :: rest => (name, agg.render) :: renderAll rest

end

end Aggregation

end FacetedSearch
