import FacetedSearch.Clause.Basic
import FacetedSearch.Invocation

/-!
Clause builders by name, with arguments of any shape.
-/

namespace FacetedSearch

namespace ClauseCall

def required (name : String) : Parameter Value := { name }

def optional (name : String) (default : Value) : Parameter Value :=
  { name, default := some default }

/-- The builders and what they take. -/
def signatures : List (String × Signature Value) :=
  [("term", { parameters := [required "field", required "value"] }),
    ("terms", { parameters := [required "field", required "values"] }),
    ("range_clause", { parameters := [required "field"], gathersNamed := true }),
    ("exists", { parameters := [required "field"] }),
    ("nested", { parameters := [required "path", required "query"] }),
    ("match_all", { parameters := [] }),
    ("negate", { parameters := [required "clause"] }),
    ("all_of", { parameters := [], gathersRest := true }),
    ("any_of", { parameters := [], gathersRest := true }),
    ("simple_query_string",
      { parameters :=
          [required "query", required "fields", optional "default_operator" (.str "or")] }),
    ("multi_match",
      { parameters :=
          [required "query", required "fields", optional "type" (.str "best_fields"),
            optional "operator" (.str "or"), optional "fuzziness" .null] })]

/-- The name under which a clause speaks of a field. -/
def fieldName (field : Value) : Outcome String :=
  if field.isKey then .ok field.display else .error .wrongKind

/-- The elements of a listed argument. -/
def listed (value : Value) : Outcome (List Value) :=
  match value.visited? with
  | some items => .ok items
  | none => .error .wrongKind

def build (name : String) (arguments : Arguments Value) : Outcome Value := do
  let get := Value.member arguments.values
  match name with
  | "term" => return ClauseShape.term (← fieldName (get "field")) (get "value")
  | "terms" =>
    let values := get "values"
    return ClauseShape.terms (← fieldName (get "field"))
      (values.sequence?.getD [values])
  | "range_clause" =>
    return ClauseShape.range (← fieldName (get "field"))
      (Clause.givenBounds arguments.named)
  | "exists" => return ClauseShape.present (get "field")
  | "nested" => return ClauseShape.nested (get "path") (get "query")
  | "match_all" => return ClauseShape.matchAll
  | "negate" => return (Clause.negate (.given (get "clause"))).render
  | "all_of" => return (Clause.allOf (arguments.rest.map .given)).render
  | "any_of" => return (Clause.anyOf (arguments.rest.map .given)).render
  | "simple_query_string" =>
    return ClauseShape.simpleQueryString (get "query")
      (← listed (get "fields")) (get "default_operator")
  | "multi_match" =>
    return ClauseShape.multiMatch (get "query") (← listed (get "fields"))
      (get "type") (get "operator") (get "fuzziness")
  | _ => throw .noSuchMember

/-- Calls a builder. -/
def call (name : String) (args : List Value) (named : Entries Value) : Outcome Value := do
  match signatures.lookup name with
  | none => throw .noSuchMember
  | some signature => build name (← signature.bind args named)

end ClauseCall

end FacetedSearch
