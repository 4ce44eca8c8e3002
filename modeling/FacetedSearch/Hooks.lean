import FacetedSearch.Query.Search
import FacetedSearch.Request
import FacetedSearch.Result.Basic

/-!
Changes that a provider is configured to make to queries, compiled requests and results. Hooks that
say nothing change nothing.
-/

namespace FacetedSearch

/-- A change of the query before it is compiled: another query takes its place, or the query itself
gets a condition more. -/
inductive QueryChange where
  | keep
  | replace (query : Value)
  | addCondition (condition : Value)
  /-- There is nothing that could be asked for a change. -/
  | unavailable
deriving DecidableEq, Repr

structure SearchHooks where
  query : QueryChange := .keep
  /-- The parameters of random sorting. -/
  randomSort : Option Value := none
  suggestionField : Option Value := none
  /-- Parts of the compiled request. -/
  request : Entries Value := []
  warning : Option String := none
deriving DecidableEq, Repr

namespace SearchHooks

/-- The condition that an object of field, value and operator adds. -/
def addedCondition (entries : Entries Value) : Value :=
  .object
    [("field", Value.member entries "field"), ("value", Value.member entries "value"),
      ("op", (entries.find? "op").getD (.str Operator.equal.word))]

def queryChangeOf (entries : Entries Value) : QueryChange :=
  match entries.find? "replace_query", entries.find? "add_condition" with
  | some query, _ => .replace query
  | none, some (.object condition) => .addCondition (addedCondition condition)
  | none, some condition => .addCondition condition
  | none, none => .keep

def ofEntries (entries : Entries Value) : SearchHooks where
  query := queryChangeOf entries
  randomSort := entries.find? "random"
  suggestionField := entries.find? "suggestion_field"
  request := ((entries.find? "compiled").bind Value.entries?).getD []
  warning := (entries.find? "warning").bind Value.text?

/-- The query that takes the place of another. -/
def replacement (value : Value) : Outcome SearchQuery :=
  match SearchQuery.decode? value with
  | some query => .ok query
  | none => .error .invalidData

/-- The query that is compiled in place of the given one. -/
def alterQuery (hooks : SearchHooks) (query : SearchQuery) : Outcome SearchQuery :=
  match hooks.query with
  | .keep => .ok query
  | .replace other => replacement other
  | .addCondition condition =>
    match Condition.decode? condition with
    | some condition => .ok (query.addCondition condition)
    | none => .error .invalidData
  | .unavailable => .error .noSuchMember

/-- Whether the change is made to the given query itself, so that its owner sees it. -/
def changesInPlace (hooks : SearchHooks) : Bool :=
  match hooks.query with
  | .addCondition _ => true
  | _ => false

def alterRandomSort (hooks : SearchHooks) (parameters : Value) : Value :=
  hooks.randomSort.getD parameters

def alterSuggestionField (hooks : SearchHooks) (field : Value) : Value :=
  hooks.suggestionField.getD field

def alterRequest (hooks : SearchHooks) (request : SearchRequest) : SearchRequest :=
  request.overlay hooks.request

def alterResults (hooks : SearchHooks) (results : ResultSet) : ResultSet :=
  match hooks.warning with
  | some warning => results.addWarning warning
  | none => results

end SearchHooks

end FacetedSearch
