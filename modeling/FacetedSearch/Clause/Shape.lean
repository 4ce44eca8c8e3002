import FacetedSearch.Value.Basic

/-!
The shapes in which a search backend takes clauses. Every clause is an object with one entry, under
the name of its kind.
-/

namespace FacetedSearch.ClauseShape

def term (field : String) (value : Value) : Value :=
  .object [("term", .object [(field, .object [("value", value)])])]

def terms (field : String) (values : List Value) : Value :=
  .object [("terms", .object [(field, .list values)])]

def range (field : String) (bounds : Entries Value) : Value :=
  .object [("range", .object [(field, .object bounds)])]

def present (field : Value) : Value := .object [("exists", .object [("field", field)])]

def nested (path query : Value) : Value :=
  .object [("nested", .object [("path", path), ("query", query)])]

def matchAll : Value := .object [("match_all", .object [])]

/-- The entry of a list of clauses; an empty list has none. -/
def occurrence (name : String) : List Value → List (String × Value)
  | [] => []
  | clauses => [(name, .list clauses)]

/-- Where there are alternatives, at least one must match. -/
def bool (must should filter mustNot : List Value) : Value :=
  .object [("bool", .object
    (occurrence "must" must ++ occurrence "should" should ++ occurrence "filter" filter ++
      occurrence "must_not" mustNot ++
      if should.isEmpty then [] else [("minimum_should_match", .int 1)]))]

def simpleQueryString (query : Value) (fields : List Value) (defaultOperator : Value) : Value :=
  .object [("simple_query_string", .object
    [("query", query), ("fields", .list fields), ("default_operator", defaultOperator)])]

/-- The types of matches that take whole phrases, for which there is no fuzziness. -/
def phraseTypes : List Value := [.str "phrase", .str "phrase_prefix"]

def multiMatch (query : Value) (fields : List Value) (type operator fuzziness : Value) : Value :=
  .object [("multi_match", .object
    ([("query", query), ("fields", .list fields), ("type", type), ("operator", operator)] ++
      if fuzziness = .null ∨ type ∈ phraseTypes then [] else [("fuzziness", fuzziness)]))]

def matchText (field text : String) : Value :=
  .object [("match", .object [(field, .str text)])]

def moreLikeThis (fields : List String) (index : Value) (ids : List String) : Value :=
  .object [("more_like_this", .object
    [("fields", .list (fields.map .str)),
      ("like", .list (ids.map fun id => .object [("_index", index), ("_id", .str id)])),
      ("max_query_terms", .int 3), ("min_doc_freq", .int 1), ("min_term_freq", .int 1)])]

end FacetedSearch.ClauseShape
