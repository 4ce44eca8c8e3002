import FacetedSearch.Clause.Shape
import FacetedSearch.Decode
import FacetedSearch.Query.Operator

/-!
Query clauses. Bool queries collect clauses that must match, alternatives, filters and clauses that
must not match; every other clause is a leaf.
-/

namespace FacetedSearch

/-- Whether the terms of a match are sought one by one or as a phrase. -/
inductive MatchKind where
  | bestFields
  | phrase
deriving DecidableEq, Repr

def MatchKind.word : MatchKind → String
  | .bestFields => "best_fields"
  | .phrase => "phrase"

/-- A text sought in several fields. -/
structure MultiMatch where
  text : String
  fields : List String
  kind : MatchKind
  operator : Conjunction
  fuzziness : Value := .null
deriving DecidableEq, Repr

/-- The word of a conjunction inside a match. -/
def matchOperator : Conjunction → String
  | .and => "and"
  | .or => "or"

inductive Clause where
  | term (field : String) (value : Value)
  | terms (field : String) (values : List Value)
  | range (field : String) (bounds : Entries Value)
  | present (field : String)
  | nested (path : String) (query : Clause)
  | matchAll
  | simpleQueryString (text : String) (fields : List String) (operator : Conjunction)
  | multiMatch (query : MultiMatch)
  | matchText (field text : String)
  | moreLikeThis (fields : List String) (index : Value) (ids : List String)
  | bool (must should filter mustNot : List Clause)
  /-- A clause of the caller's own, in whatever form. -/
  | given (value : Value)
deriving Repr

namespace Clause

mutual

def render : Clause → Value
  | .term field value => ClauseShape.term field value
  | .terms field values => ClauseShape.terms field values
  | .range field bounds => ClauseShape.range field bounds
  | .present field => ClauseShape.present (.str field)
  | .nested path query => ClauseShape.nested (.str path) query.render
  | .matchAll => ClauseShape.matchAll
  | .simpleQueryString text fields operator =>
    ClauseShape.simpleQueryString (.str text) (fields.map .str) (.str (matchOperator operator))
  | .multiMatch query =>
    ClauseShape.multiMatch (.str query.text) (query.fields.map .str) (.str query.kind.word)
      (.str (matchOperator query.operator)) query.fuzziness
  | .matchText field text => ClauseShape.matchText field text
  | .moreLikeThis fields index ids => ClauseShape.moreLikeThis fields index ids
  | .bool must should filter mustNot =>
    ClauseShape.bool (renderAll must) (renderAll should) (renderAll filter) (renderAll mustNot)
  | .given value => value

def renderAll : List Clause → List Value
  | [] => []
  | clause :: rest => clause.render :: renderAll rest

end

/-- The bounds that are given, for a range without the others. -/
def givenBounds (bounds : Entries Value) : Entries Value := bounds.filter (·.2 != .null)

/-- A range with those of the bounds that are given. -/
def bounded (field : String) (bounds : Entries Value) : Clause := .range field (givenBounds bounds)

/-- Holds where the field has one of the listed values; a single value lists itself. -/
def oneOf (field : String) (values : Value) : Clause :=
  .terms field (values.sequence?.getD [values])

/-- Holds where the clause does not. -/
def negate (clause : Clause) : Clause := .bool [] [] [] [clause]

/-- Holds where all clauses hold. -/
def allOf (clauses : List Clause) : Clause := .bool [] [] clauses []

/-- Holds where one of the clauses holds; a single clause stands for itself. -/
def anyOf : List Clause → Clause
  | [clause] => clause
  | clauses => .bool [] clauses [] []

/-- A clause is an object, unless the caller gave something else. -/
def isObject : Clause → Bool
  | .given value => value.isObject
  | _ => true

end Clause

structure BoolQuery where
  must : List Clause := []
  should : List Clause := []
  filter : List Clause := []
  mustNot : List Clause := []
deriving Repr

namespace BoolQuery

def addMust (query : BoolQuery) (clauses : List Clause) : BoolQuery :=
  { query with must := query.must ++ clauses }

def addShould (query : BoolQuery) (clauses : List Clause) : BoolQuery :=
  { query with should := query.should ++ clauses }

def addFilter (query : BoolQuery) (clauses : List Clause) : BoolQuery :=
  { query with filter := query.filter ++ clauses }

def addMustNot (query : BoolQuery) (clauses : List Clause) : BoolQuery :=
  { query with mustNot := query.mustNot ++ clauses }

/-- The clauses of both queries, list by list. -/
def merge (query other : BoolQuery) : BoolQuery where
  must := query.must ++ other.must
  should := query.should ++ other.should
  filter := query.filter ++ other.filter
  mustNot := query.mustNot ++ other.mustNot

def clauses (query : BoolQuery) : List Clause :=
  query.must ++ query.should ++ query.filter ++ query.mustNot

def count (query : BoolQuery) : Nat :=
  query.must.length + query.should.length + query.filter.length + query.mustNot.length

def isEmpty (query : BoolQuery) : Bool := query.count == 0

def toClause (query : BoolQuery) : Clause :=
  .bool query.must query.should query.filter query.mustNot

def render (query : BoolQuery) : Value := query.toClause.render

def decodeClauses : Decode.Decoder (List Clause) :=
  Decode.items fun value => (Decode.object value).map fun entries => .given (.object entries)

/-- A query of the caller's clauses, which must be objects. -/
def decode? (value : Value) : Option BoolQuery := do
  let entries ← value.entries?
  let must ← Decode.defaulted entries "must" [] decodeClauses
  let should ← Decode.defaulted entries "should" [] decodeClauses
  let filter ← Decode.defaulted entries "filter" [] decodeClauses
  let mustNot ← Decode.defaulted entries "must_not" [] decodeClauses
  some { must, should, filter, mustNot }

def encode (query : BoolQuery) : Value :=
  .object
    [("must", .tuple (Clause.renderAll query.must)),
      ("should", .tuple (Clause.renderAll query.should)),
      ("filter", .tuple (Clause.renderAll query.filter)),
      ("must_not", .tuple (Clause.renderAll query.mustNot))]

/-- Merges queries whose clauses are all objects. -/
def merge? (query other : BoolQuery) : Option BoolQuery :=
  let merged := query.merge other
  if merged.clauses.all Clause.isObject then some merged else none

end BoolQuery

end FacetedSearch
