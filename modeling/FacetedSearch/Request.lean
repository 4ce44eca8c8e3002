import FacetedSearch.Decode

/-!
Search requests in the form that goes to a search backend. Parts that are not needed are left out of
what is sent.
-/

namespace FacetedSearch

structure SearchRequest where
  query : Value
  postFilter : Value := .null
  sort : Value := .list []
  size : Value := .int 10
  start : Value := .int 0
  source : Value := .null
  aggs : Value := .object []
  suggest : Value := .null
deriving DecidableEq, Repr

namespace SearchRequest

def decodeObject : Decode.Decoder Value := Decode.kept Decode.object .object

def decodeOptionalObject : Decode.Decoder Value :=
  Decode.kept (Decode.optional decodeObject) (Value.nullable id)

def decodeSort : Decode.Decoder Value := Decode.kept (Decode.items decodeObject) .list

def decodeWhole : Decode.Decoder Value := Decode.kept Decode.whole .int

def decode? (value : Value) : Option SearchRequest := do
  let entries ← value.entries?
  let query ← Decode.required entries "query" decodeObject
  let postFilter ← Decode.defaulted entries "post_filter" .null decodeOptionalObject
  let sort ← Decode.defaulted entries "sort" (.list []) decodeSort
  let size ← Decode.defaulted entries "size" (.int 10) decodeWhole
  let start ← Decode.defaulted entries "from_" (.int 0) decodeWhole
  let source ← Decode.defaulted entries "source" .null decodeOptionalObject
  let aggs ← Decode.defaulted entries "aggs" (.object []) decodeObject
  let suggest ← Decode.defaulted entries "suggest" .null decodeOptionalObject
  some { query, postFilter, sort, size, start, source, aggs, suggest }

def encode (request : SearchRequest) : Value :=
  .object
    [("query", request.query), ("post_filter", request.postFilter), ("sort", request.sort),
      ("size", request.size), ("from_", request.start), ("source", request.source),
      ("aggs", request.aggs), ("suggest", request.suggest)]

def entryIf (condition : Bool) (name : String) (value : Value) : List (String × Value) :=
  if condition then [(name, value)] else []

/-- The request as named arguments: query, page size and offset, and what else is given. -/
def toArgs (request : SearchRequest) : Entries Value :=
  [("query", request.query), ("size", request.size), ("from_", request.start)] ++
    entryIf request.sort.isTruthy "sort" request.sort ++
    entryIf (request.postFilter != .null) "post_filter" request.postFilter ++
    entryIf (request.source != .null) "source" request.source ++
    entryIf request.aggs.isTruthy "aggs" request.aggs ++
    entryIf request.suggest.isTruthy "suggest" request.suggest

/-- The name of an argument inside a request body. -/
def bodyName (name : String) : String :=
  if name = "from_" then "from" else if name = "source" then "_source" else name

def toBody (request : SearchRequest) : Entries Value :=
  request.toArgs.map fun entry => (bodyName entry.1, entry.2)

/-- The request with the parts that entries give, in whatever form. -/
def overlay (request : SearchRequest) (entries : Entries Value) : SearchRequest :=
  let part := fun name value => (entries.find? name).getD value
  { query := part "query" request.query
    postFilter := part "post_filter" request.postFilter
    sort := part "sort" request.sort
    size := part "size" request.size
    start := part "from_" request.start
    source := part "source" request.source
    aggs := part "aggs" request.aggs
    suggest := part "suggest" request.suggest }

end SearchRequest

end FacetedSearch
