import FacetedSearch.Query.Facet
import FacetedSearch.Query.Keys

/-!
Search queries: a condition tree, full-text keys, facets, sorts, and the requests for similar
documents and for completions of the user's input.
-/

namespace FacetedSearch

inductive SortDirection where
  | ascending
  | descending
deriving DecidableEq, Repr

namespace SortDirection

def word : SortDirection → String
  | .ascending => "asc"
  | .descending => "desc"

def ofWord? (word : String) : Option SortDirection :=
  if word = "asc" then some .ascending else if word = "desc" then some .descending else none

def decode? : Decode.Decoder SortDirection :=
  fun value => (Decode.text value).bind fun word => ofWord? (Text.lowercase word)

end SortDirection

structure SortSpec where
  field : String
  direction : SortDirection := .ascending
deriving DecidableEq, Repr

namespace SortSpec

def decode? (value : Value) : Option SortSpec := do
  let entries ← value.entries?
  let field ← Decode.required entries "field" Decode.text
  let direction ← Decode.defaulted entries "direction" .ascending SortDirection.decode?
  some { field, direction }

def encode (spec : SortSpec) : Value :=
  .object [("field", .str spec.field), ("direction", .str spec.direction.word)]

def text (spec : SortSpec) : String := spec.field ++ " " ++ spec.direction.word

end SortSpec

/-- Asks for documents like a given one, which has a document id in each of its languages. -/
structure MoreLikeThisRequest where
  id : String
  fields : List String := []
  translatable : Bool := false
  translations : Entries String := []
  defaultId : Option String := none
deriving DecidableEq, Repr

namespace MoreLikeThisRequest

def decode? (value : Value) : Option MoreLikeThisRequest := do
  let entries ← value.entries?
  let id ← Decode.required entries "id" Decode.text
  let fields ← Decode.defaulted entries "fields" [] (Decode.items Decode.text)
  let translatable ← Decode.defaulted entries "translatable" false Decode.flag
  let translations ← Decode.defaulted entries "translations" [] (Decode.dictionary Decode.text)
  let defaultId ← Decode.defaulted entries "default_id" none (Decode.optional Decode.text)
  some { id, fields, translatable, translations, defaultId }

def encode (request : MoreLikeThisRequest) : Value :=
  .object
    [("id", .str request.id), ("fields", .list (request.fields.map .str)),
      ("translatable", .bool request.translatable),
      ("translations", .object (request.translations.mapValues .str)),
      ("default_id", Value.nullable .str request.defaultId)]

end MoreLikeThisRequest

/-- Asks for completions of the user's input, whose last word may be incomplete. -/
structure AutocompleteRequest where
  field : String
  userInput : String := ""
  incompleteKey : Option String := none
  limit : Int := 10
  liveResults : Int := 0
deriving DecidableEq, Repr

namespace AutocompleteRequest

def decode? (value : Value) : Option AutocompleteRequest := do
  let entries ← value.entries?
  let field ← Decode.required entries "field" Decode.text
  let userInput ← Decode.defaulted entries "user_input" "" Decode.text
  let incompleteKey ←
    Decode.defaulted entries "incomplete_key" none (Decode.optional Decode.text)
  let limit ← Decode.defaulted entries "limit" 10 Decode.whole
  let liveResults ← Decode.defaulted entries "live_results" 0 Decode.whole
  some { field, userInput, incompleteKey, limit, liveResults }

def encode (request : AutocompleteRequest) : Value :=
  .object
    [("field", .str request.field), ("user_input", .str request.userInput),
      ("incomplete_key", Value.nullable .str request.incompleteKey),
      ("limit", .int request.limit), ("live_results", .int request.liveResults)]

/-- The text that completions start with. -/
def completed (request : AutocompleteRequest) : String :=
  match request.incompleteKey with
  | some key => if key.isEmpty then request.userInput else key
  | none => request.userInput

end AutocompleteRequest

structure SearchQuery where
  collection : Option String := none
  conditions : ConditionGroup := {}
  keys : Option QueryKeys := none
  parseMode : ParseMode := .terms
  originalKeys : Option String := none
  fulltextFields : Option (List String) := none
  languages : Option (List String) := none
  limit : Option Int := none
  offset : Option Int := none
  sorts : List SortSpec := []
  facets : List FacetRequest := []
  excludeSourceFields : List String := []
  moreLikeThis : Option MoreLikeThisRequest := none
  autocomplete : Option AutocompleteRequest := none
  randomSeed : Option Int := none
deriving Repr

namespace SearchQuery

def ofEntries? (entries : Entries Value) : Option SearchQuery := do
  let collection ← Decode.defaulted entries "collection" none (Decode.optional Decode.text)
  let conditions ← Decode.defaulted entries "conditions" {} ConditionGroup.decode?
  let keys ← Decode.defaulted entries "keys" none (Decode.optional QueryKeys.decode?)
  let parseMode ← Decode.defaulted entries "parse_mode" .terms ParseMode.decode?
  let originalKeys ← Decode.defaulted entries "original_keys" none (Decode.optional Decode.text)
  let fulltextFields ←
    Decode.defaulted entries "fulltext_fields" none (Decode.optional (Decode.items Decode.text))
  let languages ←
    Decode.defaulted entries "languages" none (Decode.optional (Decode.items Decode.text))
  let limit ← Decode.defaulted entries "limit" none (Decode.optional Decode.whole)
  let offset ← Decode.defaulted entries "offset" none (Decode.optional Decode.whole)
  let sorts ← Decode.defaulted entries "sorts" [] (Decode.items SortSpec.decode?)
  let facets ← Decode.defaulted entries "facets" [] (Decode.items FacetRequest.decode?)
  let excludeSourceFields ←
    Decode.defaulted entries "exclude_source_fields" [] (Decode.items Decode.text)
  let moreLikeThis ←
    Decode.defaulted entries "more_like_this" none (Decode.optional MoreLikeThisRequest.decode?)
  let autocomplete ←
    Decode.defaulted entries "autocomplete" none (Decode.optional AutocompleteRequest.decode?)
  let randomSeed ← Decode.defaulted entries "random_seed" none (Decode.optional Decode.whole)
  some
    { collection, conditions, keys, parseMode, originalKeys, fulltextFields, languages, limit,
      offset, sorts, facets, excludeSourceFields, moreLikeThis, autocomplete, randomSeed }

def decode? (value : Value) : Option SearchQuery := value.entries?.bind ofEntries?

def encodeTexts (texts : List String) : Value := .list (texts.map .str)

def encode (query : SearchQuery) : Value :=
  .object
    [("collection", Value.nullable .str query.collection),
      ("conditions", query.conditions.encode),
      ("keys", Value.nullable QueryKeys.encode query.keys),
      ("parse_mode", .str query.parseMode.word),
      ("original_keys", Value.nullable .str query.originalKeys),
      ("fulltext_fields", Value.nullable encodeTexts query.fulltextFields),
      ("languages", Value.nullable encodeTexts query.languages),
      ("limit", Value.nullable .int query.limit),
      ("offset", Value.nullable .int query.offset),
      ("sorts", .list (query.sorts.map SortSpec.encode)),
      ("facets", .list (query.facets.map FacetRequest.encode)),
      ("exclude_source_fields", encodeTexts query.excludeSourceFields),
      ("more_like_this", Value.nullable MoreLikeThisRequest.encode query.moreLikeThis),
      ("autocomplete", Value.nullable AutocompleteRequest.encode query.autocomplete),
      ("random_seed", Value.nullable .int query.randomSeed)]

/-- The query with a condition more in its own condition group. -/
def addCondition (query : SearchQuery) (condition : Condition) : SearchQuery :=
  { query with conditions := query.conditions.addCondition condition }

end SearchQuery

end FacetedSearch
