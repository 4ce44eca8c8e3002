import FacetedSearch.Decode
import FacetedSearch.Value.Display

/-!
Results of searches: the items of a page, the buckets and statistics of facets, suggestions, and the
warnings about what in a response could not be read.
-/

namespace FacetedSearch

structure ResultItem where
  id : String
  score : Option Binary64 := none
  fields : Entries (List Value) := []
deriving DecidableEq, Repr

namespace ResultItem

/-- Ids may come as numbers. -/
def decodeId : Decode.Decoder String
  | .bool flag => some (Value.bool flag).display
  | .int i => some (Value.int i).display
  | .float x => some (Value.float x).display
  | value => Decode.text value

def ofEntries? (entries : Entries Value) : Option ResultItem := do
  let id ← Decode.required entries "id" decodeId
  let score ← Decode.defaulted entries "score" none (Decode.optional Decode.real)
  let fields ←
    Decode.defaulted entries "fields" [] (Decode.dictionary (Decode.items Decode.anything))
  some { id, score, fields }

def decode? (value : Value) : Option ResultItem := value.entries?.bind ofEntries?

def encode (item : ResultItem) : Value :=
  .object
    [("id", .str item.id), ("score", Value.nullable .float item.score),
      ("fields", .object (item.fields.mapValues .list))]

end ResultItem

structure FacetBucket where
  filter : String
  count : Int
  data : Option (Entries Value) := none
deriving DecidableEq, Repr

namespace FacetBucket

def ofEntries? (entries : Entries Value) : Option FacetBucket := do
  let filter ← Decode.required entries "filter" Decode.text
  let count ← Decode.required entries "count" Decode.whole
  let data ← Decode.defaulted entries "data" none (Decode.optional Decode.object)
  some { filter, count, data }

def decode? (value : Value) : Option FacetBucket := value.entries?.bind ofEntries?

def encode (bucket : FacetBucket) : Value :=
  .object
    [("filter", .str bucket.filter), ("count", .int bucket.count),
      ("data", Value.nullable .object bucket.data)]

end FacetBucket

structure FacetStats where
  min : Option Binary64 := none
  max : Option Binary64 := none
  count : Option Int := none
deriving DecidableEq, Repr

namespace FacetStats

def ofEntries? (entries : Entries Value) : Option FacetStats := do
  let min ← Decode.defaulted entries "min" none (Decode.optional Decode.real)
  let max ← Decode.defaulted entries "max" none (Decode.optional Decode.real)
  let count ← Decode.defaulted entries "count" none (Decode.optional Decode.whole)
  some { min, max, count }

def decode? (value : Value) : Option FacetStats := value.entries?.bind ofEntries?

def encode (stats : FacetStats) : Value :=
  .object
    [("min", Value.nullable .float stats.min), ("max", Value.nullable .float stats.max),
      ("count", Value.nullable .int stats.count)]

end FacetStats

structure AutocompleteSuggestion where
  suggestionSuffix : Option String := none
  suggestedKeys : Option String := none
  userInput : String := ""
  count : Option Int := none
deriving DecidableEq, Repr

namespace AutocompleteSuggestion

def decode? (value : Value) : Option AutocompleteSuggestion := do
  let entries ← value.entries?
  let suggestionSuffix ←
    Decode.defaulted entries "suggestion_suffix" none (Decode.optional Decode.text)
  let suggestedKeys ← Decode.defaulted entries "suggested_keys" none (Decode.optional Decode.text)
  let userInput ← Decode.defaulted entries "user_input" "" Decode.text
  let count ← Decode.defaulted entries "count" none (Decode.optional Decode.whole)
  some { suggestionSuffix, suggestedKeys, userInput, count }

def encode (suggestion : AutocompleteSuggestion) : Value :=
  .object
    [("suggestion_suffix", Value.nullable .str suggestion.suggestionSuffix),
      ("suggested_keys", Value.nullable .str suggestion.suggestedKeys),
      ("user_input", .str suggestion.userInput),
      ("count", Value.nullable .int suggestion.count)]

end AutocompleteSuggestion

structure ResultSet where
  total : Value := .int 0
  items : List ResultItem := []
  facets : Entries (List FacetBucket) := []
  facetStats : Entries FacetStats := []
  suggestions : List String := []
  autocomplete : List AutocompleteSuggestion := []
  warnings : List String := []
deriving DecidableEq, Repr

namespace ResultSet

def decode? (value : Value) : Option ResultSet := do
  let entries ← value.entries?
  let total ← Decode.defaulted entries "total" (.int 0) (Decode.kept Decode.whole .int)
  let items ← Decode.defaulted entries "items" [] (Decode.items ResultItem.decode?)
  let facets ←
    Decode.defaulted entries "facets" [] (Decode.dictionary (Decode.items FacetBucket.decode?))
  let facetStats ←
    Decode.defaulted entries "facet_stats" [] (Decode.dictionary FacetStats.decode?)
  let suggestions ← Decode.defaulted entries "suggestions" [] (Decode.items Decode.text)
  let autocomplete ←
    Decode.defaulted entries "autocomplete" [] (Decode.items AutocompleteSuggestion.decode?)
  let warnings ← Decode.defaulted entries "warnings" [] (Decode.items Decode.text)
  some { total, items, facets, facetStats, suggestions, autocomplete, warnings }

def encode (results : ResultSet) : Value :=
  .object
    [("total", results.total), ("items", .list (results.items.map ResultItem.encode)),
      ("facets",
        .object (results.facets.mapValues fun buckets => .list (buckets.map FacetBucket.encode))),
      ("facet_stats", .object (results.facetStats.mapValues FacetStats.encode)),
      ("suggestions", .list (results.suggestions.map .str)),
      ("autocomplete", .list (results.autocomplete.map AutocompleteSuggestion.encode)),
      ("warnings", .list (results.warnings.map .str))]

def addWarning (results : ResultSet) (warning : String) : ResultSet :=
  { results with warnings := results.warnings ++ [warning] }

end ResultSet

end FacetedSearch
