import FacetedSearch.Catalog.Field
import FacetedSearch.Clause.Basic
import FacetedSearch.Model.Description
import FacetedSearch.Query.Search
import FacetedSearch.Request
import FacetedSearch.Result.Basic
import FacetedSearch.Store.Manifest
import FacetedSearch.Store.Operation

/-!
The models of the library by name: how each is read from an object, what it is as a document, and
what it tells about itself.
-/

namespace FacetedSearch

inductive Model where
  | condition (model : Condition)
  | conditionGroup (model : ConditionGroup)
  | fullTextKeys (model : FullTextKeys)
  | nestedFacetOptions (model : NestedFacetOptions)
  | facetRequest (model : FacetRequest)
  | sortSpec (model : SortSpec)
  | moreLikeThisRequest (model : MoreLikeThisRequest)
  | autocompleteRequest (model : AutocompleteRequest)
  | searchQuery (model : SearchQuery)
  | searchField (model : SearchField)
  | searchRequest (model : SearchRequest)
  | resultItem (model : ResultItem)
  | facetBucket (model : FacetBucket)
  | facetStats (model : FacetStats)
  | autocompleteSuggestion (model : AutocompleteSuggestion)
  | resultSet (model : ResultSet)
  | boolQuery (model : BoolQuery)
  | manifest (model : Manifest)
  | operation (model : Operation)
  | context (model : Context)
deriving Repr

namespace Model

def name : Model → String
  | .condition _ => "Condition"
  | .conditionGroup _ => "ConditionGroup"
  | .fullTextKeys _ => "FullTextKeys"
  | .nestedFacetOptions _ => "NestedFacetOptions"
  | .facetRequest _ => "FacetRequest"
  | .sortSpec _ => "SortSpec"
  | .moreLikeThisRequest _ => "MoreLikeThisRequest"
  | .autocompleteRequest _ => "AutocompleteRequest"
  | .searchQuery _ => "SearchQuery"
  | .searchField _ => "SearchField"
  | .searchRequest _ => "AssembledQuery"
  | .resultItem _ => "ResultItem"
  | .facetBucket _ => "FacetBucket"
  | .facetStats _ => "FacetStats"
  | .autocompleteSuggestion _ => "AutocompleteSuggestion"
  | .resultSet _ => "ResultSet"
  | .boolQuery _ => "BoolQuery"
  | .manifest _ => "Manifest"
  | .operation _ => "Operation"
  | .context _ => "Context"

/-- How the models are read, by name. -/
def decoders : List (String × Decode.Decoder Model) :=
  [("Condition", fun value => (Condition.decode? value).map .condition),
    ("ConditionGroup", fun value => (ConditionGroup.decode? value).map .conditionGroup),
    ("FullTextKeys", fun value => (FullTextKeys.decode? value).map .fullTextKeys),
    ("NestedFacetOptions", fun value => (NestedFacetOptions.decode? value).map .nestedFacetOptions),
    ("FacetRequest", fun value => (FacetRequest.decode? value).map .facetRequest),
    ("SortSpec", fun value => (SortSpec.decode? value).map .sortSpec),
    ("MoreLikeThisRequest",
      fun value => (MoreLikeThisRequest.decode? value).map .moreLikeThisRequest),
    ("AutocompleteRequest",
      fun value => (AutocompleteRequest.decode? value).map .autocompleteRequest),
    ("SearchQuery", fun value => (SearchQuery.decode? value).map .searchQuery),
    ("SearchField", fun value => (SearchField.decode? value).map .searchField),
    ("AssembledQuery", fun value => (SearchRequest.decode? value).map .searchRequest),
    ("ResultItem", fun value => (ResultItem.decode? value).map .resultItem),
    ("FacetBucket", fun value => (FacetBucket.decode? value).map .facetBucket),
    ("FacetStats", fun value => (FacetStats.decode? value).map .facetStats),
    ("AutocompleteSuggestion",
      fun value => (AutocompleteSuggestion.decode? value).map .autocompleteSuggestion),
    ("ResultSet", fun value => (ResultSet.decode? value).map .resultSet),
    ("BoolQuery", fun value => (BoolQuery.decode? value).map .boolQuery),
    ("Manifest", fun value => (Manifest.decode? value).map .manifest),
    ("Operation", fun value => (Operation.decode? value).map .operation),
    ("Context", fun value => (Context.decode? value).map .context)]

def isModelName (name : String) : Bool := (decoders.lookup name).isSome

/-- Reads a model by its name. -/
def decode (name : String) (value : Value) : Outcome Model :=
  match decoders.lookup name with
  | none => .error .noSuchMember
  | some decoder =>
    match decoder value with
    | some model => .ok model
    | none => .error .invalidData

/-- A model as the object of its fields. -/
def encode : Model → Value
  | .condition model => model.encode
  | .conditionGroup model => model.encode
  | .fullTextKeys model => model.encode
  | .nestedFacetOptions model => model.encode
  | .facetRequest model => model.encode
  | .sortSpec model => model.encode
  | .moreLikeThisRequest model => model.encode
  | .autocompleteRequest model => model.encode
  | .searchQuery model => model.encode
  | .searchField model => model.encode
  | .searchRequest model => model.encode
  | .resultItem model => model.encode
  | .facetBucket model => model.encode
  | .facetStats model => model.encode
  | .autocompleteSuggestion model => model.encode
  | .resultSet model => model.encode
  | .boolQuery model => model.encode
  | .manifest model => model.encode
  | .operation model => model.encode
  | .context model => model.encode

/-- A model as a document: the object of its fields, but a bool query is its clause. -/
def document : Model → Value
  | .boolQuery model => model.render
  | model => model.encode

/-- A model with some fields replaced by values of any shape. -/
def overlaid (model : Model) (update : Entries Value) : Value :=
  match model.encode with
  | .object entries =>
    .object (entries.map fun entry => (entry.1, (Entries.find? update entry.1).getD entry.2))
  | value => value

/-- The clause of a bool query whose fields have any shape. -/
def looseBool (fields : Value) : Outcome Value := do
  let clauses := fun name => do
    let value := fields.path [name]
    match value.isTruthy, value.visited? with
    | false, _ => pure []
    | true, some items => pure items
    | true, none => throw Fault.wrongKind
  return ClauseShape.bool (← clauses "must") (← clauses "should") (← clauses "filter")
    (← clauses "must_not")

/-- The document of a copy in which fields are replaced. -/
def copyWith (model : Model) (update : Entries Value) : Outcome Value :=
  match model with
  | .boolQuery _ => looseBool (model.overlaid update)
  | model => .ok (model.overlaid update)

/-- A model in one line: its own sentence, or a description of its fields. -/
def text : Model → String
  | .condition model => model.text
  | .conditionGroup model => model.text
  | .sortSpec model => model.text
  | .operation model => model.text
  | model => Description.line model.name model.encode

/-- What a model tells about itself beyond its fields. -/
def derived? (model : Model) (member : String) : Option Value :=
  match model, member with
  | .condition model, "value_kind" => some (.str model.valueKind.word)
  | .conditionGroup model, "facet_id" => some (Value.nullable .str (facetIdOfTags? model.tags))
  | .fullTextKeys model, "flat_terms" => some (.list (model.flatTerms.map .str))
  | .fullTextKeys model, "groups" => some (.list (model.groups.map FullTextKeys.encode))
  | .searchRequest model, "to_body" => some (.object model.toBody)
  | .searchRequest model, "to_args" => some (.object model.toArgs)
  | .boolQuery model, "count" => some (.int model.count)
  | .boolQuery model, "is_empty" => some (.bool model.isEmpty)
  | _, _ => none

/-- A member of a model: a text form, something derived, or a field. -/
def member (model : Model) (name : String) : Outcome Value :=
  match name with
  | "str" => .ok (.str model.text)
  | "json" => .ok (.str (JsonStyle.compact.write model.encode))
  | "json2" => .ok (.str ((JsonStyle.lines 2).write model.encode))
  | "to_dict" => .ok model.document
  | name =>
    match model.derived? name, model.encode with
    | some value, _ => .ok value
    | none, .object entries =>
      match Entries.find? entries name with
      | some value => .ok value
      | none => .error .noSuchMember
    | none, _ => .error .noSuchMember

end Model

end FacetedSearch
