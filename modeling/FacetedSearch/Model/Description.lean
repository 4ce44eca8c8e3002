import FacetedSearch.Text.Uppercase
import FacetedSearch.Value.Display

/-!
Models described in one line: each field by its name, a model inside another by its own name with
its fields in brackets, and a word together with the vocabulary that it belongs to.
-/

namespace FacetedSearch.Description

/-- What a field of a model holds. -/
inductive FieldKind where
  | plain
  /-- A word of a vocabulary. -/
  | word (vocabulary : String)
  | model (name : String)
  /-- A condition or a group of them. -/
  | member
  | list (items : FieldKind)
  | dictionary (values : FieldKind)
deriving DecidableEq, Repr

/-- The fields that hold more than plain values. -/
def kindOf (model field : String) : FieldKind :=
  match model, field with
  | "ConditionGroup", "conjunction" => .word "Conjunction"
  | "ConditionGroup", "conditions" => .list .member
  | "FullTextKeys", "conjunction" => .word "Conjunction"
  | "FullTextKeys", "terms" => .list (.model "FullTextKeys")
  | "FacetRequest", "query_type" => .word "FacetQueryType"
  | "FacetRequest", "operator" => .word "FacetOperator"
  | "FacetRequest", "nested" => .model "NestedFacetOptions"
  | "SortSpec", "direction" => .word "SortDirection"
  | "SearchQuery", "conditions" => .model "ConditionGroup"
  | "SearchQuery", "keys" => .model "FullTextKeys"
  | "SearchQuery", "parse_mode" => .word "ParseMode"
  | "SearchQuery", "sorts" => .list (.model "SortSpec")
  | "SearchQuery", "facets" => .list (.model "FacetRequest")
  | "SearchQuery", "more_like_this" => .model "MoreLikeThisRequest"
  | "SearchQuery", "autocomplete" => .model "AutocompleteRequest"
  | "SearchField", "type" => .word "SearchFieldType"
  | "ResultSet", "items" => .list (.model "ResultItem")
  | "ResultSet", "facets" => .dictionary (.list (.model "FacetBucket"))
  | "ResultSet", "facet_stats" => .dictionary (.model "FacetStats")
  | "ResultSet", "autocomplete" => .list (.model "AutocompleteSuggestion")
  | "Manifest", "metadata" => .model "ManifestMetadata"
  | "Manifest", "components" => .dictionary (.model "ComponentConfig")
  | "ComponentConfig", "providers" => .dictionary (.model "ProviderConfig")
  | _, _ => .plain

def bracketed (opening closing : String) (parts : List String) : String :=
  opening ++ Value.separated parts ++ closing

/-- A word with its name in the vocabulary, which is the word in capitals. -/
def shownWord (vocabulary word : String) : String :=
  "<" ++ vocabulary ++ "." ++ Text.uppercase word ++ ": " ++ Text.quoted word ++ ">"

mutual

/-- A value of a kind; where it is none of the kind, it is shown as it is. -/
def shown : FieldKind → Value → String
  | .word vocabulary, .str word => shownWord vocabulary word
  | .model name, .object entries => bracketed (name ++ "(") ")" (shownFields name entries)
  | .member, .object entries =>
    let name := if Entries.contains entries "field" then "Condition" else "ConditionGroup"
    bracketed (name ++ "(") ")" (shownFields name entries)
  | .list kind, .list items => bracketed "[" "]" (shownItems kind items)
  | .dictionary kind, .object entries => bracketed "\x7b" "\x7d" (shownEntries kind entries)
  | _, value => value.shown

def shownFields (model : String) : List (String × Value) → List String
  | [] => []
  | (field, value) :: rest =>
    (field ++ "=" ++ shown (kindOf model field) value) :: shownFields model rest

def shownItems (kind : FieldKind) : List Value → List String
  | [] => []
  | item :: rest => shown kind item :: shownItems kind rest

def shownEntries (kind : FieldKind) : List (String × Value) → List String
  | [] => []
  | (name, value) :: rest =>
    (Text.quoted name ++ ": " ++ shown kind value) :: shownEntries kind rest

end

/-- The line for a model of the given name from its fields. -/
def line (model : String) (fields : Value) : String :=
  match fields with
  | .object entries => " ".intercalate (shownFields model entries)
  | value => value.shown

end FacetedSearch.Description
