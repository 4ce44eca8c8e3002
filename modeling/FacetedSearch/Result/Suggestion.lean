import FacetedSearch.Query.Search
import FacetedSearch.Result.Basic
import FacetedSearch.Result.Reading

/-!
Suggested spellings and completions of the user's input.
-/

namespace FacetedSearch

namespace Suggestion

/-- An option of a suggestion is read by its text; an empty text suggests nothing. -/
def readOption (option : Value) : Reading String :=
  match option.path ["text"] with
  | .str text => if text.isEmpty then .nothing else .value text
  | _ => .malformed ("Skipped malformed suggestion option: " ++ option.shown)

/-- An entry is an object whose options are a list or do not count as given. -/
def readEntry (entry : Value) : Readings String :=
  match entry.isObject, (entry.path ["options"]).orElse (.list []) with
  | true, .list options => Readings.ofList (options.map readOption)
  | _, _ => Readings.malformed ("Skipped malformed suggestion: " ++ entry.shown)

/-- The texts that suggestion entries offer, in order. -/
def readAll : Value → Readings String
  | .null => {}
  | .list entries => entries.foldl (fun readings entry => readings.append (readEntry entry)) {}
  | entries => Readings.malformed ("Skipped malformed suggestions: " ++ entries.shown)

end Suggestion

namespace AutocompleteRequest

/-- The suggestion of a bucket: what its key has beyond the length of the input. -/
def readBucket (request : AutocompleteRequest) (bucket : Value) :
    Reading AutocompleteSuggestion :=
  let malformed := Reading.malformed ("Skipped malformed autocomplete bucket: " ++ bucket.shown)
  match bucket with
  | .object entries =>
    match Entries.find? entries "key" with
    | some key =>
      .value
        { suggestionSuffix := String.ofList (key.display.toList.drop request.userInput.length)
          userInput := request.userInput
          count :=
            match Value.member entries "doc_count" with
            | .int count => some count
            | _ => none }
    | none => malformed
  | _ => malformed

def suggestionOfText (request : AutocompleteRequest) (text : String) : AutocompleteSuggestion where
  suggestedKeys := text
  userInput := request.userInput

/-- Completions from an aggregation, then from suggestion entries. -/
def readSuggestions (request : AutocompleteRequest) (agg suggest : Value) :
    Outcome (Readings AutocompleteSuggestion) := do
  let buckets ← elements (agg.path ["buckets"])
  let completed := Readings.ofList (buckets.map request.readBucket)
  let texts := Suggestion.readAll suggest
  return completed.append
    { values := texts.values.map request.suggestionOfText, warnings := texts.warnings }

end AutocompleteRequest

end FacetedSearch
