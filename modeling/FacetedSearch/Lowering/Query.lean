import FacetedSearch.Hooks
import FacetedSearch.Lowering.Facets
import FacetedSearch.Lowering.Keys

/-!
Search queries as search requests. The filter, the language, the keys, the similar documents and the
selections of nested facets become one query; facets count beside it, and the selections of
alternative facets filter after counting.
-/

namespace FacetedSearch.Lowering

/-- What a collection's queries are compiled with. -/
structure Setting where
  collection : Value
  catalog : FieldCatalog
  fuzziness : Value := .str "auto"
  suggestionField : Value := .null
  hooks : SearchHooks := {}
deriving DecidableEq, Repr

def defaultLimit : Int := 10

/-- The page size; none and zero mean the default. -/
def pageSize (limit : Option Int) : Int :=
  match limit with
  | some limit => if limit = 0 then defaultLimit else limit
  | none => defaultLimit

/-- The condition that the language is one of the given ones. -/
def languageCondition (catalog : FieldCatalog) (languages : List String) : Condition where
  field := catalog.languageField
  op := Operator.isIn.word
  value := .list (languages.map .str)

/-- The languages whose documents may be similar: those of the query, else the current and the
default one. -/
def similarLanguages (catalog : FieldCatalog) (languages : Option (List String)) : List Value :=
  match languages with
  | some (first :: rest) => (first :: rest).map .str
  | _ => [catalog.currentLanguage, catalog.defaultLanguage]

/-- The document of a language; a language that is no text has none. -/
def translation? (translations : Entries String) : Value → Outcome (Option String)
  | .str language => .ok (translations.find? language)
  | language => if language.isKey then .ok none else .error .wrongKind

/-- The documents that similar ones are sought for: the translations in the given languages, or the
one document of the request. -/
def similarIds (catalog : FieldCatalog) (request : MoreLikeThisRequest)
    (languages : Option (List String)) : Outcome (List String) := do
  let found ←
    if request.translatable then
      (similarLanguages catalog languages).mapM (translation? request.translations)
    else pure []
  match (found.filterMap id).eraseDups with
  | [] =>
    match request.defaultId with
    | some id => return [if id.isEmpty then request.id else id]
    | none => return [request.id]
  | ids => return ids

def similarClause (setting : Setting) (request : MoreLikeThisRequest)
    (languages : Option (List String)) : Outcome Clause := do
  let ids ← similarIds setting.catalog request languages
  return .moreLikeThis (request.fields.map FieldPath.dotted) setting.collection ids

/-- A suggester for phrases, by name. -/
structure PhraseSuggester where
  name : String
  field : String
  text : String
deriving DecidableEq, Repr

def autocompleteName : String := "autocomplete"

def spellingName : String := "spelling_suggestion"

def reverseAnalyzer : String := "suggestion_reverse"

def PhraseSuggester.render (suggester : PhraseSuggester) : Value :=
  let trigram := Value.str (suggester.field ++ ".suggestion_trigram")
  let reverse := Value.str (suggester.field ++ ".suggestion_reverse")
  .object
    [(suggester.name, .object
      [("text", .str suggester.text),
        ("phrase", .object
          [("field", trigram), ("size", .int 1),
            ("direct_generator", .list
              [.object [("field", trigram), ("suggest_mode", .str "always")],
                .object
                  [("field", reverse), ("suggest_mode", .str "always"),
                    ("pre_filter", .str reverseAnalyzer),
                    ("post_filter", .str reverseAnalyzer)]])])])]

/-- The aggregation of completions: terms that continue what the user typed. -/
def completions (request : AutocompleteRequest) : Aggregation :=
  .completions (FieldPath.dotted request.field) (request.completed ++ ".*") request.limit

/-- The spelling suggester of the keys as typed; blank keys and an absent field have none. -/
def spellingSuggester (setting : Setting) (originalKeys : Option String) :
    Outcome (Option PhraseSuggester) :=
  let text := Text.trim (originalKeys.getD "")
  if text.isEmpty then .ok none
  else
    match setting.hooks.alterSuggestionField setting.suggestionField with
    | .str field =>
      if field.isEmpty then .ok none
      else .ok (some { name := spellingName, field := FieldPath.dotted field, text })
    | field => if field.isTruthy then .error .noSuchMember else .ok none

def scoreField : String := "_score"

def sequenceField : String := "_seq_no"

/-- A sort by a field, or the special sort by chance. -/
inductive SortKey where
  | field (name : Value) (direction : SortDirection)
  | random
deriving DecidableEq, Repr

/-- The key of a sort. Full-text fields are sorted by their exact values. -/
def sortKey (catalog : FieldCatalog) (spec : SortSpec) : Outcome SortKey :=
  if spec.field = "$random" then .ok .random
  else if spec.field = "$score" then .ok (.field (.str scoreField) spec.direction)
  else if spec.field = "$id" then
    if catalog.idField.isKey then .ok (.field catalog.idField spec.direction)
    else .error .wrongKind
  else do
    let _ ← catalog.resolve spec.field
    let path := FieldPath.dotted spec.field
    if catalog.isFullText spec.field then
      return .field (.str (path ++ ".keyword")) spec.direction
    return .field (.str path) spec.direction

/-- The seed of random sorting: the query's, or a drawn one when that is none or zero. -/
def randomSeed (hooks : SearchHooks) (drawn : Value) (seed : Option Int) : Outcome Value :=
  match hooks.alterRandomSort (.object [("seed", Value.nullable .int seed)]) with
  | .object parameters => .ok ((Value.member parameters "seed").orElse drawn)
  | _ => .error .noSuchMember

/-- The sorts of a query, and the seed where it is sorted by chance. -/
structure SortParts where
  sorts : List (Value × SortDirection) := []
  seed : Option Value := none

def lowerSort (setting : Setting) (drawn : Value) (query : SearchQuery) (parts : SortParts)
    (spec : SortSpec) : Outcome SortParts := do
  match ← sortKey setting.catalog spec with
  | .random =>
    return { parts with seed := some (← randomSeed setting.hooks drawn query.randomSeed) }
  | .field name direction => return { parts with sorts := parts.sorts ++ [(name, direction)] }

def lowerSorts (setting : Setting) (drawn : Value) (query : SearchQuery) : Outcome SortParts :=
  match query.autocomplete with
  | some _ => .ok { sorts := [(.str scoreField, .descending)] }
  | none => query.sorts.foldlM (lowerSort setting drawn query) {}

/-- The sort by a field whose name must be a text. -/
def renderSort? (sort : Value × SortDirection) : Option Value :=
  sort.1.text?.map fun name => .object [(name, .str sort.2.word)]

/-- A compiled query. -/
structure CompiledQuery where
  root : BoolQuery
  seed : Option Value
  postFilters : Entries Clause
  sorts : List (Value × SortDirection)
  size : Int
  start : Int
  excludes : List String
  aggregations : Entries Aggregation
  suggester : Option PhraseSuggester

namespace CompiledQuery

/-- The root query, scored by chance where a seed is given. -/
def renderRoot (compiled : CompiledQuery) : Value :=
  match compiled.seed with
  | none => compiled.root.render
  | some seed =>
    .object
      [("function_score", .object
        [("query", compiled.root.render),
          ("random_score", .object [("seed", seed), ("field", .str sequenceField)])])]

/-- The filter after counting: all post filters must match. -/
def postFilter? (compiled : CompiledQuery) : Option Clause :=
  if compiled.postFilters.isEmpty then none else some (.allOf compiled.postFilters.values)

/-- The request of a compiled query; a sort by anything but a named field is refused. -/
def toRequest (compiled : CompiledQuery) : Outcome SearchRequest :=
  match compiled.sorts.mapM renderSort? with
  | none => .error .invalidData
  | some sorts =>
    .ok
      { query := compiled.renderRoot
        postFilter := Value.nullable Clause.render compiled.postFilter?
        sort := .list sorts
        size := .int compiled.size
        start := .int compiled.start
        source :=
          if compiled.excludes.isEmpty then .null
          else .object [("excludes", .list (compiled.excludes.map .str))]
        aggs := .object (Aggregation.renderAll compiled.aggregations)
        suggest := Value.nullable PhraseSuggester.render compiled.suggester }

end CompiledQuery

/-- The language filter of a query. -/
def languageFilter (catalog : FieldCatalog) (query : SearchQuery) : Outcome (List Clause) :=
  match query.languages with
  | none => .ok []
  | some languages => return [← conditionClause catalog (languageCondition catalog languages)]

/-- The full-text part of a query; completions take no keys. -/
def fulltextPart (setting : Setting) (query : SearchQuery) : Outcome BoolQuery :=
  match query.autocomplete with
  | some _ => .ok {}
  | none =>
    lowerKeys setting.catalog setting.fuzziness query.parseMode query.fulltextFields
      (query.keys.map QueryKeys.normalized)

def similarPart (setting : Setting) (query : SearchQuery) : Outcome (List Clause) :=
  match query.moreLikeThis with
  | none => .ok []
  | some request => return [← similarClause setting request query.languages]

/-- What a request for completions adds to a query, and what keys as typed suggest. -/
structure SuggestionParts where
  must : List Clause := []
  aggregations : Entries Aggregation := []
  suggester : Option PhraseSuggester := none
  size : Option Int := none

def suggestionParts (setting : Setting) (query : SearchQuery) : Outcome SuggestionParts :=
  match query.autocomplete with
  | none => return { suggester := ← spellingSuggester setting query.originalKeys }
  | some request =>
    if request.userInput.isEmpty then .ok {}
    else
      let field := FieldPath.dotted request.field
      .ok
        { must := [.matchText (field ++ ".autocomplete") request.userInput]
          aggregations := [(autocompleteName, completions request)]
          suggester := some { name := autocompleteName, field, text := request.userInput }
          size := some request.liveResults }

/-- The facets of a query; completions count none. -/
def facetPart (catalog : FieldCatalog) (query : SearchQuery) (postFilters : Entries Clause) :
    Outcome FacetParts :=
  if query.facets.isEmpty || query.autocomplete.isSome then .ok { postFilters }
  else lowerFacets catalog query.facets postFilters

/-- Compiles a query; a seed is drawn for random sorting without one. -/
def compileQuery (setting : Setting) (drawn : Value) (query : SearchQuery) :
    Outcome CompiledQuery := do
  let filter ← lowerConditions setting.catalog query.conditions
  let language ← languageFilter setting.catalog query
  let fulltext ← fulltextPart setting query
  let similar ← similarPart setting query
  let suggestion ← suggestionParts setting query
  let facets ← facetPart setting.catalog query filter.postFilters
  let sorts ← lowerSorts setting drawn query
  return {
    root :=
      ((((filter.query.addFilter language).merge fulltext).addMust similar).addMust
        suggestion.must).addFilter facets.rootFilters
    seed := sorts.seed
    postFilters := facets.postFilters
    sorts := sorts.sorts
    size := suggestion.size.getD (pageSize query.limit)
    start := query.offset.getD 0
    excludes := query.excludeSourceFields
    aggregations := suggestion.aggregations.putAll facets.aggregations
    suggester := suggestion.suggester }

/-- The request of a query, as altered by the hooks. -/
def compile (setting : Setting) (drawn : Value) (query : SearchQuery) : Outcome SearchRequest := do
  let compiled ← compileQuery setting drawn query
  return setting.hooks.alterRequest (← compiled.toRequest)

end FacetedSearch.Lowering
