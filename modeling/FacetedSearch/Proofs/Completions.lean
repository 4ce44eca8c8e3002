import FacetedSearch.Proofs.Compile
import FacetedSearch.Proofs.FacetAnswers

/-!
Completions of what the user typed. A query asks for the terms that start with the text to complete,
which is the last, incomplete word of the input where one is given, and the whole input otherwise. A
key suggests what it has beyond the length of the whole input. The suffixes complete the text that
was asked for where this is as long as the input.
-/

namespace FacetedSearch

theorem drop_append_eq_iff {α : Type} {before rest : List α} {n : Nat} :
    (before ++ rest).drop n = rest ↔ before.length = n ∨ rest = [] ∧ before.length ≤ n := by
  constructor
  · intro h
    have hlength : before.length + rest.length - n = rest.length := by
      rw [← List.length_append, ← List.length_drop, h]
    rcases Nat.eq_zero_or_pos rest.length with hrest | hrest
    · exact .inr ⟨List.length_eq_zero_iff.mp hrest, by omega⟩
    · exact .inl (by omega)
  · rintro (rfl | ⟨rfl, hle⟩)
    · exact List.drop_left
    · rw [List.append_nil]
      exact List.drop_eq_nil_of_le hle

/-- A text without its first characters completes a beginning of it if the beginning has as many
characters, or is the whole text and has no more. -/
theorem Text.append_drop_eq_iff {before rest : String} {n : Nat} :
    before ++ String.ofList ((before ++ rest).toList.drop n) = before ++ rest ↔
      before.length = n ∨ rest = "" ∧ before.length ≤ n := by
  calc
    _ ↔ String.ofList ((before ++ rest).toList.drop n) = rest := String.append_right_inj _
    _ ↔ (before.toList ++ rest.toList).drop n = rest.toList := by
        rw [← String.toList_inj, String.toList_ofList, String.toList_append]
    _ ↔ before.toList.length = n ∨ rest.toList = [] ∧ before.toList.length ≤ n :=
        drop_append_eq_iff
    _ ↔ _ := by rw [String.length_toList, String.toList_eq_nil_iff]

namespace AutocompleteRequest

open Lowering

/-- A compiled query has the terms of the requested field counted that start with a text, as many of
them as are requested, and nothing else. -/
def Seeks (request : AutocompleteRequest) (text : String) (compiled : CompiledQuery) : Prop :=
  compiled.aggregations =
    [(autocompleteName,
      .completions (FieldPath.dotted request.field) (text ++ ".*") request.limit)]

variable {request : AutocompleteRequest} {setting : Setting} {drawn : Value} {query : SearchQuery}

theorem suggestionParts_of_userInput (hautocomplete : query.autocomplete = some request)
    (hinput : request.userInput ≠ "") (setting : Setting) :
    ∃ parts, suggestionParts setting query = .ok parts ∧
      parts.aggregations = [(autocompleteName, completions request)] := by
  have hgiven : ¬request.userInput.isEmpty := by simpa using hinput
  rw [suggestionParts, hautocomplete]
  dsimp only
  rw [if_neg hgiven]
  exact ⟨_, rfl, rfl⟩

theorem seeks_completed {compiled : CompiledQuery}
    (hautocomplete : query.autocomplete = some request) (hinput : request.userInput ≠ "")
    (h : compileQuery setting drawn query = .ok compiled) :
    request.Seeks request.completed compiled := by
  obtain ⟨parts, hparts, rfl⟩ := compileQuery_eq_ok_iff.mp h
  obtain ⟨suggestion, hsuggestion, hsought⟩ :=
    suggestionParts_of_userInput hautocomplete hinput setting
  obtain rfl := Except.ok.inj (hsuggestion.symm.trans hparts.suggestion)
  have hfacets : parts.facets.aggregations = [] := by
    rw [← Except.ok.inj ((facetPart_of_autocomplete hautocomplete _ _).symm.trans hparts.facets)]
  show parts.suggestion.aggregations.putAll parts.facets.aggregations = _
  rw [hsought, hfacets]
  rfl

/-- The query for completions and for nothing else. -/
def alone (request : AutocompleteRequest) : SearchQuery where
  autocomplete := request

theorem compileQuery_alone (hinput : request.userInput ≠ "") (setting : Setting) (drawn : Value) :
    ∃ compiled, compileQuery setting drawn request.alone = .ok compiled := by
  have hautocomplete : request.alone.autocomplete = some request := rfl
  obtain ⟨suggestion, hsuggestion, -⟩ :=
    suggestionParts_of_userInput hautocomplete hinput setting
  obtain ⟨filter, hfilter⟩ :
    ∃ filter, lowerConditions setting.catalog request.alone.conditions = .ok filter := ⟨_, rfl⟩
  have hparts : QueryParts.AreOf setting drawn request.alone
      { filter, language := [], fulltext := {}, similar := [], suggestion
        facets := { postFilters := filter.postFilters }
        sorts := { sorts := [(.str scoreField, .descending)] } } :=
    ⟨hfilter, rfl, rfl, rfl, hsuggestion, facetPart_of_autocomplete hautocomplete _ _, rfl⟩
  exact ⟨_, compileQuery_eq_ok_iff.mpr ⟨_, hparts, rfl⟩⟩

/-- The key of a bucket is a text. -/
def HasKey (bucket : Value) (key : String) : Prop :=
  ∃ entries, bucket = .object entries ∧ Entries.find? entries "key" = some (.str key)

/-- A bucket gives a suggestion whose suffix, after the text to complete, makes up the key. -/
def CompletesTo (request : AutocompleteRequest) (bucket : Value) (key : String) : Prop :=
  ∃ suggestion suffix, request.readBucket bucket = .value suggestion ∧
    suggestion.suggestionSuffix = some suffix ∧ request.completed ++ suffix = key

/-- Each key that starts with the text to complete is completed by the suffix of its suggestion. -/
def CompletesKeys (request : AutocompleteRequest) : Prop :=
  ∀ bucket rest, HasKey bucket (request.completed ++ rest) →
    request.CompletesTo bucket (request.completed ++ rest)

variable (request : AutocompleteRequest)

theorem completesTo_iff {bucket : Value} {key : String} (hkey : HasKey bucket key) :
    request.CompletesTo bucket key ↔
      request.completed ++ String.ofList (key.toList.drop request.userInput.length) = key := by
  obtain ⟨entries, rfl, hfound⟩ := hkey
  unfold CompletesTo
  simp only [readBucket, hfound, Reading.value.injEq]
  constructor
  · rintro ⟨suggestion, suffix, rfl, hsuffix, hcompleted⟩
    obtain rfl := Option.some.inj hsuffix
    exact hcompleted
  · intro hcompleted
    exact ⟨_, _, rfl, rfl, hcompleted⟩

theorem completesTo_append_iff {bucket : Value} {rest : String}
    (hkey : HasKey bucket (request.completed ++ rest)) :
    request.CompletesTo bucket (request.completed ++ rest) ↔
      request.completed.length = request.userInput.length ∨
        rest = "" ∧ request.completed.length ≤ request.userInput.length :=
  (request.completesTo_iff hkey).trans Text.append_drop_eq_iff

theorem hasKey_object (key : String) : HasKey (.object [("key", .str key)]) key := ⟨_, rfl, rfl⟩

theorem completesKeys_iff :
    request.CompletesKeys ↔ request.completed.length = request.userInput.length := by
  constructor
  · intro hcompletes
    -- a key that goes on after the text to complete leaves only the first case
    have hkey := hasKey_object (request.completed ++ "s")
    rcases (request.completesTo_append_iff hkey).mp (hcompletes _ _ hkey) with h | ⟨hrest, -⟩
    · exact h
    · exact absurd hrest (by decide)
  · intro hlength bucket rest hkey
    exact (request.completesTo_append_iff hkey).mpr (.inl hlength)

/-- Buckets give their suggestions one by one, before the texts of the suggestion entries. -/
theorem readSuggestions_of_buckets {agg : Value} {buckets : List Value}
    (hbuckets : agg.path ["buckets"] = .list buckets) (suggest : Value) :
    ∃ readings, request.readSuggestions agg suggest = .ok readings ∧
      readings.values =
        buckets.filterMap (fun bucket => (request.readBucket bucket).value?) ++
          (Suggestion.readAll suggest).values.map request.suggestionOfText := by
  have hread : request.readSuggestions agg suggest =
      .ok ((Readings.ofList (buckets.map request.readBucket)).append
        { values := (Suggestion.readAll suggest).values.map request.suggestionOfText
          warnings := (Suggestion.readAll suggest).warnings }) := by
    rw [readSuggestions, hbuckets, elements_list, Outcome.bind_ok]
    rfl
  refine ⟨_, hread, ?_⟩
  show (buckets.map request.readBucket).filterMap Reading.value? ++ _ = _
  rw [List.filterMap_map]
  rfl

/-- Completions are asked for by one text and cut off by the length of another: the suggestions of
the buckets complete the one where it is as long as the other. -/
structure CompletesByLength : Prop where
  compiles : ∀ setting drawn, ∃ compiled, compileQuery setting drawn request.alone = .ok compiled
  seeks : ∀ setting drawn (query : SearchQuery) compiled, query.autocomplete = some request →
    compileQuery setting drawn query = .ok compiled → request.Seeks request.completed compiled
  suggests : ∀ (agg suggest : Value) buckets, agg.path ["buckets"] = .list buckets →
    ∃ readings, request.readSuggestions agg suggest = .ok readings ∧
      readings.values =
        buckets.filterMap (fun bucket => (request.readBucket bucket).value?) ++
          (Suggestion.readAll suggest).values.map request.suggestionOfText
  key : ∀ bucket rest, HasKey bucket (request.completed ++ rest) →
    (request.CompletesTo bucket (request.completed ++ rest) ↔
      request.completed.length = request.userInput.length ∨
        rest = "" ∧ request.completed.length ≤ request.userInput.length)
  keys : request.CompletesKeys ↔ request.completed.length = request.userInput.length

theorem suggestions_complete_by_length (hinput : request.userInput ≠ "") :
    request.CompletesByLength where
  compiles := compileQuery_alone hinput
  seeks _ _ _ _ hautocomplete := seeks_completed hautocomplete hinput
  suggests _ suggest _ hbuckets := request.readSuggestions_of_buckets hbuckets suggest
  key _ _ := request.completesTo_append_iff
  keys := request.completesKeys_iff

/-- Titles that start with a word that is not complete. -/
def oneWord : AutocompleteRequest where
  field := "title"
  userInput := "ca"

theorem oneWord_completed :
    oneWord.userInput ≠ "" ∧ oneWord.CompletesByLength ∧ oneWord.CompletesKeys :=
  have hcompletes := oneWord.suggestions_complete_by_length (by decide)
  ⟨by decide, hcompletes, hcompletes.keys.mpr rfl⟩

/-- Titles with a word that is not complete, after a word that is. -/
def twoWords : AutocompleteRequest where
  field := "title"
  userInput := "red ca"
  incompleteKey := some "ca"

/-- What follows in `cat` is not suggested, for the word is shorter than all that was typed. -/
theorem twoWords_not_completed :
    ¬∀ request : AutocompleteRequest, request.userInput ≠ "" → request.CompletesKeys := by
  intro hcompletes
  have hkey : HasKey (.object [("key", .str "cat")]) (twoWords.completed ++ "t") := hasKey_object _
  obtain ⟨suggestion, suffix, hread, hsuffix, hcompleted⟩ :=
    hcompletes twoWords (by decide) _ "t" hkey
  obtain rfl := Reading.value.inj hread
  obtain rfl := Option.some.inj hsuffix
  exact absurd hcompleted (by decide)

end AutocompleteRequest

end FacetedSearch
