import FacetedSearch.Proofs.Readings
import FacetedSearch.Proofs.ResponseParts

/-!
Suggestion entries and their texts. Entries and options are read one by one, in their order: a well
formed option gives its text, unless that is empty, and what is malformed gives one warning at the
level where it is, for the entries as a whole, for an entry or for an option.
-/

namespace FacetedSearch

namespace Suggestion

/-- The options of a well formed entry, which is an object whose options are a list; options that do
not count as given are none. -/
def options? : Value → Option (List Value)
  | .object entries =>
    match Value.member entries "options" with
    | .list options => some options
    | given => if given.isTruthy then none else some []
  | _ => none

/-- The text of a well formed option, which is an object with a text. -/
def optionText? (option : Value) : Option String := (option.path ["text"]).text?

/-- The texts that an entry offers. -/
def textsOf (entry : Value) : List String :=
  (((options? entry).getD []).filterMap optionText?).filter (· ≠ "")

def malformedOption (option : Value) : String :=
  "Skipped malformed suggestion option: " ++ option.shown

/-- The warnings about an entry: one about itself, or one about each of its malformed options. -/
def warningsOf (entry : Value) : List String :=
  match options? entry with
  | some options => (options.filter fun option => (optionText? option).isNone).map malformedOption
  | none => ["Skipped malformed suggestion: " ++ entry.shown]

theorem readOptions_eq (options : List Value) :
    Readings.ofList (options.map readOption) =
      { values := (options.filterMap optionText?).filter (· ≠ "")
        warnings := (options.filter fun option => (optionText? option).isNone).map
          malformedOption } := by
  simp only [Readings.ofList, Readings.mk.injEq]
  induction options with
  | nil => exact ⟨rfl, rfl⟩
  | cons option rest ih =>
      obtain ⟨hvalues, hwarnings⟩ := ih
      simp only [List.map_cons, List.filterMap_cons, List.filter_cons, hvalues, hwarnings,
        readOption, optionText?]
      cases option.path ["text"] with
      | str text =>
          by_cases htext : text = ""
          · subst htext
            exact ⟨rfl, rfl⟩
          · have hgiven : text.isEmpty = false := by simpa using htext
            simp [hgiven, htext, Reading.value?, Reading.warning?, Value.text?]
      | _ => exact ⟨rfl, rfl⟩

/-- An entry gives the texts that it offers and the warnings about it. -/
theorem readEntry_eq (entry : Value) :
    readEntry entry = { values := textsOf entry, warnings := warningsOf entry } := by
  cases entry with
  | object entries =>
      simp only [readEntry, textsOf, warningsOf, options?, Value.isObject, Value.path_object]
      cases Value.member entries "options" with
      | list options =>
          have hlisted : (Value.list options).orElse (.list []) = .list options := by
            cases options <;> rfl
          rw [hlisted]
          exact readOptions_eq options
      | _ =>
          -- what is no list counts as no options or is malformed
          dsimp only [Value.orElse]
          split_ifs with hgiven
          · rfl
          · rfl
  | _ => rfl

/-- What suggestion entries give: nothing for null, one warning for what is no list, and for a list
the texts and the warnings of its entries, one entry after another. -/
structure ReadsTexts (given : Value) (readings : Readings String) : Prop where
  null : given = .null → readings.values = [] ∧ readings.warnings = []
  notList : given ≠ .null → (∀ entries, given ≠ .list entries) →
    readings.values = [] ∧
      readings.warnings = ["Skipped malformed suggestions: " ++ given.shown]
  list : ∀ entries, given = .list entries →
    readings.values = entries.flatMap textsOf ∧ readings.warnings = entries.flatMap warningsOf

theorem readAll_list (entries : List Value) :
    readAll (.list entries) =
      { values := entries.flatMap textsOf, warnings := entries.flatMap warningsOf } := by
  rw [readAll, Readings.foldl_append]
  simp only [readEntry_eq, List.nil_append]

theorem readAll_readsTexts (given : Value) : ReadsTexts given (readAll given) where
  null := by
    rintro rfl
    exact ⟨rfl, rfl⟩
  notList := by
    intro hnull hlist
    cases given with
    | null => exact absurd rfl hnull
    | list entries => exact absurd rfl (hlist entries)
    | _ => exact ⟨rfl, rfl⟩
  list := by
    rintro entries rfl
    rw [readAll_list]
    exact ⟨rfl, rfl⟩

end Suggestion

namespace ResultSet

/-- A response with nothing but entries of spelling suggestions. -/
def spellingAnswer (given : Value) : Value :=
  .object [("suggest", .object [("spelling_suggestion", given)])]

theorem spellingAnswer_isWellShaped (given : Value) : IsWellShaped (spellingAnswer given) :=
  ⟨⟨_, rfl⟩, .inl rfl, .inl rfl, .inl rfl, .inr ⟨_, rfl⟩⟩

/-- Whatever stands as suggestion entries is read as their texts and the warnings about them, and a
response with it can always be read, for every query. -/
theorem suggestions_read_texts (given : Value) :
    Suggestion.ReadsTexts given (Suggestion.readAll given) ∧
      ∀ (catalog : FieldCatalog) (query : SearchQuery), ∃ results,
        ofResponse catalog query (spellingAnswer given) = .ok results ∧
          Suggestion.ReadsTexts given
            { values := results.suggestions, warnings := results.warnings } := by
  refine ⟨Suggestion.readAll_readsTexts given, fun catalog query => ?_⟩
  obtain ⟨results, hresults, -, hsuggestions, hwarnings⟩ :=
    ofResponse_uncounted (spellingAnswer_isWellShaped given) rfl rfl catalog query
  refine ⟨results, hresults, ?_⟩
  rw [hsuggestions, hwarnings]
  exact Suggestion.readAll_readsTexts given

end ResultSet

end FacetedSearch
