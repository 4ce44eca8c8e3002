import FacetedSearch.Catalog.Definition
import FacetedSearch.Lowering.Query
import FacetedSearch.Proofs.FirstPlaces
import FacetedSearch.Proofs.Outcome

/-!
The documents that similar ones are sought for. They are the translations into the languages asked
for, each of them once, or the one document of the request where there are none; and they are found
exactly where every language that is looked up can be a key.
-/

namespace FacetedSearch

namespace MoreLikeThisRequest

/-- The document in a language, which only a text names. -/
def translationIn? (request : MoreLikeThisRequest) : Value → Option String
  | .str language => request.translations.find? language
  | _ => none

/-- The document of a request without translations: its default unless that is empty. -/
def ownId (request : MoreLikeThisRequest) : String :=
  (request.defaultId.filter fun id => !id.isEmpty).getD request.id

theorem ownId_eq_elim (request : MoreLikeThisRequest) :
    request.ownId =
      request.defaultId.elim request.id fun id => if id.isEmpty then request.id else id := by
  rw [ownId]
  cases request.defaultId with
  | none => rfl
  | some id =>
      rw [Option.filter_some, Option.elim_some]
      cases id.isEmpty <;> rfl

/-- Some language that is asked for has a translation. -/
def IsTranslatedInto (request : MoreLikeThisRequest) (asked : List Value) : Prop :=
  request.translatable = true ∧ ∃ language ∈ asked, (request.translationIn? language).isSome = true

/-- The documents of a request for the languages that are asked for. -/
structure RefersTo (request : MoreLikeThisRequest) (asked : List Value) (ids : List String) :
    Prop where
  ne_nil : ids ≠ []
  nodup : ids.Nodup
  translated : request.IsTranslatedInto asked →
    AreFirstPlaces (asked.filterMap request.translationIn?) ids
  untranslated : ¬request.IsTranslatedInto asked → ids = [request.ownId]

end MoreLikeThisRequest

namespace Lowering

/-- The languages that are asked for: those of a query, if it has any, else those of the catalog. -/
inductive Asks (catalog : FieldCatalog) : Option (List String) → List Value → Prop
  | given {languages : List String} (h : languages ≠ []) :
      Asks catalog (some languages) (languages.map .str)
  | empty : Asks catalog (some []) [catalog.currentLanguage, catalog.defaultLanguage]
  | absent : Asks catalog none [catalog.currentLanguage, catalog.defaultLanguage]

variable {catalog : FieldCatalog} {request : MoreLikeThisRequest} {languages : Option (List String)}

theorem asks_similarLanguages (catalog : FieldCatalog) (languages : Option (List String)) :
    Asks catalog languages (similarLanguages catalog languages) := by
  match languages with
  | none => exact .absent
  | some [] => exact .empty
  | some (first :: rest) => exact .given (List.cons_ne_nil _ _)

theorem translation?_eq (request : MoreLikeThisRequest) (language : Value) :
    translation? request.translations language =
      if language.isKey then .ok (request.translationIn? language) else .error .wrongKind := by
  cases language <;> rfl

/-- Translations are looked up exactly where every language can be a key. -/
theorem mapM_translation?_eq (request : MoreLikeThisRequest) (asked : List Value) :
    asked.mapM (translation? request.translations) =
      if asked.all Value.isKey then .ok (asked.map request.translationIn?)
      else .error .wrongKind := by
  induction asked with
  | nil => rfl
  | cons language rest ih =>
      rw [List.mapM_cons, translation?_eq, ih, List.all_cons]
      cases language.isKey with
      | false => rfl
      | true =>
          cases rest.all Value.isKey with
          | false => rfl
          | true => rfl

/-- The translations into the languages that are asked for, each of them once. -/
def foundIds (request : MoreLikeThisRequest) (asked : List Value) : List String :=
  if request.translatable then (asked.filterMap request.translationIn?).eraseDups else []

/-- What is found, or else the own document. -/
def references (request : MoreLikeThisRequest) (asked : List Value) : List String :=
  if foundIds request asked = [] then [request.ownId] else foundIds request asked

theorem foundIds_eq_nil_iff {asked : List Value} :
    foundIds request asked = [] ↔ ¬request.IsTranslatedInto asked := by
  rw [foundIds, MoreLikeThisRequest.IsTranslatedInto]
  split_ifs with htranslatable
  · have hnone : (asked.filterMap request.translationIn?).eraseDups = [] ↔
        ∀ language ∈ asked, request.translationIn? language = none := by
      rw [← List.filterMap_eq_nil_iff, List.eq_nil_iff_forall_not_mem,
        List.eq_nil_iff_forall_not_mem]
      simp only [List.mem_eraseDups]
    rw [hnone]
    simp [htranslatable, Option.isSome_iff_ne_none]
  · simp [htranslatable]

theorem refersTo_references (request : MoreLikeThisRequest) (asked : List Value) :
    request.RefersTo asked (references request asked) := by
  rw [references]
  split_ifs with hnone
  · exact
      { ne_nil := List.cons_ne_nil _ _
        nodup := List.nodup_singleton _
        translated := fun h => absurd h (foundIds_eq_nil_iff.mp hnone)
        untranslated := fun _ => rfl }
  · have hinto : request.IsTranslatedInto asked := not_not.mp (mt foundIds_eq_nil_iff.mpr hnone)
    have hfound : AreFirstPlaces (asked.filterMap request.translationIn?)
        (foundIds request asked) := by
      rw [areFirstPlaces_iff, foundIds, if_pos hinto.1]
    exact
      { ne_nil := hnone
        nodup := hfound.nodup
        translated := fun _ => hfound
        untranslated := fun h => absurd hinto h }

theorem similarIds_eq (catalog : FieldCatalog) (request : MoreLikeThisRequest)
    (languages : Option (List String)) :
    similarIds catalog request languages =
      if request.translatable && !(similarLanguages catalog languages).all Value.isKey then
        .error .wrongKind
      else .ok (references request (similarLanguages catalog languages)) := by
  generalize hasked : similarLanguages catalog languages = asked
  rw [similarIds, hasked, mapM_translation?_eq, references, foundIds, request.ownId_eq_elim]
  cases request.translatable with
  | false => cases request.defaultId <;> rfl
  | true =>
      cases asked.all Value.isKey with
      | false => rfl
      | true =>
          have hfound : (asked.map request.translationIn?).filterMap id =
              asked.filterMap request.translationIn? := by
            rw [List.filterMap_map, Function.id_comp]
          simp only [if_true, Outcome.bind_ok, hfound]
          cases (asked.filterMap request.translationIn?).eraseDups with
          | nil => cases request.defaultId <;> rfl
          | cons id ids => rfl

theorem similarLanguages_all_isKey_iff (catalog : FieldCatalog)
    (languages : Option (List String)) :
    (similarLanguages catalog languages).all Value.isKey = true ↔
      (languages.getD [] = [] →
        catalog.currentLanguage.isKey = true ∧ catalog.defaultLanguage.isKey = true) := by
  match languages with
  | none => simp [similarLanguages]
  | some [] => simp [similarLanguages]
  | some (first :: rest) => simp [similarLanguages, Value.isKey]

/-- The documents of a request are found exactly where the languages that are asked for can be
looked up, if it needs them; else a language is of the wrong kind. -/
theorem similarIds_refer_iff (catalog : FieldCatalog) (request : MoreLikeThisRequest)
    (languages : Option (List String)) :
    ((∃ asked ids, Asks catalog languages asked ∧
        similarIds catalog request languages = .ok ids ∧ request.RefersTo asked ids) ↔
      (request.translatable = true → languages.getD [] = [] →
        catalog.currentLanguage.isKey = true ∧ catalog.defaultLanguage.isKey = true)) ∧
      (similarIds catalog request languages = .error .wrongKind ↔
        ¬(request.translatable = true → languages.getD [] = [] →
          catalog.currentLanguage.isKey = true ∧ catalog.defaultLanguage.isKey = true)) := by
  rw [← similarLanguages_all_isKey_iff, similarIds_eq]
  have hlookup : (request.translatable && !(similarLanguages catalog languages).all Value.isKey) =
      true ↔ ¬(request.translatable = true →
        (similarLanguages catalog languages).all Value.isKey = true) := by
    simp [-List.all_eq_true]
  by_cases hkeys : request.translatable = true →
      (similarLanguages catalog languages).all Value.isKey = true
  · rw [if_neg (hlookup.not.mpr (not_not_intro hkeys))]
    refine ⟨iff_of_true ?_ hkeys, iff_of_false nofun (not_not_intro hkeys)⟩
    exact ⟨_, _, asks_similarLanguages catalog languages, rfl, refersTo_references request _⟩
  · rw [if_pos (hlookup.mpr hkeys)]
    refine ⟨iff_of_false ?_ hkeys, iff_of_true rfl hkeys⟩
    rintro ⟨asked, ids, -, hfound, -⟩
    cases hfound

example :
    similarIds {}
      { id := "7", translatable := true, translations := [("de", "7d"), ("en", "7e"), ("fr", "7e")] }
      (some ["en", "fr", "de", "en"]) = .ok ["7e", "7d"] := rfl

/-- A catalog may be defined with a list for its language, which no translation can be found for. -/
theorem listedLanguage_not_looked_up :
    ∃ catalog,
      FieldCatalog.ofDefinition (.object [("current_language", .list [.str "en"])]) = .ok catalog ∧
        similarIds catalog { id := "7", translatable := true } none = .error .wrongKind :=
  ⟨_, rfl, rfl⟩

end Lowering

end FacetedSearch
