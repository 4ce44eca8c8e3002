import FacetedSearch.Proofs.Outcome
import FacetedSearch.Store.Conversion

/-!
Arguments that have been converted to declared types. What a conversion returns has nothing left in
it that its type would read, neither an object nor a text, and only such arguments are converted to
what they hold already. So what is returned is given back when it is converted again, and a
conversion to any other type does not change that.
-/

namespace FacetedSearch

namespace Argument

/-- Whether an argument describes a model or a catalog: as an object, or as a text. -/
def isDescription : Argument → Bool
  | .value (.object _) | .value (.str _) => true
  | _ => false

/-- Arguments that hold the same. A list is given as a value or by its elements. -/
inductive IsSame : Argument → Argument → Prop
  | refl (argument : Argument) : IsSame argument argument
  | list {argument other : Argument} {items others : List Argument}
      (hitems : DeclaredType.listItems? argument = some items)
      (hothers : DeclaredType.listItems? other = some others)
      (h : List.Forall₂ IsSame items others) : IsSame argument other

end Argument

namespace DeclaredType

open Argument

/-- Whether a type reads descriptions. -/
def readsDescriptions : DeclaredType → Bool
  | .model _ | .catalog => true
  | .union members => (firstModel? members).isSome
  | .plain | .sequence _ => false

/-- An argument in which nothing is left that the type would read. -/
def IsSettled : DeclaredType → Argument → Prop
  | .sequence element, argument =>
    ∀ items ∈ listItems? argument, ∀ item ∈ items, element.IsSettled item
  | declared, argument => declared.readsDescriptions = true → argument.isDescription = false

/-- What comes of an argument that is read as a whole. -/
inductive IsReadAs (declared : DeclaredType) (argument : Argument) : Argument → Prop
  | model (model : Model) : IsReadAs declared argument (.model model)
  | catalog (catalog : FieldCatalog) : IsReadAs declared argument (.catalog catalog)
  | kept (h : declared.readsDescriptions = true → argument.isDescription = false) :
      IsReadAs declared argument argument

variable {declared other element : DeclaredType} {argument result : Argument}
  {items : List Argument}

/-- A reader is asked about objects and about what texts hold; all else is kept. -/
theorem readWith_cases {read : Value → Outcome Argument} {value : Value}
    (h : readWith read value = .ok result) :
    (∃ v, read v = .ok result) ∨
      (Argument.value value).isDescription = false ∧ result = .value value := by
  cases value with
  | object entries => exact .inl ⟨_, h⟩
  | str text =>
      rw [readWith] at h
      split at h
      · exact .inl ⟨_, h⟩
      · cases h
      · cases h
  | _ =>
      cases h
      exact .inr ⟨rfl, rfl⟩

theorem readWith_of_not_isDescription {value : Value}
    (h : (Argument.value value).isDescription = false) (read : Value → Outcome Argument) :
    readWith read value = .ok (.value value) := by
  cases value with
  | object | str => cases h
  | _ => rfl

theorem isReadAs_of_readModel {name : String} {value : Value}
    (h : readModel name value = .ok result) : IsReadAs declared (.value value) result := by
  rcases readWith_cases h with ⟨v, hread⟩ | ⟨hkept, rfl⟩
  · obtain ⟨model, -, hmodel⟩ := Outcome.bind_eq_ok.mp hread
    cases hmodel
    exact .model model
  · exact .kept fun _ => hkept

theorem isReadAs_of_readCatalog {value : Value} (h : readCatalog value = .ok result) :
    IsReadAs declared (.value value) result := by
  rcases readWith_cases h with ⟨v, hread⟩ | ⟨hkept, rfl⟩
  · obtain ⟨catalog, -, hcatalog⟩ := Outcome.bind_eq_ok.mp hread
    cases hcatalog
    exact .catalog catalog
  · exact .kept fun _ => hkept

theorem isReadAs_of_readAs (h : declared.readAs argument = .ok result) :
    IsReadAs declared argument result := by
  cases argument with
  | value v =>
      cases declared with
      | model name => exact isReadAs_of_readModel h
      | catalog => exact isReadAs_of_readCatalog h
      | union members =>
          rw [readAs] at h
          cases hfirst : firstModel? members with
          | some name =>
              rw [hfirst] at h
              exact isReadAs_of_readModel h
          | none =>
              rw [hfirst] at h
              cases h
              exact .kept fun hreads => by simp [readsDescriptions, hfirst] at hreads
      | plain | sequence =>
          cases h
          exact .kept nofun
  | model | catalog | list =>
      cases declared <;>
        · cases h
          exact .kept fun _ => rfl

/-- What a type does not read is kept. -/
theorem readAs_eq_self (h : declared.readsDescriptions = true → argument.isDescription = false) :
    declared.readAs argument = .ok argument := by
  cases argument with
  | value v =>
      cases declared with
      | model | catalog =>
          rw [readAs]
          exact readWith_of_not_isDescription (h rfl) _
      | union members =>
          rw [readAs]
          cases hfirst : firstModel? members with
          | some name =>
              exact readWith_of_not_isDescription (h (by rw [readsDescriptions, hfirst]; rfl)) _
          | none => rfl
      | plain | sequence => rfl
  | model | catalog | list => cases declared <;> rfl

/-- A type is a sequence of another one, or it reads arguments as a whole. -/
@[elab_as_elim]
theorem inductionOnElement {motive : DeclaredType → Prop}
    (sequence : ∀ element, motive element → motive (.sequence element))
    (whole : ∀ declared, (∀ element, declared ≠ .sequence element) → motive declared) :
    ∀ declared, motive declared
  | .sequence element => sequence element (inductionOnElement sequence whole element)
  | .plain => whole _ nofun
  | .model _ => whole _ nofun
  | .catalog => whole _ nofun
  | .union _ => whole _ nofun

section Whole

variable (hwhole : ∀ element, declared ≠ .sequence element)

include hwhole

theorem convert_of_whole (argument : Argument) :
    declared.convert argument = declared.readAs argument := by
  rw [convert]
  exact hwhole

theorem isSettled_of_whole :
    declared.IsSettled argument ↔
      (declared.readsDescriptions = true → argument.isDescription = false) := by
  rw [IsSettled]
  exact hwhole

theorem isReadAs_of_convert (h : declared.convert argument = .ok result) :
    IsReadAs declared argument result := by
  rw [convert_of_whole hwhole] at h
  exact isReadAs_of_readAs h

theorem convert_eq_self (h : declared.IsSettled argument) :
    declared.convert argument = .ok argument := by
  rw [convert_of_whole hwhole]
  exact readAs_eq_self ((isSettled_of_whole hwhole).mp h)

end Whole

/-- A list for a sequence is converted element by element. -/
theorem convert_list_eq_ok (h : listItems? argument = some items) :
    (sequence element).convert argument = .ok result ↔
      ∃ results, List.Forall₂ (fun item result => element.convert item = .ok result) items results ∧
        .list results = result := by
  rw [convert, h]
  simp only [Outcome.bind_eq_ok, Outcome.mapM_eq_ok_iff, Outcome.pure_eq_ok]

theorem convert_no_list (h : listItems? argument = none) :
    (sequence element).convert argument = .ok argument := by
  rw [convert, h]

theorem listItems?_list : listItems? (.list items) = some items := rfl

/-- What a conversion returns is settled. -/
theorem isSettled_of_convert (h : declared.convert argument = .ok result) :
    declared.IsSettled result := by
  induction declared using inductionOnElement generalizing argument result with
  | sequence element ih =>
      cases hitems : listItems? argument with
      | none =>
          rw [convert_no_list hitems] at h
          cases h
          rw [IsSettled, hitems]
          nofun
      | some items =>
          obtain ⟨results, hresults, rfl⟩ := (convert_list_eq_ok hitems).mp h
          rintro _ ⟨⟩ item hitem
          obtain ⟨given, -, hgiven⟩ := Outcome.exists_of_forall₂ hresults.flip hitem
          exact ih hgiven
  | whole declared hwhole =>
      rw [isSettled_of_whole hwhole]
      cases isReadAs_of_convert hwhole h with
      | model | catalog => exact fun _ => rfl
      | kept hkept => exact hkept

/-- What a conversion returns is given back when it is converted again. -/
theorem convert_convert (h : declared.convert argument = .ok result) :
    declared.convert result = .ok result := by
  induction declared using inductionOnElement generalizing argument result with
  | sequence element ih =>
      cases hitems : listItems? argument with
      | none =>
          rw [convert_no_list hitems] at h
          cases h
          exact convert_no_list hitems
      | some items =>
          obtain ⟨results, hresults, rfl⟩ := (convert_list_eq_ok hitems).mp h
          refine (convert_list_eq_ok listItems?_list).mpr ⟨results, ?_, rfl⟩
          rw [List.forall₂_same]
          intro item hitem
          obtain ⟨given, -, hgiven⟩ := Outcome.exists_of_forall₂ hresults.flip hitem
          exact ih hgiven
  | whole declared hwhole => exact convert_eq_self hwhole (isSettled_of_convert h)

theorem isDescription_of_listItems? (h : listItems? argument = some items) :
    argument.isDescription = false := by
  cases argument with
  | value v =>
      cases v with
      | object | str => cases h
      | _ => rfl
  | _ => rfl

/-- Whether an argument is settled depends on what it holds alone. -/
theorem IsSettled.of_isSame {other : Argument} (hsame : argument.IsSame other)
    (h : declared.IsSettled argument) : declared.IsSettled other := by
  induction declared using inductionOnElement generalizing argument other with
  | sequence element ih =>
      cases hsame with
      | refl => exact h
      | list hitems hothers hsame =>
          rw [IsSettled, hothers]
          rintro _ ⟨⟩ item hitem
          obtain ⟨given, hgiven, hsame⟩ := Outcome.exists_of_forall₂ hsame.flip hitem
          exact ih hsame (h _ hitems given hgiven)
  | whole declared hwhole =>
      cases hsame with
      | refl => exact h
      | list _ hothers _ =>
          rw [isSettled_of_whole hwhole]
          exact fun _ => isDescription_of_listItems? hothers

/-- A settled argument is converted to one that holds the same. -/
theorem IsSettled.exists_convert (h : declared.IsSettled argument) :
    ∃ result, declared.convert argument = .ok result ∧ result.IsSame argument := by
  induction declared using inductionOnElement generalizing argument with
  | sequence element ih =>
      cases hitems : listItems? argument with
      | none => exact ⟨argument, convert_no_list hitems, .refl argument⟩
      | some items =>
          have hconverted : ∀ item ∈ items,
              ∃ result, element.convert item = .ok result ∧ result.IsSame item :=
            fun item hitem => ih (h items hitems item hitem)
          choose! converted hconverted hsame using hconverted
          refine ⟨.list (items.map converted), (convert_list_eq_ok hitems).mpr ⟨_, ?_, rfl⟩,
            .list listItems?_list hitems ?_⟩
          · rwa [List.forall₂_map_right_iff, List.forall₂_same]
          · rwa [List.forall₂_map_left_iff, List.forall₂_same]
  | whole declared hwhole => exact ⟨argument, convert_eq_self hwhole h, .refl argument⟩

/-- Exactly the settled arguments are converted to what they hold already. -/
theorem isSettled_iff : declared.IsSettled argument ↔
    ∃ result, declared.convert argument = .ok result ∧ result.IsSame argument := by
  constructor
  · exact IsSettled.exists_convert
  · rintro ⟨result, hresult, hsame⟩
    exact (isSettled_of_convert hresult).of_isSame hsame

theorem isDescription_of_convert (hargument : argument.isDescription = false)
    (h : declared.convert argument = .ok result) : result.isDescription = false := by
  cases declared using inductionOnElement with
  | sequence element _ =>
      cases hitems : listItems? argument with
      | none =>
          rw [convert_no_list hitems] at h
          cases h
          exact hargument
      | some items =>
          obtain ⟨results, -, rfl⟩ := (convert_list_eq_ok hitems).mp h
          rfl
  | whole declared hwhole =>
      rw [convert_eq_self hwhole ((isSettled_of_whole hwhole).mpr fun _ => hargument)] at h
      cases h
      exact hargument

theorem listItems?_of_convert (hargument : listItems? argument = none)
    (h : declared.convert argument = .ok result) : listItems? result = none := by
  cases declared using inductionOnElement with
  | sequence element _ =>
      rw [convert_no_list hargument] at h
      cases h
      exact hargument
  | whole declared hwhole =>
      cases isReadAs_of_convert hwhole h with
      | model | catalog => rfl
      | kept => exact hargument

/-- What a type gives back, it gives back after a conversion to any other type. -/
theorem convert_after_convert (hself : declared.convert argument = .ok argument)
    (h : other.convert argument = .ok result) : declared.convert result = .ok result := by
  induction declared using inductionOnElement generalizing argument other result with
  | sequence element ih =>
      cases hitems : listItems? argument with
      | none => exact convert_no_list (listItems?_of_convert hitems h)
      | some items =>
          -- A list that is given back is one of arguments, each of which is given back.
          obtain ⟨kept, hkept, rfl⟩ := (convert_list_eq_ok hitems).mp hself
          cases hitems
          rw [List.forall₂_same] at hkept
          cases other using inductionOnElement with
          | sequence otherElement _ =>
              obtain ⟨results, hresults, rfl⟩ := (convert_list_eq_ok listItems?_list).mp h
              refine (convert_list_eq_ok listItems?_list).mpr ⟨results, ?_, rfl⟩
              rw [List.forall₂_same]
              intro item hitem
              obtain ⟨given, hgiven, hconverted⟩ := Outcome.exists_of_forall₂ hresults.flip hitem
              exact ih (hkept given hgiven) hconverted
          | whole other hwhole =>
              rw [convert_eq_self hwhole ((isSettled_of_whole hwhole).mpr fun _ => rfl)] at h
              cases h
              exact hself
  | whole declared hwhole =>
      have hsettled := (isSettled_of_whole hwhole).mp (isSettled_of_convert hself)
      refine convert_eq_self hwhole ((isSettled_of_whole hwhole).mpr fun hreads => ?_)
      exact isDescription_of_convert (hsettled hreads) h

end DeclaredType

end FacetedSearch
