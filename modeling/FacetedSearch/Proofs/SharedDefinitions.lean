import FacetedSearch.Proofs.CollectionCatalogs

/-!
Catalogs for all collections. A definition that is given once is the definition of every collection
whose name is no key of definitions. What stands under a key is a definition of its own for the
collection of that name where it is an object, as the fields of a definition may be.
-/

namespace FacetedSearch

/-- The entry of a name in a definition that could be a definition itself. -/
def innerDefinition? (definition : Entries Value) (name : String) : Option (Entries Value) :=
  (definition.find? name).bind Value.entries?

section

variable {files : DefinitionFiles} {definition : Entries Value} {name : String}
  {catalog : FieldCatalog}

/-- In the definition of a catalog only a key of definitions can have an entry. -/
theorem innerDefinition?_eq_none (h : FieldCatalog.ofDefinition (.object definition) = .ok catalog)
    (hname : name ∉ "fields" :: FieldCatalog.settingNames) :
    innerDefinition? definition name = none := by
  have hmem : name ∉ definition.names := by
    intro hmem
    have hrefused := FieldCatalog.ofEntries_of_no_setting hmem hname
    exact absurd (hrefused.symm.trans h) (by simp)
  rw [innerDefinition?, Entries.find?_eq_none_of_not_mem hmem]
  rfl

namespace CatalogSource

/-- The catalog of a definition for a collection is that of its entry, if that is a definition. -/
theorem catalogFor_of_shared (h : FieldCatalog.ofDefinition (.object definition) = .ok catalog) :
    (ofValue (.object definition)).catalogFor files (.str name) =
      match innerDefinition? definition name with
      | none => .ok catalog
      | some inner => FieldCatalog.ofDefinition (.object inner) := by
  have hfind := Entries.find?_mapValues CatalogForm.value definition name
  cases hinner : innerDefinition? definition name with
  | some inner =>
      obtain ⟨value, hvalue, hentries⟩ := Option.bind_eq_some_iff.mp hinner
      have hobject : value = .object inner := by
        cases value <;> cases hentries
        rfl
      rw [hvalue, hobject] at hfind
      exact catalogFor_of_definition hfind
  | none =>
      -- An entry of the name may still be there, but nothing else is taken for a definition.
      have hentry : ∀ form, (Entries.mapValues CatalogForm.value definition).find? name = some form →
          form.isDefinition = false := by
        intro form hform
        rw [hfind, Option.map_eq_some_iff] at hform
        obtain ⟨value, hvalue, rfl⟩ := hform
        rw [innerDefinition?, hvalue] at hinner
        cases value with
        | object entries => cases hinner
        | _ => rfl
      rw [ofValue, catalogFor, forCollection_of_no_definition hentry, Outcome.bind_ok, load,
        definition?_mapValues]
      exact h

end CatalogSource

end

namespace SearchProvider

variable {provider : SearchProvider} {component : Value}

/-- With a definition for all collections, the queries of a collection are compiled with its catalog
after any calls, except for the name of a key whose entry is taken for the definition. -/
theorem prepare_shared {definition : Entries Value} {name : String} {catalog : FieldCatalog}
    {call : NamedCall} {query : GivenQuery}
    (hshared : provider.catalog = catalogOf (.value (.object definition)))
    (hdefinition : FieldCatalog.ofDefinition (.object definition) = .ok catalog)
    (hquery : (do alterGiven provider.hooks (← givenQuery call.query)) = .ok query)
    (hname : provider.collectionName component call.toQueryCall.collection query =
      .ok (.str name)) (calls : List ProviderCall) (drawn : Value) :
    (innerDefinition? definition name = none ∨ name ∈ "fields" :: FieldCatalog.settingNames) ∧
      (provider.prepare { collection := component, drawn } call.toQueryCall
          (provider.performAll component {} calls)).outcome =
        match innerDefinition? definition name with
        | none => provider.compileWith (.str name) catalog drawn query
        | some inner => FieldCatalog.ofDefinition (.object inner) >>= fun other =>
            provider.compileWith (.str name) other drawn query := by
  constructor
  · by_cases hkey : name ∈ "fields" :: FieldCatalog.settingNames
    · exact .inr hkey
    · exact .inl (innerDefinition?_eq_none hdefinition hkey)
  · rw [prepare_outcome_eq_fresh (keeps_empty.performAll calls), prepare_fresh hquery hname,
      hshared, catalogOf, CatalogSource.catalogFor_of_shared hdefinition]
    cases innerDefinition? definition name <;> rfl

/-- The titles of all collections are texts. -/
def titles : Entries Value := [("fields", .object [("title", .str "text")])]

def shelf : SearchProvider := { catalog := catalogOf (.value (.object titles)) }

/-- Books are compiled with the definition after calls for books and for films. -/
theorem shelf_books_compiled :
    ∃ catalog prepared, FieldCatalog.ofDefinition (.object titles) = .ok catalog ∧
      (shelf.prepare { drawn := .int 3 } anyBook.toQueryCall
        (shelf.performAll .null {} shelfCalls)).outcome = .ok prepared ∧
      prepared.setting.catalog = catalog := by
  have hcompiled := (@prepare_shared shelf .null titles "books" _ anyBook _ rfl rfl rfl rfl
    shelfCalls (.int 3)).2
  exact ⟨_, _, rfl, hcompiled, rfl⟩

/-- A collection named for the key of fields is refused, though the query compiles with the
definition. -/
theorem shelf_fields_refused :
    ∃ catalog prepared, FieldCatalog.ofDefinition (.object titles) = .ok catalog ∧
      shelf.compileWith (.str "fields") catalog .null
        (some { sorts := [{ field := "$random" }], randomSeed := some 7 }) = .ok prepared ∧
      (shelf.prepare {} { anyBook with collection := some "fields" }.toQueryCall {}).outcome =
        .error .wrongKind :=
  ⟨_, _, rfl, rfl, rfl⟩

end SearchProvider

end FacetedSearch
