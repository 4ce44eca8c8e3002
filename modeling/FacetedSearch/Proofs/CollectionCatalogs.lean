import FacetedSearch.Proofs.CollectionCache
import FacetedSearch.Proofs.Entries

/-!
Catalogs by collection. In a table of catalogs every entry is a catalog, its definition or the path
of a file with its definition. The queries of a collection are compiled with the catalog of its
entry where this is a definition; where it is a catalog or a path, the whole table is taken for one
definition, which it is not.
-/

namespace FacetedSearch

namespace CatalogForm

/-- The catalog that a form stands for. -/
inductive Denotes (files : DefinitionFiles) : CatalogForm → FieldCatalog → Prop
  | catalog (catalog : FieldCatalog) : Denotes files (.catalog catalog) catalog
  | definition {entries : Entries Value} {catalog : FieldCatalog}
      (h : FieldCatalog.ofDefinition (.object entries) = .ok catalog) :
      Denotes files (.value (.object entries)) catalog
  | file {path : String} {catalog : FieldCatalog}
      (h : CatalogSource.fromFile files path = .ok catalog) :
      Denotes files (.value (.str path)) catalog

/-- A form is the definition of a catalog. -/
def isDefinition : CatalogForm → Bool
  | .value (.object _) => true
  | _ => false

end CatalogForm

/-- Entries with a name that is no setting of a catalog define none. -/
theorem FieldCatalog.ofEntries_of_no_setting {definition : Entries Value} {name : String}
    (hname : name ∈ definition.names) (hsetting : name ∉ "fields" :: settingNames) :
    ofEntries definition = .error .wrongKind := by
  obtain ⟨hfields, hnone⟩ := not_or.mp (mt List.mem_cons.mpr hsetting)
  have hmem : name ∈ (definition.erase "fields").names := by
    obtain ⟨entry, hentry, rfl⟩ := List.mem_map.mp hname
    exact List.mem_map_of_mem (List.mem_filter.mpr ⟨hentry, by simpa using hfields⟩)
  have hall : (definition.erase "fields").names.all settingNames.contains = false := by
    rw [List.all_eq_false]
    exact ⟨name, hmem, by simpa using hnone⟩
  have hrefused : ∀ definitions,
      ofDefinitions definitions (definition.erase "fields") = .error .wrongKind := by
    intro definitions
    rw [ofDefinitions, hall]
    rfl
  rw [ofEntries]
  cases hdefinitions : FieldDefinitions.ofValue (Value.member definition "fields") with
  | ok definitions => exact hrefused definitions
  | error fault =>
      obtain rfl : fault = .wrongKind := by
        unfold FieldDefinitions.ofValue at hdefinitions
        split at hdefinitions
        · cases hdefinitions
        · cases hdefinitions
        · split at hdefinitions
          · cases hdefinitions
          · exact (Except.error.inj hdefinitions).symm
      rfl

namespace CatalogSource

variable {files : DefinitionFiles} {entries : Entries CatalogForm} {name : String}
  {form : CatalogForm} {catalog : FieldCatalog}

/-- The catalog of a source for a collection. -/
def catalogFor (source : CatalogSource) (files : DefinitionFiles) (collection : Value) :
    Outcome FieldCatalog := do
  load files (← source.forCollection collection)

theorem definition?_mapValues (definition : Entries Value) :
    definition? (Entries.mapValues .value definition) = some definition := by
  unfold definition? Entries.mapValues
  induction definition with
  | nil => rfl
  | cons entry rest ih =>
      rw [List.map_cons, List.mapM_cons, ih]
      rfl

theorem names_definition? {definition : Entries Value}
    (h : definition? entries = some definition) : definition.names = entries.names := by
  induction entries generalizing definition with
  | nil =>
      cases h
      rfl
  | cons entry rest ih =>
      rw [definition?, List.mapM_cons] at h
      simp only [Option.bind_eq_bind, Option.bind_eq_some_iff, Option.map_eq_some_iff] at h
      obtain ⟨first, ⟨value, -, rfl⟩, others, hothers, h⟩ := h
      cases h
      exact congrArg (entry.1 :: ·) (ih hothers)

/-- A definition is the source of its collection. -/
theorem catalogFor_of_definition {definition : Entries Value}
    (hentry : entries.find? name = some (.value (.object definition))) :
    (table entries).catalogFor files (.str name) =
      FieldCatalog.ofDefinition (.object definition) := by
  simp only [catalogFor, forCollection, hentry, Outcome.bind_ok, ofValue, load,
    definition?_mapValues]
  rfl

/-- Any other entry leaves the whole table as the source. -/
theorem forCollection_of_no_definition
    (hentry : ∀ form, entries.find? name = some form → form.isDefinition = false) :
    (table entries).forCollection (.str name) = .ok (.table entries) := by
  simp only [forCollection]
  split
  · next heq => cases hentry _ heq
  · rfl

/-- A table with the name of a collection is no definition. -/
theorem catalogFor_of_no_definition (hname : name ∉ "fields" :: FieldCatalog.settingNames)
    (hentry : entries.find? name = some form) (hform : form.isDefinition = false) :
    (table entries).catalogFor files (.str name) = .error .wrongKind := by
  have hwhole : (table entries).forCollection (.str name) = .ok (.table entries) :=
    forCollection_of_no_definition fun other hother =>
      Option.some.inj (hentry.symm.trans hother) ▸ hform
  rw [catalogFor, hwhole, Outcome.bind_ok, load]
  cases hdefinition : definition? entries with
  | none => rfl
  | some definition =>
      have hmem : name ∈ definition.names := by
        rw [names_definition? hdefinition]
        exact List.mem_map_of_mem (Entries.mem_of_find? hentry)
      exact FieldCatalog.ofEntries_of_no_setting hmem hname

end CatalogSource

namespace SearchProvider

variable {provider : SearchProvider} {component : Value}

/-- A query compiled for a collection with a catalog. -/
def compileWith (provider : SearchProvider) (collection : Value) (catalog : FieldCatalog)
    (drawn : Value) (query : GivenQuery) : Outcome Prepared := do
  let suggestionField ← collectionParameter provider.suggestionField collection
  compileGiven
    { collection, catalog, fuzziness := provider.fuzziness, suggestionField,
      hooks := provider.hooks }
    drawn query

/-- A new provider compiles the query of a call with the catalog of its source. -/
theorem prepare_fresh {name : String} {call : NamedCall} {query : GivenQuery}
    (hquery : (do alterGiven provider.hooks (← givenQuery call.query)) = .ok query)
    (hname : provider.collectionName component call.toQueryCall.collection query =
      .ok (.str name)) (drawn : Value) :
    (provider.prepare { collection := component, drawn } call.toQueryCall {}).outcome =
      provider.catalog.catalogFor provider.files (.str name) >>= fun catalog =>
        provider.compileWith (.str name) catalog drawn query := by
  obtain ⟨given, hgiven, haltered⟩ := Outcome.bind_eq_ok.mp hquery
  have hcall : givenQuery call.toQueryCall.query = .ok given := hgiven
  have hfresh : (provider.settingOf {} (.str name)).map Prod.fst =
      provider.buildSetting (.str name) := by
    show (do
      let setting ← provider.buildSetting (.str name)
      return (setting, _)).map Prod.fst = provider.buildSetting (.str name)
    cases provider.buildSetting (.str name) <;> rfl
  rw [prepare_outcome, hcall, Outcome.bind_ok, haltered, Outcome.bind_ok, hname, Outcome.bind_ok,
    hfresh, buildSetting, CatalogSource.catalogFor]
  simp only [bind_assoc, pure_bind, compileWith]

/-- The queries of a collection in a table are compiled with the catalog of its entry, if this is a
definition, after any calls; any other entry is refused with the table. -/
theorem prepare_table {entries : Entries CatalogForm} {name : String} {form : CatalogForm}
    {catalog : FieldCatalog} {call : NamedCall} {query : GivenQuery}
    (htable : provider.catalog = .table entries)
    (hsetting : name ∉ "fields" :: FieldCatalog.settingNames)
    (hentry : entries.find? name = some form) (hform : form.Denotes provider.files catalog)
    (hquery : (do alterGiven provider.hooks (← givenQuery call.query)) = .ok query)
    (hname : provider.collectionName component call.toQueryCall.collection query =
      .ok (.str name)) (calls : List ProviderCall) (drawn : Value) :
    (provider.prepare { collection := component, drawn } call.toQueryCall
        (provider.performAll component {} calls)).outcome =
      if form.isDefinition then provider.compileWith (.str name) catalog drawn query
      else .error .wrongKind := by
  rw [prepare_outcome_eq_fresh (keeps_empty.performAll calls), prepare_fresh hquery hname, htable]
  cases hform with
  | definition h =>
      rw [CatalogSource.catalogFor_of_definition hentry, h]
      rfl
  | catalog =>
      rw [CatalogSource.catalogFor_of_no_definition hsetting hentry rfl]
      rfl
  | file h =>
      rw [CatalogSource.catalogFor_of_no_definition hsetting hentry rfl]
      rfl

/-- A definition of books, and the path of a definition of films. -/
def library : SearchProvider where
  catalog := .table
    [("books", .value (.object [("fields", .object [("title", .str "text")])])),
      ("films", .value (.str "films.yaml"))]
  files := [("films.yaml", .object [])]

/-- Books are compiled with their definition after calls for books and for films. -/
theorem library_books_compiled :
    ∃ catalog prepared,
      CatalogForm.Denotes library.files
        (.value (.object [("fields", .object [("title", .str "text")])])) catalog ∧
      (library.prepare { drawn := .int 3 } anyBook.toQueryCall
        (library.performAll .null {} shelfCalls)).outcome = .ok prepared ∧
      prepared.setting.catalog = catalog := by
  have hcompiled := @prepare_table library .null _ "books" _ _ anyBook _ rfl (by decide) rfl
    (.definition rfl) rfl rfl shelfCalls (.int 3)
  exact ⟨_, _, .definition rfl, hcompiled, rfl⟩

/-- The definition of films is in its file, but no film is compiled with it. -/
theorem library_films_refused :
    ∃ catalog prepared,
      CatalogForm.Denotes library.files (.value (.str "films.yaml")) catalog ∧
      library.compileWith (.str "films") catalog .null
        (some { sorts := [{ field := "$random" }], randomSeed := some 7 }) = .ok prepared ∧
      (library.prepare {} anyFilm.toQueryCall {}).outcome = .error .wrongKind :=
  ⟨_, _, .file rfl, rfl, rfl⟩

end SearchProvider

end FacetedSearch
