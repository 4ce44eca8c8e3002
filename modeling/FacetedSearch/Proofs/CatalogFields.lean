import FacetedSearch.Proofs.CatalogResolution
import FacetedSearch.Proofs.DeclaredFields

/-!
The fields of a catalog as its definition declares them. The ids stand in the order in which they
are declared first, those of the fields with a role behind them, and each id has the field that is
declared last. What the catalog finds, refuses and resolves follows from that.
-/

namespace FacetedSearch.FieldCatalog

/-- What a definition of a field declares. A listed one is a field or describes it. One that stands
under a name declares a field of that name, unless its description names another; what is no
description is the type of the field. -/
inductive Declares : Option String → FieldDefinition → SearchField → Prop
  | field (name : Option String) (field : SearchField) : Declares name (.field field) field
  | listed {entries : Entries Value} {field : SearchField}
      (h : SearchField.ofEntries? entries = some field) :
      Declares none (.value (.object entries)) field
  | named {name : String} {entries : Entries Value} {field : SearchField}
      (h : SearchField.ofEntries? (Entries.putAll [("id", .str name)] entries) = some field) :
      Declares (some name) (.value (.object entries)) field
  | typed {name : String} {value : Value} {type : FieldType} (hvalue : value.isObject = false)
      (h : FieldType.decode? value = some type) :
      Declares (some name) (.value value) { id := name, type }

/-- The definitions of fields in their order, with their names if they have any. -/
def FieldDefinitions.members : FieldDefinitions → List (Option String × FieldDefinition)
  | .listed definitions => definitions.map fun definition => (none, definition)
  | .named definitions => definitions.map fun entry => (some entry.1, entry.2)

/-- The fields that definitions declare, one by one. -/
def FieldDefinitions.Declare (definitions : FieldDefinitions) (declared : List SearchField) :
    Prop :=
  List.Forall₂ (fun member field => Declares member.1 member.2 field) definitions.members declared

/-- What defines a catalog: a document, or parts of one in which fields may be built already. -/
inductive CatalogDefinition where
  | document (value : Value)
  | parts (definitions : FieldDefinitions) (settings : Entries Value)

namespace CatalogDefinition

def catalog : CatalogDefinition → Outcome FieldCatalog
  | .document value => ofDefinition value
  | .parts definitions settings => ofDefinitions definitions settings

def fieldDefinitions : CatalogDefinition → Outcome FieldDefinitions
  | .document value => FieldDefinitions.ofValue (value.path ["fields"])
  | .parts definitions _ => .ok definitions

end CatalogDefinition

def ids (catalog : FieldCatalog) : List String := catalog.fields.map (·.id)

/-- The ids of the fields that have a role. -/
def roles (catalog : FieldCatalog) : List String := [catalog.languageField, catalog.datasourceField]

/-- The last declaration of an id. -/
def lastDeclared? (declared : List SearchField) (id : String) : Option SearchField :=
  (declared.filter (·.id = id)).getLast?

/-- A field with a role, as it is where it is not declared. -/
def implicit? (roles : List String) (id : String) : Option SearchField :=
  if id ∈ roles then some { id } else none

/-- A catalog has the declared fields, and those with a role, as its fields. -/
structure HoldsDeclared (catalog : FieldCatalog) (declared : List SearchField) : Prop where
  distinct : catalog.ids.Nodup
  ordered : AreFirstPlaces (declared.map (·.id) ++ catalog.roles) catalog.ids
  listed : ∀ field ∈ catalog.fields, catalog.get? field.id = some field
  id_eq : ∀ id field, catalog.get? id = some field → field.id = id
  found : ∀ id, catalog.get? id = (lastDeclared? declared id).or (implicit? catalog.roles id)
  /-- A field with a role resolves to what is declared, and else to a field of strings. -/
  rolesResolve : ∀ id ∈ catalog.roles,
    catalog.resolve id = .ok ((lastDeclared? declared id).getD { id, type := .string })
  fulltext : catalog.fulltextFields =
    catalog.ids.filterMap fun id => (lastDeclared? declared id).filter (·.type = .text)
  required : ∀ id, Outcome.AcceptsIff (id ∈ catalog.ids) (catalog.require id)
  resolved : ∀ id,
    Outcome.AcceptsIff (id ∈ catalog.ids ∨ FieldPath.root id ∈ catalog.ids) (catalog.resolve id)

section Declarations

variable {name : String} {definition : FieldDefinition} {definitions : FieldDefinitions}
  {field : SearchField} {declared : List SearchField}

theorem decodeField_object_eq_ok {entries : Entries Value} :
    decodeField (.object entries) = .ok field ↔ SearchField.ofEntries? entries = some field := by
  have hdecode : SearchField.decode? (.object entries) = SearchField.ofEntries? entries := rfl
  rw [decodeField, hdecode]
  cases SearchField.ofEntries? entries <;> simp

theorem convertListed_eq_ok_iff :
    convertListed definition = .ok field ↔ Declares none definition field := by
  constructor
  · intro h
    unfold convertListed at h
    split at h
    · cases h
      exact .field none _
    · exact .listed (decodeField_object_eq_ok.mp h)
    · cases h
  · rintro (_ | h)
    · rfl
    · exact decodeField_object_eq_ok.mpr h

/-- A name with a type describes the field of both. -/
theorem ofEntries?_typed (name : String) (value : Value) :
    SearchField.ofEntries? [("id", .str name), ("type", value)] =
      (FieldType.decode? value).map fun type => { id := name, type } := by
  show ((FieldType.decode? value).bind fun type => some ({ id := name, type } : SearchField)) = _
  cases FieldType.decode? value <;> rfl

theorem convertNamed_eq_ok_iff :
    convertNamed name definition = .ok field ↔ Declares (some name) definition field := by
  constructor
  · intro h
    unfold convertNamed at h
    split at h
    · cases h
      exact .field _ _
    · exact .named (decodeField_object_eq_ok.mp h)
    · next value hvalue =>
        rw [decodeField_object_eq_ok, ofEntries?_typed, Option.map_eq_some_iff] at h
        obtain ⟨type, htype, rfl⟩ := h
        refine .typed ?_ htype
        cases value with
        | object entries => exact absurd rfl (hvalue entries)
        | _ => rfl
  · intro h
    cases h with
    | field => rfl
    | named h => exact decodeField_object_eq_ok.mpr h
    | @typed _ value type hvalue h =>
        have htyped : convertNamed name (.value value) =
            decodeField (.object [("id", .str name), ("type", value)]) := by
          cases value with
          | object entries => cases hvalue
          | _ => rfl
        rw [htyped, decodeField_object_eq_ok, ofEntries?_typed, h]
        rfl

theorem fields_eq_ok_iff :
    definitions.fields = .ok declared ↔ definitions.Declare declared := by
  cases definitions with
  | listed definitions =>
      show definitions.mapM convertListed = _ ↔ List.Forall₂ _ (definitions.map _) _
      rw [Outcome.mapM_eq_ok_iff, List.forall₂_map_left_iff]
      simp only [convertListed_eq_ok_iff]
  | named definitions =>
      show definitions.mapM (fun entry => convertNamed entry.1 entry.2) = _ ↔
        List.Forall₂ _ (definitions.map _) _
      rw [Outcome.mapM_eq_ok_iff, List.forall₂_map_left_iff]
      simp only [convertNamed_eq_ok_iff]

end Declarations

/-- A catalog that is built of declared fields and then of fields with a role. -/
structure IsBuiltOf (catalog : FieldCatalog) (declared : List SearchField) (roles : List String) :
    Prop where
  names_eq : catalog.entries.names = (declared.map (·.id) ++ roles).eraseDups
  get?_eq : ∀ id, catalog.get? id = (lastDeclared? declared id).or (implicit? roles id)

section Building

variable {catalog : FieldCatalog} {declared : List SearchField} {roles : List String}

theorem isBuiltOf_ofList
    (h : catalog.entries = Entries.ofList (declared.map fun field => (field.id, field))) :
    catalog.IsBuiltOf declared [] := by
  constructor
  · rw [h, Entries.names_ofList, List.append_nil, Entries.names, List.map_map]
    rfl
  · intro id
    rw [get?, h, Entries.find?_ofList, List.filter_map, List.getLast?_map]
    simp [lastDeclared?, implicit?, Function.comp_def]

theorem lastDeclared?_eq_none_iff {id : String} :
    lastDeclared? declared id = none ↔ id ∉ declared.map (·.id) := by
  rw [lastDeclared?, List.getLast?_eq_none_iff, List.filter_eq_nil_iff]
  simp

theorem implicit?_concat_of_ne {id other : String} (h : other ≠ id) :
    implicit? (roles ++ [id]) other = implicit? roles other := by
  simp [implicit?, h]

/-- Declaring a field with a role leaves all fields as they are that are there already. -/
theorem IsBuiltOf.withImplicit (h : catalog.IsBuiltOf declared roles) (id : String) :
    (catalog.withImplicit id).IsBuiltOf declared (roles ++ [id]) := by
  have hnames : id ∈ catalog.entries.names ↔ id ∈ declared.map (·.id) ∨ id ∈ roles := by
    rw [h.names_eq, List.mem_eraseDups, List.mem_append]
  have hids : (declared.map (·.id) ++ (roles ++ [id])).eraseDups =
      if id ∈ catalog.entries.names then catalog.entries.names
      else catalog.entries.names ++ [id] := by
    rw [← List.append_assoc, eraseDups_concat, ← h.names_eq]
    simp only [List.mem_append, hnames]
  rw [FieldCatalog.withImplicit]
  split_ifs with hdeclared
  · rw [Entries.contains_iff] at hdeclared
    refine ⟨?_, fun other => ?_⟩
    · rw [hids, if_pos hdeclared]
    · rw [h.get?_eq]
      cases hlast : lastDeclared? declared other with
      | some field => rfl
      | none =>
          by_cases hother : other = id
          · subst hother
            -- An id that is there undeclared has a role already: both roles share its field.
            have hrole := (hnames.mp hdeclared).resolve_left (lastDeclared?_eq_none_iff.mp hlast)
            simp [implicit?, hrole]
          · rw [implicit?_concat_of_ne hother]
  · rw [Entries.contains_iff] at hdeclared
    refine ⟨?_, fun other => ?_⟩
    · rw [hids, if_neg hdeclared, Entries.names_put, if_neg hdeclared]
    · by_cases hother : other = id
      · subst hother
        have hnone := lastDeclared?_eq_none_iff.mpr (not_or.mp (mt hnames.mpr hdeclared)).1
        rw [get?, Entries.find?_put_self, hnone]
        simp [implicit?]
      · rw [get?, Entries.find?_put_of_ne _ _ hother, implicit?_concat_of_ne hother]
        exact h.get?_eq other

theorem withImplicit_settings (catalog : FieldCatalog) (id : String) :
    (catalog.withImplicit id).languageField = catalog.languageField ∧
      (catalog.withImplicit id).datasourceField = catalog.datasourceField := by
  rw [FieldCatalog.withImplicit]
  split_ifs
  · exact ⟨rfl, rfl⟩
  · exact ⟨rfl, rfl⟩

/-- A catalog of fields is built of them and of those with a role. -/
theorem isBuiltOf_of_ofFields {settings : Entries Value}
    (h : ofFields declared settings = .ok catalog) : catalog.IsBuiltOf declared catalog.roles := by
  obtain ⟨languageField, -, h⟩ := Outcome.bind_eq_ok.mp h
  obtain ⟨datasourceField, -, h⟩ := Outcome.bind_eq_ok.mp h
  obtain rfl := Outcome.pure_eq_ok.mp h
  simp only [roles, withImplicit_settings]
  exact ((isBuiltOf_ofList rfl).withImplicit languageField).withImplicit datasourceField

theorem IsKeyed.ids_eq (h : catalog.IsKeyed) : catalog.ids = catalog.entries.names := by
  rw [ids, fields, Entries.values, List.map_map, Entries.names]
  exact List.map_congr_left fun entry hentry => h entry hentry

theorem IsKeyed.isSome_get?_iff (h : catalog.IsKeyed) {id : String} :
    (catalog.get? id).isSome = true ↔ id ∈ catalog.ids := by
  rw [h.ids_eq]
  exact Entries.contains_iff

theorem IsKeyed.get?_of_mem (h : catalog.IsKeyed) (hdistinct : catalog.ids.Nodup)
    {field : SearchField} (hfield : field ∈ catalog.fields) :
    catalog.get? field.id = some field := by
  obtain ⟨entry, hentry, rfl⟩ := List.mem_map.mp hfield
  rw [h.ids_eq] at hdistinct
  rw [h entry hentry]
  exact Entries.find?_of_mem hdistinct hentry

theorem require_acceptsIff (h : catalog.IsKeyed) (id : String) :
    Outcome.AcceptsIff (id ∈ catalog.ids) (catalog.require id) := by
  rw [require]
  cases hfound : catalog.get? id with
  | some field => exact .accepted field (h.isSome_get?_iff.mp (by rw [hfound]; rfl))
  | none => exact .refused rfl (mt h.isSome_get?_iff.mpr (by simp [hfound]))

theorem IsBuiltOf.resolve_role (h : catalog.IsBuiltOf declared roles) {id : String}
    (hid : id ∈ roles) :
    catalog.resolve id = .ok ((lastDeclared? declared id).getD { id, type := .string }) := by
  have hfound := h.get?_eq id
  rw [implicit?, if_pos hid] at hfound
  rw [resolve, hfound]
  cases lastDeclared? declared id <;> rfl

/-- A field with a role is not of texts unless it is declared so. -/
theorem IsBuiltOf.lastDeclared?_filter (h : catalog.IsBuiltOf declared roles)
    {field : SearchField} (hfield : catalog.get? field.id = some field) :
    (lastDeclared? declared field.id).filter (·.type = .text) =
      Option.guard (·.type == .text) field := by
  rw [h.get?_eq] at hfield
  cases hlast : lastDeclared? declared field.id with
  | some last =>
      rw [hlast, Option.some_or, Option.some.injEq] at hfield
      subst hfield
      simp [Option.filter, Option.guard]
  | none =>
      rw [hlast, Option.none_or, implicit?] at hfield
      split_ifs at hfield
      have htype : FieldType.string = field.type :=
        congrArg SearchField.type (Option.some.inj hfield)
      simp [Option.guard, ← htype]

theorem holdsDeclared_of_ofFields {settings : Entries Value}
    (h : ofFields declared settings = .ok catalog) : catalog.HoldsDeclared declared := by
  have hkeyed := isKeyed_ofFields h
  have hbuilt := isBuiltOf_of_ofFields h
  have hordered : AreFirstPlaces (declared.map (·.id) ++ catalog.roles) catalog.ids := by
    rw [areFirstPlaces_iff, hkeyed.ids_eq, hbuilt.names_eq]
  refine
    { distinct := hordered.nodup
      ordered := hordered
      listed := fun field hfield => hkeyed.get?_of_mem hordered.nodup hfield
      id_eq := fun id field hfield => hkeyed.id_of_get? hfield
      found := hbuilt.get?_eq
      rolesResolve := fun id hid => hbuilt.resolve_role hid
      fulltext := ?_
      required := require_acceptsIff hkeyed
      resolved := ?_ }
  · rw [ids, List.filterMap_map, fulltextFields, ← List.filterMap_eq_filter]
    refine (List.filterMap_congr fun field hfield => ?_).symm
    exact hbuilt.lastDeclared?_filter (hkeyed.get?_of_mem hordered.nodup hfield)
  · intro id
    refine (catalog.resolve_acceptsIff id).congr ?_
    rw [Knows, hkeyed.isSome_get?_iff, hkeyed.isSome_get?_iff]

theorem ofDefinitions_eq_ok {definitions : FieldDefinitions} {settings : Entries Value}
    (h : ofDefinitions definitions settings = .ok catalog) :
    ∃ declared, definitions.Declare declared ∧ ofFields declared settings = .ok catalog := by
  rw [ofDefinitions] at h
  split_ifs at h
  · obtain ⟨declared, hdeclared, h⟩ := Outcome.bind_eq_ok.mp h
    exact ⟨declared, fields_eq_ok_iff.mp hdeclared, h⟩
  · cases h

/-- A document that defines a catalog has definitions of fields and settings. -/
theorem ofDefinition_eq_ok {value : Value} (h : ofDefinition value = .ok catalog) :
    ∃ definitions settings, FieldDefinitions.ofValue (value.path ["fields"]) = .ok definitions ∧
      ofDefinitions definitions settings = .ok catalog := by
  cases value with
  | null =>
      exact ⟨.listed [], [], rfl, h⟩
  | object entries =>
      obtain ⟨definitions, hdefinitions, h⟩ := Outcome.bind_eq_ok.mp h
      exact ⟨definitions, _, hdefinitions, h⟩
  | _ => cases h

/-- Every catalog that can be defined has the fields that its definition declares. -/
theorem CatalogDefinition.holdsDeclared {definition : CatalogDefinition}
    (h : definition.catalog = .ok catalog) :
    ∃ definitions declared, definition.fieldDefinitions = .ok definitions ∧
      definitions.Declare declared ∧ catalog.HoldsDeclared declared := by
  cases definition with
  | document value =>
      obtain ⟨definitions, settings, hdefinitions, h⟩ := ofDefinition_eq_ok h
      obtain ⟨declared, hdeclared, h⟩ := ofDefinitions_eq_ok h
      exact ⟨definitions, declared, hdefinitions, hdeclared, holdsDeclared_of_ofFields h⟩
  | parts definitions settings =>
      obtain ⟨declared, hdeclared, h⟩ := ofDefinitions_eq_ok h
      exact ⟨definitions, declared, rfl, hdeclared, holdsDeclared_of_ofFields h⟩

end Building

/-- A definition that declares the title twice, and the field of languages as a whole number. -/
def twoTitles : CatalogDefinition :=
  .document
    (.object
      [("fields", .object
        [("title", .str "text"), ("lang", .str "long"),
          ("name", .object [("id", .str "title"), ("type", .str "keyword")]),
          ("body", .str "text")]),
        ("language_field", .str "lang")])

theorem twoTitles_holdDeclared :
    ∃ catalog, twoTitles.catalog = .ok catalog ∧
      (∃ definitions declared, twoTitles.fieldDefinitions = .ok definitions ∧
        definitions.Declare declared ∧ catalog.HoldsDeclared declared) ∧
      catalog.ids = ["title", "lang", "body", "search_api_datasource"] ∧
      catalog.fulltextFields.map (·.id) = ["body"] :=
  ⟨_, rfl, CatalogDefinition.holdsDeclared rfl, rfl, rfl⟩

end FacetedSearch.FieldCatalog
