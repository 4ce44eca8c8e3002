import FacetedSearch.Catalog.Basic

/-!
Catalogs from their definitions. Fields are listed or given by id with a type or a definition; a
later declaration of an id replaces an earlier one in its place.
-/

namespace FacetedSearch

namespace FieldCatalog

/-- What a field definition may be: the field itself or a value that describes it. -/
inductive FieldDefinition where
  | field (field : SearchField)
  | value (value : Value)
deriving Repr

def decodeField (value : Value) : Outcome SearchField :=
  match SearchField.decode? value with
  | some field => .ok field
  | none => .error .invalidData

/-- A listed field is an object with its id. -/
def convertListed : FieldDefinition → Outcome SearchField
  | .field field => .ok field
  | .value (.object entries) => decodeField (.object entries)
  | .value value => .error (.showing .unsupportedFieldDefinition value)

/-- A field under its id has a definition, which may name another id, or just a type. -/
def convertNamed (id : String) : FieldDefinition → Outcome SearchField
  | .field field => .ok field
  | .value (.object entries) => decodeField (.object (Entries.putAll [("id", .str id)] entries))
  | .value type => decodeField (.object [("id", .str id), ("type", type)])

/-- The field definitions of a catalog, by list or by id. -/
inductive FieldDefinitions where
  | listed (definitions : List FieldDefinition)
  | named (definitions : Entries FieldDefinition)
deriving Repr

def FieldDefinitions.ofValue : Value → Outcome FieldDefinitions
  | .null => .ok (.listed [])
  | .object entries => .ok (.named (Entries.mapValues .value entries))
  | value =>
    match value.visited? with
    | some items => .ok (.listed (items.map .value))
    | none => .error .wrongKind

/-- Definitions in which every entry is read as a field of its own. -/
def FieldDefinitions.ofFieldValues : Value → Outcome FieldDefinitions
  | .null => .ok (.listed [])
  | .object entries => do
    return .named (← entries.mapM fun entry => return (entry.1, .field (← decodeField entry.2)))
  | value =>
    match value.visited? with
    | some items => return .listed (← items.mapM fun item => return .field (← decodeField item))
    | none => .error .wrongKind

def FieldDefinitions.fields : FieldDefinitions → Outcome (List SearchField)
  | .listed definitions => definitions.mapM convertListed
  | .named definitions => definitions.mapM fun entry => convertNamed entry.1 entry.2

/-- The id of a field that has a role, which must be a text. -/
def implicitId : Value → Outcome String
  | .str id => .ok id
  | value => .error (if value.isKey then .invalidData else .wrongKind)

def settingNames : List String :=
  ["language_field", "id_field", "datasource_field", "current_language", "default_language",
    "max_bucket_size"]

/-- A catalog of the given fields with the settings that entries name. -/
def ofFields (fields : List SearchField) (settings : Entries Value) : Outcome FieldCatalog := do
  let setting := fun name default => (settings.find? name).getD default
  let standard : FieldCatalog := {}
  let languageField ← implicitId (setting "language_field" (.str standard.languageField))
  let datasourceField ← implicitId (setting "datasource_field" (.str standard.datasourceField))
  let catalog : FieldCatalog :=
    { entries := Entries.ofList (fields.map fun field => (field.id, field))
      languageField
      datasourceField
      idField := setting "id_field" standard.idField
      currentLanguage := setting "current_language" standard.currentLanguage
      defaultLanguage := setting "default_language" standard.defaultLanguage
      maxBucketSize := setting "max_bucket_size" standard.maxBucketSize }
  return (catalog.withImplicit languageField).withImplicit datasourceField

/-- A catalog of field definitions with the settings that entries name, of which there may be no
others. -/
def ofDefinitions (definitions : FieldDefinitions) (settings : Entries Value) :
    Outcome FieldCatalog := do
  unless settings.names.all settingNames.contains do throw .wrongKind
  ofFields (← definitions.fields) settings

/-- A catalog from the entries of its definition. -/
def ofEntries (entries : Entries Value) : Outcome FieldCatalog := do
  ofDefinitions (← FieldDefinitions.ofValue (Value.member entries "fields"))
    (entries.erase "fields")

/-- A catalog from its definition; null defines the catalog without declared fields. -/
def ofDefinition : Value → Outcome FieldCatalog
  | .null => ofEntries []
  | .object entries => ofEntries entries
  | _ => .error .malformedCatalog

end FieldCatalog

end FacetedSearch
