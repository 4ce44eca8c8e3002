import FacetedSearch.Catalog.Field
import FacetedSearch.Fault
import FacetedSearch.FieldPath

/-!
The field catalog of a collection: which fields there are, and the fields and languages that have a
role. A field id that is not declared resolves to the root of its path.
-/

namespace FacetedSearch

structure FieldCatalog where
  /-- The declared fields by their ids. -/
  entries : Entries SearchField := []
  languageField : String := "search_api_language"
  datasourceField : String := "search_api_datasource"
  idField : Value := .str "id"
  currentLanguage : Value := .str "en"
  defaultLanguage : Value := .str "und"
  /-- The bucket limit of facets that have none. -/
  maxBucketSize : Value := .int 10000
deriving DecidableEq, Repr

namespace FieldCatalog

def fields (catalog : FieldCatalog) : List SearchField := catalog.entries.values

def get? (catalog : FieldCatalog) (id : String) : Option SearchField := catalog.entries.find? id

def require (catalog : FieldCatalog) (id : String) : Outcome SearchField :=
  match catalog.get? id with
  | some field => .ok field
  | none => .error (.unresolvedField id)

/-- The field of an id or, for a path, of its root. -/
def resolve (catalog : FieldCatalog) (id : String) : Outcome SearchField :=
  match catalog.get? id with
  | some field => .ok field
  | none =>
    match catalog.get? (FieldPath.root id) with
    | some field => .ok field
    | none => .error (.unresolvedField id)

def typeOf? (catalog : FieldCatalog) (id : String) : Option FieldType :=
  (catalog.get? id).map (·.type)

def isFullText (catalog : FieldCatalog) (id : String) : Bool := catalog.typeOf? id == some .text

def fulltextFields (catalog : FieldCatalog) : List SearchField :=
  catalog.fields.filter (·.type == .text)

def isNestedField (catalog : FieldCatalog) (id : String) : Bool :=
  catalog.typeOf? (FieldPath.root id) == some .nestedObject

/-- Whether values have the shape of a field with several values: more than one, or one that is
itself a container. -/
def looksPlural : Value → Bool
  | .null => false
  | value =>
    match value.sequence?.getD [value] with
    | [] => false
    | [.list _] | [.tuple _] | [.object _] => true
    | [_] => false
    | _ => true

/-- Whether a field holds several values, by its declared cardinality or else by given values. -/
def isListField (catalog : FieldCatalog) (id : String) (values : Value := .null) : Bool :=
  match (catalog.get? id).bind (·.cardinality) with
  | some cardinality => cardinality != 1 || looksPlural values
  | none => looksPlural values

/-- Declares a field that has a role, unless it is declared already. -/
def withImplicit (catalog : FieldCatalog) (id : String) : FieldCatalog :=
  if catalog.entries.contains id then catalog
  else { catalog with entries := catalog.entries.put id { id } }

end FieldCatalog

end FacetedSearch
