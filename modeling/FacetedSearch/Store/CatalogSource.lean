import FacetedSearch.Catalog.Definition
import FacetedSearch.Store.Manifest

/-!
Where a provider takes field catalogs from: a catalog, its definition, a file that holds the
definition, or a table of these by collection.
-/

namespace FacetedSearch

/-- The files that definitions are read from, by path. -/
abbrev DefinitionFiles := Entries Value

inductive CatalogForm where
  | catalog (catalog : FieldCatalog)
  | value (value : Value)
deriving DecidableEq, Repr

/-- An object is a table of its entries, whether it is a definition or goes by collection. -/
inductive CatalogSource where
  | single (form : CatalogForm)
  | table (entries : Entries CatalogForm)
deriving DecidableEq, Repr

namespace CatalogSource

def ofValue : Value → CatalogSource
  | .object entries => .table (Entries.mapValues .value entries)
  | value => .single (.value value)

/-- The source for a collection: the entry of its name where that is an object, else the whole. -/
def forCollection (source : CatalogSource) (collection : Value) : Outcome CatalogSource :=
  match source with
  | .single form => .ok (.single form)
  | .table entries =>
    match collection with
    | .str name =>
      match Entries.find? entries name with
      | some (.value (.object definition)) => .ok (ofValue (.object definition))
      | _ => .ok (.table entries)
    | collection => if collection.isKey then .ok (.table entries) else .error .wrongKind

def value? : CatalogForm → Option Value
  | .value v => some v
  | .catalog _ => none

/-- A table as one definition, in which there can be no catalogs. -/
def definition? (entries : Entries CatalogForm) : Option (Entries Value) :=
  entries.mapM fun entry => (value? entry.2).map fun value => (entry.1, value)

def fromFile (files : DefinitionFiles) (path : String) : Outcome FieldCatalog :=
  match files.find? path with
  | some content => FieldCatalog.ofDefinition (DefinitionFile.content content)
  | none => .error .missingFile

/-- The catalog of a source. -/
def load (files : DefinitionFiles) : CatalogSource → Outcome FieldCatalog
  | .single (.catalog c) => .ok c
  | .single (.value .null) => FieldCatalog.ofDefinition .null
  | .single (.value (.str path)) => fromFile files path
  | .single (.value _) => .error .malformedCatalog
  | .table entries =>
    match definition? entries with
    | some entries => FieldCatalog.ofEntries entries
    | none => .error .wrongKind

end CatalogSource

end FacetedSearch
