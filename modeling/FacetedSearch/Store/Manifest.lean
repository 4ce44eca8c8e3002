import FacetedSearch.Decode
import FacetedSearch.Number.Format

/-!
Manifests, which declare components by handle with their parameters and providers, and the files in
which manifests and catalogs are kept.
-/

namespace FacetedSearch

structure ManifestMetadata where
  name : Option String := none
  description : Option String := none
  version : Option String := none
deriving DecidableEq, Repr

namespace ManifestMetadata

def decode? (value : Value) : Option ManifestMetadata := do
  let entries ← value.entries?
  let name ← Decode.defaulted entries "name" none (Decode.optional Decode.text)
  let description ← Decode.defaulted entries "description" none (Decode.optional Decode.text)
  let version ← Decode.defaulted entries "version" none (Decode.optional Decode.text)
  some { name, description, version }

def encode (metadata : ManifestMetadata) : Value :=
  .object
    [("name", Value.nullable .str metadata.name),
      ("description", Value.nullable .str metadata.description),
      ("version", Value.nullable .str metadata.version)]

end ManifestMetadata

structure ProviderConfig where
  type : String
  parameters : Entries Value := []
deriving DecidableEq, Repr

namespace ProviderConfig

def decode? (value : Value) : Option ProviderConfig := do
  let entries ← value.entries?
  let type ← Decode.required entries "type" Decode.text
  let parameters ← Decode.defaulted entries "parameters" [] Decode.object
  some { type, parameters }

def encode (config : ProviderConfig) : Value :=
  .object [("type", .str config.type), ("parameters", .object config.parameters)]

end ProviderConfig

structure ComponentConfig where
  type : String
  parameters : Entries Value := []
  providers : Entries ProviderConfig := []
deriving DecidableEq, Repr

namespace ComponentConfig

def decode? (value : Value) : Option ComponentConfig := do
  let entries ← value.entries?
  let type ← Decode.required entries "type" Decode.text
  let parameters ← Decode.defaulted entries "parameters" [] Decode.object
  let providers ←
    Decode.defaulted entries "providers" [] (Decode.dictionary ProviderConfig.decode?)
  some { type, parameters, providers }

def encode (config : ComponentConfig) : Value :=
  .object
    [("type", .str config.type), ("parameters", .object config.parameters),
      ("providers", .object (config.providers.mapValues ProviderConfig.encode))]

end ComponentConfig

structure Manifest where
  metadata : ManifestMetadata := {}
  components : Entries ComponentConfig := []
deriving DecidableEq, Repr

namespace Manifest

def decode? (value : Value) : Option Manifest := do
  let entries ← value.entries?
  let metadata ← Decode.defaulted entries "metadata" {} ManifestMetadata.decode?
  let components ←
    Decode.defaulted entries "components" [] (Decode.dictionary ComponentConfig.decode?)
  some { metadata, components }

def encode (manifest : Manifest) : Value :=
  .object
    [("metadata", manifest.metadata.encode),
      ("components", .object (manifest.components.mapValues ComponentConfig.encode))]

end Manifest

namespace DefinitionFile

/-- In a file a number without a point, though it is no integer, is a text. -/
def number (x : Binary64) : Value :=
  let text := NumberFormat.display.json.write x
  if text.toList.contains '.' then .float x else .str text

mutual

/-- A value as a file gives it back. -/
def stored : Value → Value
  | .float x => number x
  | .list items => .list (storedItems items)
  | .tuple items => .list (storedItems items)
  | .object entries => .object (storedEntries entries)
  | value => value

def storedItems : List Value → List Value
  | [] => []
  | value :: rest => stored value :: storedItems rest

def storedEntries : List (String × Value) → List (String × Value)
  | [] => []
  | (name, value) :: rest => (name, stored value) :: storedEntries rest

end

/-- What a file holds; a file without content holds an empty object. -/
def content (value : Value) : Value := (stored value).orElse (.object [])

end DefinitionFile

end FacetedSearch
