import FacetedSearch.Store.Component

/-!
Building stores: providers by the name of their type, and components as a manifest declares them.
-/

namespace FacetedSearch

/-- What a store is to be bound to. -/
inductive ProviderSource where
  | none
  | provider (provider : Provider)
  /-- A type with its parameters, if these are an object. -/
  | named (type : Value) (parameters : Option (Entries ProviderParameter))
  /-- A description that names no type. -/
  | untyped

namespace PlainProvider

/-- A plain provider keeps its parameters as attributes. -/
def ofParameters (features : Option (List String)) (parameters : Entries ProviderParameter) :
    Outcome PlainProvider :=
  if parameters.contains receiverName then .error .wrongKind
  else .ok { attributes := parameters.mapValues SearchProvider.valueOf, features }

end PlainProvider

namespace Environment

/-- The path of the module that holds a module. -/
def parentPath (path : String) : String :=
  String.ofList (((path.toList.reverse.dropWhile (· != '.')).drop 1).reverse)

/-- The module in which a store looks for a type of provider. -/
def providerPath (home : String) (type : Value) : String :=
  parentPath home ++ ".providers." ++ type.display

/-- What an instance that is no provider is in one line. Only models take parameters. -/
def instanceLine (entry : RegisteredClass) (parameters : Entries Value) : Outcome String :=
  if entry.role = .model && Model.isModelName entry.name then
    (Model.decode entry.name (.object parameters)).map Model.text
  else if entry.role != .model && !parameters.isEmpty then .error .wrongKind
  else entry.newBare.map fun _ => ""

/-- The provider of a class. An instance that is no provider counts as the name of a type, and no
type has such a name. -/
def newProvider (environment : Environment) (home : String) (entry : RegisteredClass)
    (parameters : Entries ProviderParameter) : Outcome Provider := do
  match entry.role with
  | .searchProvider => return .search (← SearchProvider.ofParameters environment parameters)
  | .provider =>
    let features := if entry.ancestors.isEmpty then none else some storeOperations
    return .plain (← PlainProvider.ofParameters features parameters)
  | _ =>
    let name ← instanceLine entry (parameters.mapValues SearchProvider.valueOf)
    throw (.unknownModule (Registry.splitPath (providerPath home (.str name))).1)

/-- The provider of a type for stores whose class is defined in the given module. -/
def loadProvider (environment : Environment) (home : String) (type : Value)
    (parameters : Option (Entries ProviderParameter)) : Outcome Provider := do
  let entry ← environment.registry.loadClass (providerPath home type) "Provider"
  match parameters with
  | some parameters => environment.newProvider home entry parameters
  | none => throw .wrongKind

/-- The provider of a source. -/
def bindProvider (environment : Environment) (home : String) :
    ProviderSource → Outcome (Option Provider)
  | .none => .ok none
  | .provider p => .ok (some p)
  | .named type parameters => return some (← environment.loadProvider home type parameters)
  | .untyped => .error .noSuchKey

end Environment

/-- A component as loaded from a manifest. -/
structure LoadedComponent where
  entry : RegisteredClass
  store : SearchStore

namespace Environment

/-- The parameters that a component is always given; a manifest may not give them again. -/
def reservedParameters : List String := [receiverName, "__handle__", "__provider__"]

/-- The provider of a component: the first one that it declares. -/
def firstProvider (config : ComponentConfig) : ProviderSource :=
  match config.providers with
  | [] => .none
  | (_, provider) :: _ =>
    .named (.str provider.type) (some (provider.parameters.mapValues .value))

/-- A component of a class. -/
def newComponent (environment : Environment) (entry : RegisteredClass) (handle : Value)
    (parameters : Entries Value) (provider : ProviderSource) : Outcome LoadedComponent := do
  if reservedParameters.any parameters.contains then throw .wrongKind
  if entry.role = .model then
    let _ ← instanceLine entry parameters
    throw .noSuchMember
  let isStore := entry.role == .searchStore || entry.role == .component
  if !isStore then throw .wrongKind
  let provider ← environment.bindProvider entry.home provider
  return {
    entry
    store :=
      { collection :=
          if entry.ancestors.isEmpty then .null else Value.member parameters "collection"
        native := (Value.member parameters "__native__").isTruthy
        unpack := (Value.member parameters "__unpack__").isTruthy
        handle
        provider } }

/-- The class path of a component; a path without a class means the module of components there. -/
def componentPath (type : String) : String :=
  if type.toList.contains ':' then type else type ++ ".component"

/-- Loads a component that a manifest declares. -/
def loadComponent (environment : Environment) (manifest : Manifest) (handle : String) :
    Outcome LoadedComponent := do
  match manifest.components.find? handle with
  | none => throw (.unknownComponent handle)
  | some config =>
    let entry ← environment.registry.loadClass (componentPath config.type) "Component"
    environment.newComponent entry (.str handle) config.parameters (firstProvider config)

end Environment

namespace SearchStore

/-- A search store with the given settings. -/
def new (environment : Environment) (home : String) (settings : SearchStore)
    (provider : ProviderSource) : Outcome SearchStore :=
  return { settings with provider := ← environment.bindProvider home provider }

end SearchStore

/-- Reads a manifest from the content of its file. -/
def Manifest.parse (content : Value) : Outcome Manifest :=
  match Manifest.decode? (DefinitionFile.content content) with
  | some manifest => .ok manifest
  | none => .error .invalidData

end FacetedSearch
