import FacetedSearch.Lowering.Query
import FacetedSearch.Result.Response
import FacetedSearch.Store.CatalogSource
import FacetedSearch.Store.Conversion
import FacetedSearch.Store.PerCollection
import FacetedSearch.Store.Registry

/-!
The provider that compiles queries for a search backend and sends them to it. It keeps the setting
of each collection that it has met, and it opens a client, one for each kind of call, when it first
sends a request. A step gives its outcome with the state after it and the events at the clients.
-/

namespace FacetedSearch

/-- What providers are built from: the known classes and the definition files. -/
structure Environment where
  registry : Registry := {}
  files : DefinitionFiles := []
deriving Repr

/-- A parameter of a provider: a value, or something already built. -/
inductive ProviderParameter where
  | value (value : Value)
  | hooks (hooks : SearchHooks)
  | catalog (catalog : FieldCatalog)
deriving Repr

/-- A search provider as configured. -/
structure SearchProvider where
  /-- The parameters for its clients. -/
  connection : Entries Value := []
  /-- Further parameters for its clients, which override the others. -/
  native : Value := .object []
  index : Value := .null
  catalog : CatalogSource := .single (.value .null)
  fuzziness : Value := .str "auto"
  suggestionField : Value := .null
  hooks : SearchHooks := {}
  files : DefinitionFiles := []
deriving DecidableEq, Repr

namespace SearchProvider

def connectionNames : List String :=
  ["hosts", "cloud_id", "api_key", "basic_auth", "bearer_auth", "opaque_id", "headers",
    "verify_certs", "ca_certs", "client_cert", "client_key", "ssl_assert_hostname",
    "ssl_assert_fingerprint"]

/-- The hooks that a parameter means: none, hooks as such, or an instance of a class. An instance
of any other class than that of hooks has no changes to offer. -/
def hooksOf (environment : Environment) : ProviderParameter → Outcome SearchHooks
  | .value .null => .ok {}
  | .value (.str path) => do
    let entry ← environment.registry.loadClass path "SearchHooks"
    entry.newBare
    return if entry.role = .hooks then {} else { query := .unavailable }
  | .hooks h => .ok h
  | _ => .error .malformedHooks

def catalogOf : ProviderParameter → CatalogSource
  | .value v => CatalogSource.ofValue v
  | .catalog c => .single (.catalog c)
  | .hooks _ => .single (.value (.bool true))

def valueOf : ProviderParameter → Value
  | .value v => v
  | _ => .null

/-- A provider with the given parameters; parameters that it does not know are of no effect. -/
def ofParameters (environment : Environment) (parameters : Entries ProviderParameter) :
    Outcome SearchProvider := do
  if parameters.contains receiverName then throw .wrongKind
  let parameter := fun name (default : Value) => (parameters.find? name).getD (.value default)
  let hooks ← hooksOf environment (parameter "hooks" .null)
  return {
    connection := connectionNames.map fun name => (name, valueOf (parameter name .null))
    native := valueOf (parameter "nparams" (.object []))
    index := valueOf (parameter "index" .null)
    catalog := catalogOf (parameter "catalog" .null)
    fuzziness := valueOf (parameter "fuzziness" (.str "auto"))
    suggestionField := valueOf (parameter "suggestion_field" .null)
    hooks
    files := environment.files }

/-- Credentials that are listed are handed over as tuples. -/
def credential (name : String) (value : Value) : Value :=
  match value with
  | .list items => if name = "api_key" || name = "basic_auth" then .tuple items else .list items
  | value => value

/-- The parameters of a client by their keys. -/
def clientPairs (provider : SearchProvider) : Outcome (List (Value × Value)) := do
  let given := provider.connection.filter (·.2 != .null)
  let own := given.map fun entry => (Value.str entry.1, credential entry.1 entry.2)
  let native ← if provider.native = .null then pure [] else provider.native.pairs
  let parameters := native.foldl Operation.insertPair own
  if parameters.any fun pair => pair.1 == .str "hosts" || pair.1 == .str "cloud_id" then
    return parameters
  throw .missingHosts

/-- The parameters of a client, which needs hosts or a cloud. -/
def clientParameters (provider : SearchProvider) : Outcome (Entries Value) := do
  match Value.namedPairs? (← provider.clientPairs) with
  | some parameters => return parameters
  | none => throw .wrongKind

end SearchProvider

/-- The client of blocking calls, and that of calls that are awaited. -/
inductive ClientKind where
  | sync
  | async
deriving DecidableEq, Repr

inductive ClientEvent where
  | created (kind : ClientKind) (parameters : Entries Value)
  | searched (kind : ClientKind) (arguments : Entries Value)
  | closed (kind : ClientKind)
deriving DecidableEq, Repr

/-- How a client answers a request. -/
inductive ClientReply where
  | response (body : Value)
  | transportFailure
  | fault (fault : Fault)
deriving DecidableEq, Repr

structure ProviderState where
  syncOpen : Bool := false
  asyncOpen : Bool := false
  /-- The settings of the collections met so far, in that order. -/
  settings : List Lowering.Setting := []
deriving DecidableEq, Repr

namespace ProviderState

def isOpen (state : ProviderState) : ClientKind → Bool
  | .sync => state.syncOpen
  | .async => state.asyncOpen

def setOpen (state : ProviderState) (kind : ClientKind) (flag : Bool) : ProviderState :=
  match kind with
  | .sync => { state with syncOpen := flag }
  | .async => { state with asyncOpen := flag }

def setting? (state : ProviderState) (collection : Value) : Option Lowering.Setting :=
  state.settings.find? fun setting => setting.collection.sameKey collection

end ProviderState

/-- What a store's call yields. -/
inductive StoreResult where
  | request (request : SearchRequest)
  | results (results : ResultSet)
  | nothing
deriving DecidableEq, Repr

def StoreResult.encode : StoreResult → Value
  | .request r => r.encode
  | .results r => r.encode
  | .nothing => .null

/-- The request and the response of the backend behind a result. -/
structure NativeExchange where
  request : Entries Value
  result : Value
deriving DecidableEq, Repr

def NativeExchange.encode (exchange : NativeExchange) : Value :=
  .object [("request", .object exchange.request), ("result", exchange.result)]

structure StoreResponse where
  result : StoreResult
  native : Option NativeExchange := none
deriving DecidableEq, Repr

/-- A step of a provider. -/
structure Step (α : Type) where
  outcome : Outcome α
  state : ProviderState
  events : List ClientEvent := []
  /-- The caller's query as it is after the step, where the step changed it. -/
  changed : Option SearchQuery := none

/-- What is given as a query; an argument that is none has no members. -/
abbrev GivenQuery := Option SearchQuery

/-- The query that an argument is or describes. -/
def givenQuery : Argument → Outcome GivenQuery
  | .model (.searchQuery query) => .ok (some query)
  | .value (.object entries) =>
    match SearchQuery.decode? (.object entries) with
    | some query => .ok (some query)
    | none => .error .invalidData
  | _ => .ok none

namespace SearchProvider

/-- The query after the hooks. Only a replacement makes a query of something that is none. -/
def alterGiven (hooks : SearchHooks) (given : GivenQuery) : Outcome GivenQuery :=
  match given, hooks.query with
  | some query, _ => return some (← hooks.alterQuery query)
  | none, .keep => .ok none
  | none, .replace other => return some (← SearchHooks.replacement other)
  | none, .addCondition _ | none, .unavailable => .error .noSuchMember

/-- The collection of a call: named in the call, in the query, by the provider, or by its
component. -/
def collectionName (provider : SearchProvider) (componentCollection collection : Value)
    (query : GivenQuery) : Outcome Value := do
  let named ←
    if collection.isTruthy then pure collection
    else
      match query with
      | some query => pure (Value.nullable .str query.collection)
      | none => throw .noSuchMember
  let name := (named.orElse provider.index).orElse componentCollection
  if name.isTruthy then return name else throw .missingCollection

/-- The setting of a collection as the provider's parameters give it. -/
def buildSetting (provider : SearchProvider) (collection : Value) : Outcome Lowering.Setting := do
  let catalog ← (← provider.catalog.forCollection collection).load provider.files
  let suggestionField ← collectionParameter provider.suggestionField collection
  return {
    collection, catalog, fuzziness := provider.fuzziness, suggestionField,
    hooks := provider.hooks }

/-- The setting of a collection, built once and then kept. -/
def settingOf (provider : SearchProvider) (state : ProviderState) (collection : Value) :
    Outcome (Lowering.Setting × ProviderState) := do
  if !collection.isKey then throw .wrongKind
  match state.setting? collection with
  | some setting => return (setting, state)
  | none =>
    let setting ← provider.buildSetting collection
    return (setting, { state with settings := state.settings ++ [setting] })

/-- A query as compiled, with the setting of its collection. -/
structure Prepared where
  query : SearchQuery
  setting : Lowering.Setting
  request : SearchRequest

/-- Compiles what is given as a query. -/
def compileGiven (setting : Lowering.Setting) (drawn : Value) (given : GivenQuery) :
    Outcome Prepared :=
  match given with
  | some query => return { query, setting, request := ← Lowering.compile setting drawn query }
  | none => .error .noSuchMember

/-- A call with a query: the query itself, the collection, and what else was given by name. -/
structure QueryCall where
  query : Argument
  collection : Value := .null
  named : Entries Argument := []

/-- What a component tells its provider about itself, and the seed drawn if one is needed. -/
structure CallContext where
  collection : Value := .null
  drawn : Value := .null

/-- Compiles the query of a call. -/
def prepare (provider : SearchProvider) (context : CallContext) (call : QueryCall)
    (state : ProviderState) : Step Prepared :=
  match givenQuery call.query with
  | .error fault => { outcome := .error fault, state }
  | .ok given =>
    match alterGiven provider.hooks given with
    | .error fault => { outcome := .error fault, state }
    | .ok query =>
      let changed := if provider.hooks.changesInPlace then query else none
      let found := do
        let name ← provider.collectionName context.collection call.collection query
        provider.settingOf state name
      match found with
      | .error fault => { outcome := .error fault, state, changed }
      | .ok (setting, state) =>
        { outcome := compileGiven setting context.drawn query, state, changed }

/-- Compiles a query without sending it. -/
def compile (provider : SearchProvider) (context : CallContext) (call : QueryCall)
    (state : ProviderState) : Step StoreResponse :=
  let step := provider.prepare context call state
  { step with outcome := step.outcome.map fun prepared => { result := .request prepared.request } }

/-- The arguments of a request, overlaid with those that the call gives for the backend. -/
def requestPairs (request : SearchRequest) (named : Entries Argument) :
    Outcome (List (Value × Value)) := do
  let own := request.toArgs.map fun entry => (Value.str entry.1, entry.2)
  match (named.find? "nargs").getD (.value (.object [])) with
  | .value native => return (← native.pairs).foldl Operation.insertPair own
  | _ => throw .wrongKind

/-- Opens the client of a kind unless it is open. -/
def openClient (provider : SearchProvider) (kind : ClientKind) (state : ProviderState) :
    Step Unit :=
  if state.isOpen kind then { outcome := .ok (), state }
  else
    match provider.clientParameters with
    | .error fault => { outcome := .error fault, state }
    | .ok parameters =>
      { outcome := .ok (), state := state.setOpen kind true, events := [.created kind parameters] }

/-- The named arguments of a search; the index is not among them. -/
def searchArguments (pairs : List (Value × Value)) : Outcome (Entries Value) :=
  match Value.namedPairs? pairs with
  | none => .error .wrongKind
  | some arguments =>
    if Entries.contains arguments "index" then .error .wrongKind else .ok arguments

/-- The response of a call from the reply of the client. -/
def respond (prepared : Prepared) (arguments : Entries Value) :
    ClientReply → Outcome StoreResponse
  | .response body => do
    let results ← ResultSet.ofResponse prepared.setting.catalog prepared.query body
    return {
      result := .results (prepared.setting.hooks.alterResults results)
      native := some { request := arguments, result := body } }
  | .transportFailure => .error .requestFailed
  | .fault f => .error f

/-- Sends the request of a compiled query through a client that is open. -/
def send (kind : ClientKind) (reply : ClientReply) (prepared : Prepared)
    (pairs : List (Value × Value)) (state : ProviderState) : Step StoreResponse :=
  match searchArguments pairs with
  | .error fault => { outcome := .error fault, state }
  | .ok arguments =>
    { outcome := respond prepared arguments reply
      state
      events := [.searched kind (("index", prepared.setting.collection) :: arguments)] }

/-- Compiles a query, sends it and reads the response. -/
def query (provider : SearchProvider) (context : CallContext) (kind : ClientKind)
    (call : QueryCall) (reply : ClientReply) (state : ProviderState) : Step StoreResponse :=
  let prepared := provider.prepare context call state
  let checked := do
    let compiled ← prepared.outcome
    return (compiled, ← requestPairs compiled.request call.named)
  match checked with
  | .error fault => { prepared with outcome := .error fault }
  | .ok (compiled, pairs) =>
    let opened := provider.openClient kind prepared.state
    match opened.outcome with
    | .error fault => { prepared with outcome := .error fault }
    | .ok () =>
      let sent := send kind reply compiled pairs opened.state
      { sent with events := opened.events ++ sent.events, changed := prepared.changed }

/-- Closes the client of a kind if it is open. -/
def close (kind : ClientKind) (state : ProviderState) : Step StoreResponse :=
  let outcome := Except.ok { result := .nothing }
  if state.isOpen kind then
    { outcome, state := state.setOpen kind false, events := [.closed kind] }
  else { outcome, state }

end SearchProvider

end FacetedSearch
