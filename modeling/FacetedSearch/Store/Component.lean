import FacetedSearch.Store.Provider

/-!
Search stores: components that pass the calls of their methods on to the provider they are bound to,
as operations by name. An operation that the provider lacks counts as not implemented by a method.
-/

namespace FacetedSearch

/-- A provider that has no operations of its own, only attributes. -/
structure PlainProvider where
  attributes : Entries Value := []
  /-- The features it has; all of them when there is no list. -/
  features : Option (List String) := none
deriving DecidableEq, Repr

inductive Provider where
  | plain (provider : PlainProvider)
  | search (provider : SearchProvider)
deriving DecidableEq, Repr

/-- The operations that every provider of a store declares. -/
def storeOperations : List String := ["compile", "query", "close"]

/-- What an operation yields: a response of the store or any other value. -/
inductive OperationResult where
  | response (response : StoreResponse)
  | value (value : Value)
deriving DecidableEq, Repr

/-- An operation as it reaches a provider, with arguments that need not be plain values. -/
structure OperationCall where
  name : Option String
  args : Option (Entries Argument)

namespace OperationCall

def ofOperation (operation : Operation) : OperationCall where
  name := operation.name
  args := operation.args.map (Entries.mapValues .value)

/-- The operation as plain data. -/
def plain (call : OperationCall) : Operation where
  name := call.name
  args := call.args.map (Entries.mapValues Argument.document)

/-- The fault of a provider that lacks the operation. -/
def unsupported (call : OperationCall) : Fault :=
  .unsupportedOperation (some (JsonStyle.compact.write call.plain.encode))

end OperationCall

/-- What comes with a call from outside: the seed drawn if one is needed, and the reply of the
client if a request is sent. -/
structure Surroundings where
  drawn : Value := .null
  reply : ClientReply := .response (.object [])

def Step.map {α β : Type} (f : α → β) (step : Step α) : Step β :=
  { step with outcome := step.outcome.map f }

/-- A step that changes nothing. -/
def Step.still {α : Type} (state : ProviderState) (outcome : Outcome α) : Step α :=
  { outcome, state }

/-- The operations of a store, by the kind of client that they use. -/
inductive StoreMethod where
  | compile
  | query (kind : ClientKind)
  | close (kind : ClientKind)
deriving DecidableEq, Repr

namespace StoreMethod

/-- The method of an operation. Awaited calls use their own client, but compiling needs none. -/
def ofName? (kind : ClientKind) (name : String) : Option StoreMethod :=
  if name = "compile" then some .compile
  else if name = "query" then some (.query kind)
  else if name = "close" then some (.close kind)
  else none

/-- The operation that a method passes on. -/
def operationName : StoreMethod → String
  | .compile => "compile"
  | .query _ => "query"
  | .close _ => "close"

/-- The way a method is run. -/
def kind : StoreMethod → ClientKind
  | .compile => .sync
  | .query kind => kind
  | .close kind => kind

def signature (method : StoreMethod) : Signature Argument :=
  match method with
  | .close _ => Operation.closeSignature
  | _ => Operation.querySignature (.value .null)

end StoreMethod

/-- What a feature test of a provider takes. -/
def featureSignature : Signature Argument where
  parameters := [{ name := "feature" }]

def setupSignature : Signature Argument where
  parameters := [{ name := "context", default := some (.value .null) }]

namespace PlainProvider

def supports (provider : PlainProvider) (feature : Value) : Bool :=
  match provider.features with
  | none => true
  | some features => features.any fun name => feature == .str name

end PlainProvider

namespace Provider

def supports (provider : Provider) (feature : Value) : Bool :=
  match provider with
  | .plain p => p.supports feature
  | .search _ => storeOperations.any fun name => feature == .str name

/-- Whether a name is an attribute that hides a method of the same name. -/
def hides (provider : Provider) (name : String) : Bool :=
  match provider with
  | .plain p => p.attributes.contains name
  | .search _ => false

/-- The methods that all providers have: the test for a feature, and setting up. -/
def commonCall? (provider : Provider) (name : String) (args : Entries Argument) :
    Option (Outcome Value) :=
  if provider.hides name then none
  else if name = "__supports__" then
    some do
      let arguments ← featureSignature.bind [] args
      let feature := (arguments.values.find? "feature").map Argument.document
      return .bool (provider.supports (feature.getD .null))
  else if name = "__setup__" then
    some do
      let _ ← setupSignature.bind [] args
      return .null
  else none

end Provider

namespace SearchProvider

/-- The type that the query of a call is converted to. -/
def queryType : DeclaredType := .union [.model "SearchQuery", .plain]

/-- Converts the arguments of a call with a query. -/
def convertArguments (args : Entries Argument) : Outcome (Entries Argument) :=
  match args.find? "query" with
  | none => .ok args
  | some query => return args.put "query" (← queryType.convert query)

/-- Binds the arguments of a provider's own method; the provider itself is none of them. -/
def bindMethod (signature : Signature Argument) (args : Entries Argument) :
    Outcome (Arguments Argument) :=
  if args.contains receiverName then .error .wrongKind else signature.bind [] args

/-- The call that arguments make. -/
def bindQuery (args : Entries Argument) : Outcome QueryCall := do
  let arguments ← bindMethod (Operation.querySignature (.value .null)) args
  return {
    query := (arguments.values.find? "query").getD (.value .null)
    collection := ((arguments.values.find? "collection").getD (.value .null)).document
    named := arguments.named }

/-- Calls a method with arguments as they are. -/
def invoke (provider : SearchProvider) (method : StoreMethod) (context : CallContext)
    (reply : ClientReply) (args : Entries Argument) (state : ProviderState) :
    Step StoreResponse :=
  match method with
  | .compile =>
    match bindQuery args with
    | .error fault => .still state (.error fault)
    | .ok call => provider.compile context call state
  | .query kind =>
    match bindQuery args with
    | .error fault => .still state (.error fault)
    | .ok call => provider.query context kind call reply state
  | .close kind =>
    match bindMethod Operation.closeSignature args with
    | .error fault => .still state (.error fault)
    | .ok _ => close kind state

/-- Calls a method with its arguments converted to their types. -/
def invokeConverted (provider : SearchProvider) (method : StoreMethod) (context : CallContext)
    (reply : ClientReply) (args : Entries Argument) (state : ProviderState) :
    Step StoreResponse :=
  let converted :=
    match method with
    | .close _ => Except.ok args
    | _ => convertArguments args
  match converted with
  | .error fault => .still state (.error fault)
  | .ok args => provider.invoke method context reply args state

/-- The clients that are asked for under a name. A call that is awaited asks for its own first. -/
def clientsNamed (kind : ClientKind) (name : String) : List ClientKind :=
  match kind, name with
  | .sync, "client" => [.sync]
  | .async, "client" => [.async, .sync]
  | _, "aclient" => [.async]
  | _, _ => []

/-- Opens clients in turn. -/
def openClients (provider : SearchProvider) : List ClientKind → ProviderState → Step Unit
  | [], state => .still state (.ok ())
  | kind :: kinds, state =>
    let opened := provider.openClient kind state
    match opened.outcome with
    | .error _ => opened
    | .ok () =>
      let others := provider.openClients kinds opened.state
      { others with events := opened.events ++ others.events }

/-- What naming a collection takes. -/
def namingSignature : Signature Argument where
  parameters :=
    [{ name := "collection_name" }, { name := "default", default := some (.value .null) }]

/-- The query that an argument gives after the hooks; an argument that is none stays. -/
def alteredArgument (provider : SearchProvider) (args : Entries Argument) : Outcome Value := do
  let arguments ← bindMethod { parameters := [{ name := "query" }] } (← convertArguments args)
  let argument := (arguments.values.find? "query").getD (.value .null)
  match ← alterGiven provider.hooks (← givenQuery argument) with
  | some query => return query.encode
  | none => return argument.document

/-- What a provider tells on request: what its clients are made from, the name of a collection, and
a query after the hooks. -/
def ownCall? (provider : SearchProvider) (context : CallContext) (name : String)
    (args : Entries Argument) : Option (Outcome Value) :=
  match name with
  | "_get_client_params" =>
    some do
      let _ ← bindMethod { parameters := [] } args
      return .object ((← provider.clientPairs).map fun pair => (pair.1.display, pair.2))
  | "_get_collection_name" =>
    some do
      let arguments ← bindMethod namingSignature args
      let get := fun name => ((arguments.values.find? name).getD (.value .null)).document
      let found := ((get "collection_name").orElse (get "default")).orElse context.collection
      if found.isTruthy then return found else throw .missingCollection
  | "_get_query" => some (provider.alteredArgument args)
  | _ => none

end SearchProvider

namespace Provider

/-- Runs an operation. -/
def run (provider : Provider) (kind : ClientKind) (context : SearchProvider.CallContext)
    (reply : ClientReply) (call : OperationCall) (state : ProviderState) : Step OperationResult :=
  let name := call.name.getD ""
  let args := call.args.getD []
  let answer := fun (own : Option (Outcome Value)) =>
    match (provider.commonCall? name args).or own with
    | some outcome => outcome.map OperationResult.value
    | none => .error call.unsupported
  match provider with
  | .plain _ => .still state (answer none)
  | .search p =>
    match StoreMethod.ofName? kind name with
    | some method => (p.invokeConverted method context reply args state).map .response
    | none =>
      let opened := p.openClients (SearchProvider.clientsNamed kind name) state
      { opened with
        outcome := opened.outcome.bind fun _ => answer (p.ownCall? context name args) }

end Provider

/-- A search store with the settings of its answers and the provider it is bound to. -/
structure SearchStore where
  collection : Value := .null
  /-- Whether answers keep the request and the response of the backend. -/
  native : Bool := false
  /-- Whether answers are results alone. -/
  unpack : Bool := false
  handle : Value := .null
  provider : Option Provider := none
deriving DecidableEq, Repr

/-- What a call of a store answers. -/
inductive StoreAnswer where
  | response (response : StoreResponse)
  | value (value : Value)
deriving DecidableEq, Repr

namespace SearchStore

/-- The answer of a store to a result of its provider. -/
def finalize (store : SearchStore) : OperationResult → StoreAnswer
  | .response response =>
    if store.unpack then .value response.result.encode
    else .response (if store.native then response else { response with native := none })
  | .value v => .value v

/-- A context may be missing, described by an object, or given as such. -/
def checkContext : Argument → Outcome Unit
  | .value .null => .ok ()
  | .value (.object entries) =>
    match Context.decode? (.object entries) with
    | some _ => .ok ()
    | none => .error .invalidData
  | .model (.context _) => .ok ()
  | _ => .error .noSuchMember

/-- The arguments of an operation: null is left out, and what was gathered comes last. -/
def operationArguments (arguments : Arguments Argument) : Entries Argument :=
  Entries.putAll (arguments.values.filter fun entry => !entry.2.isNull) arguments.named

/-- A fault of a method, where an operation that the provider lacks is not implemented. -/
def methodFault : Fault → Fault
  | .unsupportedOperation _ => .notImplemented
  | fault => fault

def callContext (store : SearchStore) (surroundings : Surroundings) :
    SearchProvider.CallContext where
  collection := store.collection
  drawn := surroundings.drawn

/-- Calls a method with named arguments. -/
def call (store : SearchStore) (surroundings : Surroundings) (method : StoreMethod)
    (args : Entries Argument) (state : ProviderState) : Step StoreAnswer :=
  let context := (args.find? "__context__").getD (.value .null)
  match SearchProvider.bindMethod method.signature (args.erase "__context__") with
  | .error fault => .still state (.error fault)
  | .ok arguments =>
    match store.provider with
    | none => .still state (.error .notImplemented)
    | some provider =>
      match checkContext context with
      | .error fault => .still state (.error fault)
      | .ok () =>
        let call : OperationCall :=
          { name := some method.operationName, args := some (operationArguments arguments) }
        let step :=
          provider.run method.kind (store.callContext surroundings) surroundings.reply call state
        { step with outcome := (step.outcome.map store.finalize).mapError methodFault }

/-- What is given as an operation. -/
inductive GivenOperation where
  | missing
  | call (call : OperationCall)
  | other

/-- An operation that must be described in full. -/
def operationModel (value : Value) : Outcome GivenOperation :=
  match Operation.decode? value with
  | some operation => .ok (.call (.ofOperation operation))
  | none => .error .invalidData

/-- The operation that a value describes: an object by its fields, a text by its name. -/
def operationOf : Value → Outcome GivenOperation
  | .null => .ok .missing
  | .str name => .ok (.call { name := some name, args := none })
  | .object entries => operationModel (.object entries)
  | _ => .ok .other

/-- Runs an operation that is read after the provider is found and before the context is. -/
def runWith (store : SearchStore) (surroundings : Surroundings) (kind : ClientKind)
    (operation : Outcome GivenOperation) (context : Argument) (state : ProviderState) :
    Step StoreAnswer :=
  match store.provider with
  | none => .still state (.error .missingProvider)
  | some provider =>
    let checked : Outcome OperationCall := do
      let given ← operation
      checkContext context
      match given with
      | .missing => throw (.unsupportedOperation none)
      | .other => throw .noSuchMember
      | .call call => return call
    match checked with
    | .error fault => .still state (.error fault)
    | .ok call =>
      (provider.run kind (store.callContext surroundings) surroundings.reply call state).map
        store.finalize

/-- Runs an operation. -/
def run (store : SearchStore) (surroundings : Surroundings) (kind : ClientKind)
    (operation : Value) (context : Argument) (state : ProviderState) : Step StoreAnswer :=
  store.runWith surroundings kind (operationOf operation) context state

/-- Runs an operation that is described in full. -/
def runModel (store : SearchStore) (surroundings : Surroundings) (kind : ClientKind)
    (operation : Value) (context : Argument) (state : ProviderState) : Step StoreAnswer :=
  match operationModel operation with
  | .error fault => .still state (.error fault)
  | .ok given => store.runWith surroundings kind (.ok given) context state

/-- Whether the provider has a feature. -/
def supports (store : SearchStore) (feature : Value) : Outcome Bool :=
  match store.provider with
  | none => .error .noSuchMember
  | some provider => .ok (provider.supports feature)

/-- Sets up the provider, which needs nothing. -/
def setup (store : SearchStore) : Outcome Unit :=
  match store.provider with
  | none => .error .noSuchMember
  | some _ => .ok ()

end SearchStore

end FacetedSearch
