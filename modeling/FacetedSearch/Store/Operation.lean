import FacetedSearch.Decode
import FacetedSearch.Invocation
import FacetedSearch.Value.Argument

/-!
Operations: a name and named arguments, in the form in which a component passes calls on to its
provider.
-/

namespace FacetedSearch

structure Operation where
  name : Option String := none
  args : Option (Entries Value) := none
deriving DecidableEq, Repr

namespace Operation

def ofEntries? (entries : Entries Value) : Option Operation := do
  let name ← Decode.defaulted entries "name" none (Decode.optional Decode.text)
  let args ← Decode.defaulted entries "args" none (Decode.optional Decode.object)
  some { name, args }

def decode? (value : Value) : Option Operation := value.entries?.bind ofEntries?

def encode (operation : Operation) : Value :=
  .object
    [("name", Value.nullable .str operation.name),
      ("args", Value.nullable .object operation.args)]

/-- A new operation; the name and the arguments may be missing. -/
def new (name args : Value) : Outcome Operation :=
  match decode? (.object [("name", name), ("args", args)]) with
  | some operation => .ok operation
  | none => .error .invalidData

/-- An argument under its name as a key. -/
def insertPair (args : List (Value × Value)) (pair : Value × Value) : List (Value × Value) :=
  if args.any fun old => old.1.sameKey pair.1 then
    args.map fun old => if old.1.sameKey pair.1 then (old.1, pair.2) else old
  else args ++ [pair]

/-- Adds an argument: gathered ones are spread, and null is left out. -/
def addArgument (args : List (Value × Value)) (entry : String × Value) :
    Outcome (List (Value × Value)) :=
  if entry.1 = gatheredName then return (← entry.2.pairs).foldl insertPair args
  else if entry.2 = .null then .ok args
  else .ok (insertPair args (.str entry.1, entry.2))

/-- The operation of a call with all of its arguments by name, the gathered ones among them under
their common name. -/
def normalize (name args : Value) : Outcome Operation :=
  match args with
  | .null => new name .null
  | .object entries => do
    let args ← (Entries.erase entries receiverName).foldlM addArgument []
    match Value.namedPairs? args with
    | some args => new name (.object args)
    | none => throw .invalidData
  | args => .error (if args.visited?.isSome then .noSuchMember else .wrongKind)

/-- The words of a name. -/
def wordsOf (name : String) : String :=
  Text.trim (String.ofList (name.toList.map fun c => if c = '_' then ' ' else c))

/-- An operation as a sentence: its name, then each argument with its value. -/
def text (operation : Operation) : String :=
  let argument := fun (entry : String × Value) =>
    " " ++ wordsOf entry.1 ++ " " ++ entry.2.argumentText
  operation.name.getD "" ++ String.join ((operation.args.getD []).map argument)

/-- What a call with a query takes: the query, a collection, and anything else by name. -/
def querySignature {α : Type} (noCollection : α) : Signature α where
  parameters := [{ name := "query" }, { name := "collection", default := some noCollection }]
  gathersNamed := true

/-- What a call without a query takes. -/
def closeSignature {α : Type} : Signature α where
  parameters := []
  gathersNamed := true

/-- The signature of a store's operation. -/
def signature? {α : Type} (noCollection : α) (name : String) : Option (Signature α) :=
  if name = "compile" || name = "query" then some (querySignature noCollection)
  else if name = "close" then some closeSignature
  else none

/-- The operation of a store that a call with named arguments asks for. -/
def ofCall (name : String) (args : Entries Value) : Outcome Operation :=
  match signature? .null name with
  | none => .error .noSuchMember
  | some signature => do
    let arguments ← signature.bind [] args
    normalize (.str name)
      (.object (arguments.values ++ [(gatheredName, .object arguments.named)]))

end Operation

/-- The context an operation runs in. -/
structure Context where
  id : Option String := none
  data : Option (Entries Value) := none
deriving DecidableEq, Repr

namespace Context

def decode? (value : Value) : Option Context := do
  let entries ← value.entries?
  let id ← Decode.defaulted entries "id" none (Decode.optional Decode.text)
  let data ← Decode.defaulted entries "data" none (Decode.optional Decode.object)
  some { id, data }

def encode (context : Context) : Value :=
  .object
    [("id", Value.nullable .str context.id), ("data", Value.nullable .object context.data)]

end Context

end FacetedSearch
