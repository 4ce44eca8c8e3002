import FacetedSearch.Entries
import FacetedSearch.Fault

/-!
Calls with positional and named arguments. Every argument goes to one parameter; those that no
parameter takes are gathered where a signature allows it.
-/

namespace FacetedSearch

structure Parameter (α : Type) where
  name : String
  default : Option α := none
deriving DecidableEq, Repr

structure Signature (α : Type) where
  parameters : List (Parameter α)
  /-- Whether further positional arguments are gathered. -/
  gathersRest : Bool := false
  /-- Whether further named arguments are gathered. -/
  gathersNamed : Bool := false
deriving DecidableEq, Repr

/-- The arguments of a call: those of the parameters in their order, and the gathered ones. -/
structure Arguments (α : Type) where
  values : Entries α := []
  rest : List α := []
  named : Entries α := []
deriving DecidableEq, Repr

variable {α : Type}

/-- The name of the object that a method belongs to, which is no argument of a call. -/
def receiverName : String := "self"

/-- The name under which gathered arguments are handed on together. -/
def gatheredName : String := "kwargs"

namespace Signature

def names (signature : Signature α) : List String := signature.parameters.map (·.name)

def takes (signature : Signature α) (name : String) : Bool := signature.names.contains name

/-- The argument of a parameter, by name or by default. -/
def fill (named : Entries α) (parameter : Parameter α) : Outcome (String × α) :=
  match (named.find? parameter.name).or parameter.default with
  | some value => .ok (parameter.name, value)
  | none => .error .wrongKind

/-- Binds the arguments of a call. No parameter may get two arguments or none. -/
def bind (signature : Signature α) (args : List α) (named : Entries α) :
    Outcome (Arguments α) := do
  let positional := signature.names.zip args
  let rest := args.drop signature.names.length
  let further := named.filter fun entry => !signature.takes entry.1
  if !rest.isEmpty && !signature.gathersRest then throw .wrongKind
  if !further.isEmpty && !signature.gathersNamed then throw .wrongKind
  if positional.any fun entry => named.contains entry.1 then throw .wrongKind
  let values ← signature.parameters.mapM (fill (positional ++ named))
  return { values, rest, named := further }

end Signature

end FacetedSearch
