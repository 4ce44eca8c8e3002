import FacetedSearch.Catalog.Definition
import FacetedSearch.Json.Reader
import FacetedSearch.Store.DeclaredType

/-!
Conversion of arguments to the declared types of parameters. Objects and JSON texts become models
where a type asks for a model; all other arguments stay as they are.
-/

namespace FacetedSearch

inductive Argument where
  | value (value : Value)
  | model (model : Model)
  | catalog (catalog : FieldCatalog)
  | list (items : List Argument)
deriving Repr

namespace Argument

def isNull : Argument → Bool
  | .value .null => true
  | _ => false

mutual

/-- An argument as a document. -/
def document : Argument → Value
  | .value v => v
  | .model m => m.document
  | .catalog c => .object [("fields", .list (c.fields.map SearchField.encode))]
  | .list items => .list (documents items)

def documents : List Argument → List Value
  | [] => []
  | item :: rest => item.document :: documents rest

end

/-- Reads what an object or a JSON text holds; other values are kept. -/
def readWith (read : Value → Outcome Argument) : Value → Outcome Argument
  | .object entries => read (.object entries)
  | .str text =>
    match Json.read .ofArguments text with
    | .ok v => read v
    | .error .tooLong => .error .wrongValue
    | .error _ => .error .malformedJson
  | v => .ok (.value v)

def readModel (name : String) : Value → Outcome Argument :=
  readWith fun value => return .model (← Model.decode name value)

def readCatalog : Value → Outcome Argument :=
  readWith fun value => return .catalog (← FieldCatalog.ofDefinition value)

end Argument

namespace DeclaredType

/-- The first model among the members of a union. -/
def firstModel? (members : List DeclaredType) : Option String :=
  members.findSome? fun declared =>
    match declared with
    | .model name => some name
    | _ => none

/-- The elements of an argument that is a list. -/
def listItems? : Argument → Option (List Argument)
  | .value (.list items) => some (items.map .value)
  | .list items => some items
  | _ => none

/-- Converts a single value to a type that is no sequence. -/
def readAs (declared : DeclaredType) (argument : Argument) : Outcome Argument :=
  match declared, argument with
  | .model name, .value v => Argument.readModel name v
  | .catalog, .value v => Argument.readCatalog v
  | .union members, .value v =>
    match firstModel? members with
    | some name => Argument.readModel name v
    | none => .ok (.value v)
  | _, argument => .ok argument

/-- Converts an argument; a list for a sequence is converted element by element. -/
def convert : DeclaredType → Argument → Outcome Argument
  | .sequence element, argument =>
    match listItems? argument with
    | some items => return .list (← items.mapM (convert element))
    | none => .ok argument
  | declared, argument => declared.readAs argument

end DeclaredType

end FacetedSearch
