import FacetedSearch.Fault

/-!
Parameters that are given once for all collections or by collection name.
-/

namespace FacetedSearch

/-- The value that a parameter has for a collection. A parameter that is itself an object counts as
given by collection only where the collection's entry is an object too. -/
def collectionParameter (parameter collection : Value) (isObjectParameter : Bool := false) :
    Outcome Value :=
  match parameter with
  | .object entries =>
    match collection with
    | .str name =>
      match Entries.find? entries name with
      | none => .ok parameter
      | some value => .ok (if isObjectParameter && !value.isObject then parameter else value)
    | collection => if collection.isKey then .ok parameter else .error .wrongKind
  | parameter => .ok parameter

end FacetedSearch
