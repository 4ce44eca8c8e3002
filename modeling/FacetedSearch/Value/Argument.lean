import FacetedSearch.Fault
import FacetedSearch.Json.Writer

/-!
Values as arguments: their text inside a sentence, and named arguments that come as an object or as
pairs.
-/

namespace FacetedSearch.Value

/-- The text of an argument inside a sentence: JSON, or the shown form of a tuple. -/
def argumentText : Value → String
  | .tuple items => (Value.tuple items).shown
  | .set members => (Value.set members).shown
  | value => JsonStyle.spaced.write value

/-- A pair is anything with two elements, of which the first can be a key. -/
def pair (value : Value) : Outcome (Value × Value) :=
  match value.visited? with
  | some [key, value] => if key.isKey then .ok (key, value) else .error .wrongKind
  | some _ => .error .wrongValue
  | none => .error .wrongKind

/-- The pairs of keys and values that an object has or a list holds. -/
def pairs : Value → Outcome (List (Value × Value))
  | .object entries => .ok (entries.map fun entry => (.str entry.1, entry.2))
  | value =>
    match value.visited? with
    | some items => items.mapM pair
    | none => .error .wrongKind

/-- Pairs whose keys are all texts, as entries. -/
def namedPairs? (pairs : List (Value × Value)) : Option (List (String × Value)) :=
  pairs.mapM fun pair => pair.1.text?.map fun name => (name, pair.2)

end FacetedSearch.Value
