import FacetedSearch.Json.Reader
import FacetedSearch.Model

/-!
Models from JSON texts. A text that is not read, and one that holds no model, are refused alike.
-/

namespace FacetedSearch.Model

/-- Reads a model by its name from a JSON text. -/
def ofText (name text : String) : Outcome Model :=
  match Json.read .ofModels text with
  | .ok value => decode name value
  | .error _ => .error .invalidData

end FacetedSearch.Model
