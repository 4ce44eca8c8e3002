/-!
Cutting texts at a start or at a separating character.
-/

namespace FacetedSearch.Text

/-- What follows a start in a list; none when the list starts otherwise. -/
def afterStart? {α : Type} [DecidableEq α] : (start list : List α) → Option (List α)
  | [], list => some list
  | _ :: _, [] => none
  | a :: start, b :: list => if a = b then afterStart? start list else none

/-- What follows a start in a text. -/
def after? (start text : String) : Option String :=
  (afterStart? start.toList text.toList).map String.ofList

/-- The parts of a text around the first occurrence of a character. -/
def splitFirst? (separator : Char) (text : String) : Option (String × String) :=
  match text.toList.dropWhile (· != separator) with
  | [] => none
  | _ :: rest => some (String.ofList (text.toList.takeWhile (· != separator)), String.ofList rest)

end FacetedSearch.Text
