import FacetedSearch.Number.Numeral
import FacetedSearch.Text.Quoted
import FacetedSearch.Value.Basic

/-!
Values inside messages. `shown` quotes texts everywhere; `display` leaves a text that stands alone
as it is.
-/

namespace FacetedSearch.Value

def separated (parts : List String) : String := ", ".intercalate parts

mutual

def shown : Value → String
  | .null => "None"
  | .bool flag => if flag then "True" else "False"
  | .int i => toString i
  | .float x => NumberFormat.display.write x
  | .str text => Text.quoted text
  | .list items => "[" ++ separated (shownItems items) ++ "]"
  | .tuple [item] => "(" ++ item.shown ++ ",)"
  | .tuple items => "(" ++ separated (shownItems items) ++ ")"
  | .set [] => "set()"
  | .set members => "\x7b" ++ separated (members.map Text.quoted) ++ "\x7d"
  | .object entries => "\x7b" ++ separated (shownEntries entries) ++ "\x7d"

def shownItems : List Value → List String
  | [] => []
  | item :: rest => item.shown :: shownItems rest

def shownEntries : List (String × Value) → List String
  | [] => []
  | (name, value) :: rest => (Text.quoted name ++ ": " ++ value.shown) :: shownEntries rest

end

def display : Value → String
  | .str text => text
  | value => value.shown

mutual

/-- Whether a value has a text: integers have one up to the limit of digits that is read, too. -/
def isWritable : Value → Bool
  | .int i => decide (decimalLength i.natAbs ≤ Numeral.digitLimit)
  | .list items => areWritable items
  | .tuple items => areWritable items
  | .object entries => entriesAreWritable entries
  | _ => true

def areWritable : List Value → Bool
  | [] => true
  | value :: rest => value.isWritable && areWritable rest

def entriesAreWritable : List (String × Value) → Bool
  | [] => true
  | (_, value) :: rest => value.isWritable && entriesAreWritable rest

end

end FacetedSearch.Value
