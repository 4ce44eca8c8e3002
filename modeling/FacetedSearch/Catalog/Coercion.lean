import FacetedSearch.Catalog.Basic
import FacetedSearch.Text.Blank

/-!
Conversion of values to the declared types of fields. A value that does not convert is kept; only a
number that its type cannot hold is a fault.
-/

namespace FacetedSearch.FieldCatalog

/-- Texts that mean false, in lower case. -/
def falseTexts : List String := ["false", "0", ""]

def toBoolean : Value → Value
  | .str text => .bool (!falseTexts.contains (Text.lowercase (Text.trim text)))
  | value => .bool value.isTruthy

/-- The integer part of a number, or what a numeral reads as. -/
def toInteger : Value → Outcome Value
  | .bool flag => .ok (.int (if flag then 1 else 0))
  | .float x =>
    match x with
    | .infinite _ => .error .numberTooLarge
    | x => .ok ((x.truncate?.map .int).getD (.float x))
  | .str text => .ok (((Numeral.readInt? text).map .int).getD (.str text))
  | value => .ok value

def finiteFloat (i : Int) : Outcome Value :=
  let x := Binary64.ofInt i
  if x.isFinite then .ok (.float x) else .error .numberTooLarge

def toDecimal : Value → Outcome Value
  | .bool flag => finiteFloat (if flag then 1 else 0)
  | .int i => finiteFloat i
  | .str text => .ok (((Numeral.readFloat? text).map .float).getD (.str text))
  | value => .ok value

/-- Converts a single value. -/
def coerceSingle : Option FieldType → Value → Outcome Value
  | some .boolean, value => .ok (toBoolean value)
  | some .integer, value => toInteger value
  | some .decimal, value => toDecimal value
  | some .string, value => .ok (if value.isWritable then .str value.display else value)
  | _, value => .ok value

mutual

/-- Lists and tuples are converted element by element, and null stays null. -/
def coerceTo (type : Option FieldType) : Value → Outcome Value
  | .list items => do return .list (← coerceAll type items)
  | .tuple items => do return .tuple (← coerceAll type items)
  | .null => .ok .null
  | value => coerceSingle type value

def coerceAll (type : Option FieldType) : List Value → Outcome (List Value)
  | [] => .ok []
  | value :: rest => do
    let converted ← coerceTo type value
    let others ← coerceAll type rest
    return converted :: others

end

/-- Converts a value to the declared type of a field; an undeclared field leaves it as it is. -/
def coerce (catalog : FieldCatalog) (id : String) (value : Value) : Outcome Value :=
  coerceTo (catalog.typeOf? id) value

/-- A bound of a range: a text that reads as a number is that number. -/
def coerceBound : Value → Value
  | .str text =>
    match Numeral.readInt? text with
    | some i => .int i
    | none =>
      match Numeral.readFloat? text with
      | some x => .float x
      | none => .str text
  | value => value

end FacetedSearch.FieldCatalog
