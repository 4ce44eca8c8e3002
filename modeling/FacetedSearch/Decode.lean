import FacetedSearch.Number.Numeral
import FacetedSearch.Text.Uppercase
import FacetedSearch.Value.Basic

/-!
Readers for the fields of models. A field takes what can stand for its type without loss: whole
numbers may come as truth values, whole floats or numerals, lists as tuples or sets, but a text is
only ever a text.
-/

namespace FacetedSearch.Decode

abbrev Decoder (α : Type) := Value → Option α

variable {α β : Type}

/-- How many groups may stand inside each other, the outermost included. -/
def nestingLimit : Nat := 255

def anything : Decoder Value := some

def text : Decoder String := Value.text?

/-- Floats stand for whole numbers of the signed 64-bit range only. -/
def wholeFloat? (x : Binary64) : Option Int := do
  let i ← x.toInt?
  if i.natAbs < Nat.pow 2 63 then some i else none

def whole : Decoder Int
  | .int i => some i
  | .bool flag => some (if flag then 1 else 0)
  | .float x => wholeFloat? x
  | .str text => Numeral.readIntField? text
  | _ => none

def finiteInt? (i : Int) : Option Binary64 :=
  let x := Binary64.ofInt i
  if x.isFinite then some x else none

def real : Decoder Binary64
  | .float x => some x
  | .int i => finiteInt? i
  | .bool flag => some (Binary64.ofInt (if flag then 1 else 0))
  | .str text => Numeral.readFloatField? text
  | _ => none

def falseWords : List String := ["0", "off", "f", "false", "n", "no"]

def trueWords : List String := ["1", "on", "t", "true", "y", "yes"]

def flagOfWord? (word : String) : Option Bool :=
  if word ∈ falseWords then some false
  else if word ∈ trueWords then some true
  else none

def flagOfWhole? (i : Int) : Option Bool :=
  if i = 0 then some false else if i = 1 then some true else none

def flag : Decoder Bool
  | .bool flag => some flag
  | .int i => flagOfWhole? i
  | .float x => x.toInt?.bind flagOfWhole?
  | .str text => flagOfWord? (Text.lowercase text)
  | _ => none

/-- Null or a value of the given type. -/
def optional (decode : Decoder α) : Decoder (Option α)
  | .null => some none
  | value => (decode value).map some

/-- What a list field takes for a list: a list, a tuple or a set. -/
def listed? : Value → Option (List Value)
  | .list items => some items
  | .tuple items => some items
  | .set members => some (members.map .str)
  | _ => none

def items (decode : Decoder α) (value : Value) : Option (List α) := do
  (← listed? value).mapM decode

def entriesOf (decode : Decoder α) : List (String × Value) → Option (Entries α)
  | [] => some []
  | (name, value) :: rest => do
    let a ← decode value
    let others ← entriesOf decode rest
    some ((name, a) :: others)

/-- An object whose values are all of the given type. -/
def dictionary (decode : Decoder α) (value : Value) : Option (Entries α) := do
  entriesOf decode (← value.entries?)

def object : Decoder (Entries Value) := Value.entries?

/-- Keeps a decoded value in the form in which documents hold it. -/
def kept (decode : Decoder α) (encode : α → Value) : Decoder Value :=
  fun value => (decode value).map encode

/-- A field that must be there. -/
def required (entries : Entries Value) (name : String) (decode : Decoder α) : Option α := do
  decode (← entries.find? name)

/-- A field that has a default when it is not there. -/
def defaulted (entries : Entries Value) (name : String) (default : α) (decode : Decoder α) :
    Option α :=
  match entries.find? name with
  | some value => decode value
  | none => some default

end FacetedSearch.Decode
