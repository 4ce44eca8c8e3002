import FacetedSearch.Decode

/-!
The fields a collection declares: their type, their weight in full-text search, and how many values
they hold.
-/

namespace FacetedSearch

inductive FieldType where
  | text
  | string
  | boolean
  | integer
  | decimal
  | date
  | object
  | nestedObject
deriving DecidableEq, Repr

namespace FieldType

def all : List FieldType :=
  [.text, .string, .boolean, .integer, .decimal, .date, .object, .nestedObject]

def word : FieldType → String
  | .text => "text"
  | .string => "string"
  | .boolean => "boolean"
  | .integer => "integer"
  | .decimal => "decimal"
  | .date => "date"
  | .object => "object"
  | .nestedObject => "nested_object"

/-- Other names of types. -/
def aliases : List (String × FieldType) :=
  [("keyword", .string), ("uri", .string), ("token", .string), ("duration", .integer),
    ("long", .integer), ("float", .decimal), ("double", .decimal)]

/-- Reads the name or an alias of a type in any letter case. -/
def ofWord? (word : String) : Option FieldType :=
  let name := Text.lowercase word
  (all.find? (·.word == name)).orElse fun _ => aliases.lookup name

def decode? : Decode.Decoder FieldType := fun value => (Decode.text value).bind ofWord?

/-- Types whose values are objects. -/
def isObject : FieldType → Bool
  | .object | .nestedObject => true
  | _ => false

end FieldType

structure SearchField where
  id : String
  type : FieldType := .string
  boost : Binary64 := .ofInt 1
  cardinality : Option Int := none
deriving DecidableEq, Repr

namespace SearchField

def ofEntries? (entries : Entries Value) : Option SearchField := do
  let id ← Decode.required entries "id" Decode.text
  let type ← Decode.defaulted entries "type" .string FieldType.decode?
  let boost ← Decode.defaulted entries "boost" (.ofInt 1) Decode.real
  let cardinality ← Decode.defaulted entries "cardinality" none (Decode.optional Decode.whole)
  some { id, type, boost, cardinality }

def decode? (value : Value) : Option SearchField := value.entries?.bind ofEntries?

def encode (field : SearchField) : Value :=
  .object
    [("id", .str field.id), ("type", .str field.type.word), ("boost", .float field.boost),
      ("cardinality", Value.nullable .int field.cardinality)]

end SearchField

end FacetedSearch
