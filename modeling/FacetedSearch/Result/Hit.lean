import FacetedSearch.Catalog.Basic
import FacetedSearch.Result.Basic
import FacetedSearch.Result.Reading

/-!
Hits as result items. Every value of an item is a list; nested values are under their joined paths,
and fields of an object type are also kept whole.
-/

namespace FacetedSearch

/-- Why a hit gives no item. -/
inductive HitFault where
  | missingId
  | notAnObject
  | sourceNotAnObject (id : Value)
  | invalid
deriving DecidableEq, Repr

namespace HitFault

def fault : HitFault → Fault
  | .missingId => .noSuchKey
  | .notAnObject => .wrongKind
  | .sourceNotAnObject _ => .wrongKind
  | .invalid => .invalidData

def text : HitFault → String
  | .missingId => "KeyError('_id')"
  | .notAnObject => "TypeError"
  | .sourceNotAnObject id =>
    "TypeError(" ++ Text.quoted ("Source of hit " ++ id.display ++ " is not an object") ++ ")"
  | .invalid => "ValidationError"

end HitFault

namespace Hit

/-- The source of a hit; what does not count as given is an empty one. -/
def source? (hit : Entries Value) : Option (Entries Value) :=
  ((Value.member hit "_source").orElse (.object [])).entries?

/-- The fields of a source that the catalog declares as objects, as a whole. -/
def wholeObjects (catalog : FieldCatalog) (source : Entries Value) : Entries Value :=
  source.filter fun entry => ((catalog.typeOf? entry.1).map FieldType.isObject).getD false

/-- The fields of an item: the flattened source, with whole objects added or put in place. -/
def fields (catalog : FieldCatalog) (source : Entries Value) : Entries (List Value) :=
  ((FieldPath.flatten source).putAll (wholeObjects catalog source)).mapValues Value.asList

def read (catalog : FieldCatalog) (hit : Value) : Except HitFault ResultItem :=
  match hit with
  | .object entries =>
    match Entries.find? entries "_id" with
    | none => .error .missingId
    | some id =>
      match source? entries with
      | none => .error (.sourceNotAnObject id)
      | some source =>
        let score := Decode.optional Decode.real (Value.member entries "_score")
        match ResultItem.decodeId id, score with
        | some id, some score => .ok { id, score, fields := fields catalog source }
        | _, _ => .error .invalid
  | _ => .error .notAnObject

def reading (catalog : FieldCatalog) (hit : Value) : Reading ResultItem :=
  match read catalog hit with
  | .ok item => .value item
  | .error fault => .malformed ("Skipped malformed hit: " ++ fault.text)

def readAll (catalog : FieldCatalog) (hits : List Value) : Readings ResultItem :=
  Readings.ofList (hits.map (reading catalog))

/-- The number of matching documents, given alone or with its relation. -/
def total (value : Value) : Value :=
  let number :=
    match value with
    | .object entries => Value.member entries "value"
    | value => value
  match number with
  | .int i => .int i
  | .bool flag => .bool flag
  | _ => .int 0

end Hit

end FacetedSearch
