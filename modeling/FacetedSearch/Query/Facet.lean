import FacetedSearch.Decode

/-!
Facet requests: which aggregation a facet asks for, and which of its values are selected.
-/

namespace FacetedSearch

inductive FacetKind where
  | string
  | range
  | date
  | granular
  | nested
deriving DecidableEq, Repr

namespace FacetKind

def word : FacetKind → String
  | .string => "string"
  | .range => "range"
  | .date => "date"
  | .granular => "granular"
  | .nested => "nested"

def ofWord? (word : String) : Option FacetKind :=
  [.string, .range, .date, .granular, .nested].find? (·.word == word)

def decode? : Decode.Decoder FacetKind := fun value => (Decode.text value).bind ofWord?

/-- Date and granular facets count in intervals. -/
def isHistogram : FacetKind → Bool
  | .date | .granular => true
  | _ => false

end FacetKind

/-- Whether the selected values of a facet must all hold or are alternatives. -/
inductive FacetOperator where
  | and
  | or
deriving DecidableEq, Repr

namespace FacetOperator

def word : FacetOperator → String
  | .and => "and"
  | .or => "or"

def ofWord? (word : String) : Option FacetOperator :=
  if word = "and" then some .and else if word = "or" then some .or else none

def decode? : Decode.Decoder FacetOperator :=
  fun value => (Decode.text value).bind fun word => ofWord? (Text.lowercase word)

end FacetOperator

/-- Where the buckets of a nested facet are: the path of the nested objects, and the field and value
that choose among them. -/
structure NestedFacetOptions where
  path : Option String := none
  groupField : String
  groupValue : Value
deriving DecidableEq, Repr

namespace NestedFacetOptions

/-- Texts, numbers and truth values. -/
def decodeScalar : Decode.Decoder Value
  | .str text => some (.str text)
  | .int i => some (.int i)
  | .float x => some (.float x)
  | .bool flag => some (.bool flag)
  | _ => none

def ofEntries? (entries : Entries Value) : Option NestedFacetOptions := do
  let path ← Decode.defaulted entries "path" none (Decode.optional Decode.text)
  let groupField ← Decode.required entries "group_field" Decode.text
  let groupValue ← Decode.required entries "group_value" decodeScalar
  some { path, groupField, groupValue }

def decode? (value : Value) : Option NestedFacetOptions := value.entries?.bind ofEntries?

def encode (options : NestedFacetOptions) : Value :=
  .object
    [("path", Value.nullable .str options.path), ("group_field", .str options.groupField),
      ("group_value", options.groupValue)]

end NestedFacetOptions

structure FacetRequest where
  id : String
  field : String
  kind : FacetKind := .string
  operator : FacetOperator := .and
  limit : Int := 0
  minCount : Int := 1
  missing : Bool := false
  granularity : Value := .null
  dateDisplay : Option Bool := none
  minValue : Value := .null
  maxValue : Value := .null
  activeValues : List Value := []
  exclude : Bool := false
  nested : Option NestedFacetOptions := none
deriving DecidableEq, Repr

namespace FacetRequest

/-- A name, an interval or null; a truth value is taken as a number. -/
def decodeGranularity : Decode.Decoder Value
  | .null => some .null
  | .str text => some (.str text)
  | .int i => some (.int i)
  | .float x => some (.float x)
  | .bool flag => some (.int (if flag then 1 else 0))
  | _ => none

def ofEntries? (entries : Entries Value) : Option FacetRequest := do
  let id ← Decode.required entries "id" Decode.text
  let field ← Decode.required entries "field" Decode.text
  let kind ← Decode.defaulted entries "query_type" .string FacetKind.decode?
  let operator ← Decode.defaulted entries "operator" .and FacetOperator.decode?
  let limit ← Decode.defaulted entries "limit" 0 Decode.whole
  let minCount ← Decode.defaulted entries "min_count" 1 Decode.whole
  let missing ← Decode.defaulted entries "missing" false Decode.flag
  let granularity ← Decode.defaulted entries "granularity" .null decodeGranularity
  let dateDisplay ← Decode.defaulted entries "date_display" none (Decode.optional Decode.flag)
  let minValue ← Decode.defaulted entries "min_value" .null Decode.anything
  let maxValue ← Decode.defaulted entries "max_value" .null Decode.anything
  let activeValues ← Decode.defaulted entries "active_values" [] (Decode.items Decode.anything)
  let exclude ← Decode.defaulted entries "exclude" false Decode.flag
  let nested ←
    Decode.defaulted entries "nested" none (Decode.optional NestedFacetOptions.decode?)
  some
    { id, field, kind, operator, limit, minCount, missing, granularity, dateDisplay, minValue,
      maxValue, activeValues, exclude, nested }

def decode? (value : Value) : Option FacetRequest := value.entries?.bind ofEntries?

def encode (facet : FacetRequest) : Value :=
  .object
    [("id", .str facet.id), ("field", .str facet.field), ("query_type", .str facet.kind.word),
      ("operator", .str facet.operator.word), ("limit", .int facet.limit),
      ("min_count", .int facet.minCount), ("missing", .bool facet.missing),
      ("granularity", facet.granularity),
      ("date_display", Value.nullable .bool facet.dateDisplay),
      ("min_value", facet.minValue), ("max_value", facet.maxValue),
      ("active_values", .list facet.activeValues), ("exclude", .bool facet.exclude),
      ("nested", Value.nullable NestedFacetOptions.encode facet.nested)]

end FacetRequest

end FacetedSearch
