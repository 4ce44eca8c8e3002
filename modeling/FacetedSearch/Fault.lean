import FacetedSearch.Value.Display

/-!
What can go wrong, by cause. Causes that are reported to the caller have a message and a status;
the others are only told apart.
-/

namespace FacetedSearch

inductive Fault where
  | unsupportedOperator (field operator : String)
  | missingFilterValue (field operator : String)
  | unresolvedField (field : String)
  /-- A range condition whose value is not a pair. -/
  | unpairedBounds (field : String)
  | missingNestedOptions (facet : String)
  | unsupportedGranularity (granularity : Value)
  | unsupportedFieldDefinition (definition : Value)
  | malformedCatalog
  | malformedHooks
  | missingHosts
  | missingCollection
  | missingProvider
  /-- An operation that its provider does not have, in its JSON text. -/
  | unsupportedOperation (operation : Option String)
  | requestFailed
  | unknownModule (path : String)
  | unknownClass (name path : String)
  /-- A module without a class of the kind asked for. -/
  | noClassOf (kind path : String)
  | unknownComponent (handle : String)
  /-- Data that a model refuses. -/
  | invalidData
  | wrongKind
  | wrongValue
  | noSuchMember
  | noSuchKey
  | numberTooLarge
  | malformedJson
  | missingFile
  | notImplemented
deriving DecidableEq, Repr

namespace Fault

/-- The fault that shows a value. A value that is too long to be written cannot be shown. -/
def showing (fault : Value → Fault) (value : Value) : Fault :=
  if value.isWritable then fault value else .wrongValue

/-- Whether the request itself is at fault. -/
def isBadRequest : Fault → Bool
  | .unsupportedOperator .. | .missingFilterValue .. | .unresolvedField _ | .unpairedBounds _
  | .missingNestedOptions _ | .unsupportedGranularity _ | .unsupportedFieldDefinition _
  | .malformedCatalog | .malformedHooks | .missingHosts | .missingCollection => true
  | _ => false

def status? : Fault → Option Nat
  | .missingProvider | .unsupportedOperation _ => some 415
  | .requestFailed => some 502
  | .unknownModule _ | .unknownClass .. | .noClassOf .. | .unknownComponent _ => some 500
  | fault => if fault.isBadRequest then some 400 else none

def message? : Fault → Option String
  | .unsupportedOperator field operator =>
    s!"Unsupported operator \x60{operator}\x60 used for field \x60{field}\x60."
  | .missingFilterValue field operator =>
    s!"No filter value provided for field \x60{field}\x60 with operator \x60{operator}\x60."
  | .unresolvedField field => s!"Field \x60{field}\x60 is not defined in the catalog."
  | .unpairedBounds field => s!"Range condition on field \x60{field}\x60 needs two values."
  | .missingNestedOptions facet => s!"Nested facet \x60{facet}\x60 needs nested options."
  | .unsupportedGranularity granularity => s!"Granularity {granularity.shown} not supported"
  | .unsupportedFieldDefinition definition =>
    s!"Field definition {definition.shown} not supported"
  | .malformedCatalog => "Field catalog format error"
  | .malformedHooks => "Search hooks format error"
  | .missingHosts => "Elasticsearch hosts must be specified"
  | .missingCollection => "Collection name must be specified"
  | .missingProvider => "Component has no provider bound"
  | .unsupportedOperation operation => operation.getD "None"
  | .requestFailed => "Search request failed."
  | .unknownModule path => s!"Module {path} could not be loaded"
  | .unknownClass name path => s!"Class {name} not found in {path}"
  | .noClassOf kind path => s!"No {kind} found in {path}"
  | .unknownComponent handle => s!"Component {handle} not found in manifest"
  | _ => none

end Fault

/-- The result of a step that may fail. -/
abbrev Outcome (α : Type) := Except Fault α

end FacetedSearch
