import FacetedSearch.Fault

/-!
Readings of the parts of a response. A part gives a value, or nothing, or it is malformed and gives
a warning in its place.
-/

namespace FacetedSearch

inductive Reading (α : Type) where
  | value (a : α)
  | nothing
  | malformed (warning : String)
deriving DecidableEq, Repr

namespace Reading

variable {α : Type}

def value? : Reading α → Option α
  | .value a => some a
  | _ => none

def warning? : Reading α → Option String
  | .malformed warning => some warning
  | _ => none

end Reading

/-- Values read, with the warnings about what could not be read. -/
structure Readings (α : Type) where
  values : List α := []
  warnings : List String := []
deriving Repr

namespace Readings

variable {α : Type}

def ofList (readings : List (Reading α)) : Readings α where
  values := readings.filterMap Reading.value?
  warnings := readings.filterMap Reading.warning?

def append (first second : Readings α) : Readings α where
  values := first.values ++ second.values
  warnings := first.warnings ++ second.warnings

/-- The readings of a part that is malformed as a whole. -/
def malformed (warning : String) : Readings α := { warnings := [warning] }

end Readings

/-- What a walk over a member of a response visits. What does not count as given has no elements. -/
def elements (value : Value) : Outcome (List Value) :=
  if value.isTruthy then
    match value.visited? with
    | some items => .ok items
    | none => .error .wrongKind
  else .ok []

/-- The entries of a member of a response that is an object or does not count as given. -/
def entriesOrEmpty (value : Value) : Outcome (Entries Value) :=
  if value.isTruthy then
    match value with
    | .object entries => .ok entries
    | _ => .error .noSuchMember
  else .ok []

end FacetedSearch
