import FacetedSearch.Fault
import FacetedSearch.Number.Numeral
import FacetedSearch.Text.Uppercase

/-!
Granularities of histograms: the name of a calendar unit, or an interval as a number.
-/

namespace FacetedSearch.Granularity

/-- The named units and their lengths in seconds. -/
def units : List (String × Int) :=
  [("year", 31536000), ("month", 2592000), ("day", 86400), ("hour", 3600), ("minute", 60),
    ("second", 1)]

def defaultUnit : String := "month"

def defaultSeconds : Int := 2592000

/-- The length of a unit that is named in any letter case. -/
def seconds? (name : String) : Option Int := units.lookup (Text.lowercase name)

/-- The calendar unit of a granularity; what names none means months. -/
def calendarUnit : Value → String
  | .str name =>
    if (seconds? name).isSome then Text.lowercase name else defaultUnit
  | _ => defaultUnit

/-- A numeral with an integral value is that integer. -/
def readNumber? (text : String) : Option Value :=
  (Numeral.readFloat? text).map fun x =>
    match x.toInt? with
    | some i => .int i
    | none => .float x

/-- The number that a value is or reads as; truth values are none. -/
def number? : Value → Option Value
  | .int i => some (.int i)
  | .float x => some (.float x)
  | .str text => readNumber? text
  | _ => none

def isNonPositive : Value → Bool
  | .int i => i ≤ 0
  | .float x => x.isNonPositive
  | _ => false

/-- The fault of a granularity that is refused. -/
def refusal (granularity : Value) : Fault := .showing .unsupportedGranularity granularity

/-- The interval of a granularity given as a number. -/
def numericInterval (granularity : Value) : Outcome Value :=
  match number? granularity with
  | none => .error (refusal granularity)
  | some number => if isNonPositive number then .error (refusal granularity) else .ok number

/-- The interval of a granularity in seconds; without one it is a month. -/
def interval : Value → Outcome Value
  | .null => .ok (.int defaultSeconds)
  | .str name =>
    match seconds? name with
    | some seconds => .ok (.int seconds)
    | none => numericInterval (.str name)
  | granularity => numericInterval granularity

end FacetedSearch.Granularity
