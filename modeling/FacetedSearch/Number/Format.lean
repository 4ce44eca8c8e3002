import FacetedSearch.Number.Shortest

/-!
How numbers are written. A `NumberFormat` holds the decisions of one notation; `display`, `compact`
and `brief` are the three notations of this library.
-/

namespace FacetedSearch

structure NumberFormat where
  /-- The places of the decimal point that are written without an exponent. -/
  leastPoint : Int
  greatestPoint : Int
  /-- The mark after a whole number that has no exponent. -/
  wholeMark : String
  exponentWidth : Nat
  digits : Nat → Int → Decimal
  nan : String
  infinity : String
  negativeInfinity : String

namespace NumberFormat

/-- Numbers inside texts and messages: `1.0`, `1e+16`, `1e-05`, `inf`. -/
def display : NumberFormat where
  leastPoint := -3
  greatestPoint := 16
  wholeMark := ".0"
  exponentWidth := 2
  digits := Binary64.shortestDecimal
  nan := "nan"
  infinity := "inf"
  negativeInfinity := "-inf"

/-- The display notation with the JSON names of the special numbers. -/
def display.json : NumberFormat :=
  { display with nan := "NaN", infinity := "Infinity", negativeInfinity := "-Infinity" }

/-- Numbers of compact JSON: `1e+16`, `0.00001`, `1e-6`; special numbers have no spelling there. -/
def compact : NumberFormat where
  leastPoint := -4
  greatestPoint := 16
  wholeMark := ".0"
  exponentWidth := 1
  digits := Binary64.shortestDecimal
  nan := "null"
  infinity := "null"
  negativeInfinity := "null"

/-- Six significant digits, as in field boosts: `2`, `0.5`, `1.23457e+06`. -/
def brief : NumberFormat where
  leastPoint := -3
  greatestPoint := 6
  wholeMark := ""
  exponentWidth := 2
  digits := Binary64.significantDecimal 6
  nan := "nan"
  infinity := "inf"
  negativeInfinity := "-inf"

def padLeft (width : Nat) (digits : List Char) : List Char :=
  List.replicate (width - digits.length) '0' ++ digits

def writeExponent (format : NumberFormat) (exponent : Int) : String :=
  "e" ++ (if exponent < 0 then "-" else "+") ++
    String.ofList (padLeft format.exponentWidth (Nat.toDigits 10 exponent.natAbs))

def writeDecimal (format : NumberFormat) (decimal : Decimal) : String :=
  let digits := decimal.digits
  let point := decimal.point
  if point < format.leastPoint ∨ format.greatestPoint < point then
    let fraction := digits.drop 1
    String.ofList (digits.take 1) ++
      (if fraction.isEmpty then "" else "." ++ String.ofList fraction) ++
      format.writeExponent (point - 1)
  else if point ≤ 0 then
    "0." ++ String.ofList (List.replicate (-point).toNat '0' ++ digits)
  else
    let places := point.toNat
    let fraction := digits.drop places
    String.ofList (digits.take places ++ List.replicate (places - digits.length) '0') ++
      (if fraction.isEmpty then format.wholeMark else "." ++ String.ofList fraction)

def write (format : NumberFormat) : Binary64 → String
  | .nan => format.nan
  | .infinite negative => if negative then format.negativeInfinity else format.infinity
  | .finite negative significand exponent =>
    let decimal := if significand = 0 then ⟨['0'], 1⟩ else format.digits significand exponent
    (if negative then "-" else "") ++ format.writeDecimal decimal

end NumberFormat

end FacetedSearch
