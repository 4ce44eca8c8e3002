import FacetedSearch.Number.Binary64

/-!
Decimal digits of binary numbers: the fewest digits that read back as the number, and a fixed count
of significant digits.
-/

namespace FacetedSearch

/-- The positive decimal `0.d₁d₂… · 10 ^ point`. -/
structure Decimal where
  digits : List Char
  point : Int
deriving DecidableEq, Repr, Inhabited

namespace Decimal

/-- The decimal of `coefficient · 10 ^ exponent`, without trailing zeros. -/
def ofCoefficient (coefficient : Nat) (exponent : Int) : Decimal :=
  let digits := Nat.toDigits 10 coefficient
  let kept := (digits.reverse.dropWhile (· == '0')).reverse
  ⟨if kept.isEmpty then ['0'] else kept, if kept.isEmpty then 1 else exponent + digits.length⟩

/-- The `k` with `10 ^ (k - 1) ≤ numerator / denominator < 10 ^ k`, for a positive ratio. -/
def pointOfRatio (numerator denominator : Nat) : Int :=
  let guess := (decimalLength numerator : Int) - decimalLength denominator
  let shifted := scaleRatio 10 (-guess) (numerator, denominator)
  if shifted.2 ≤ shifted.1 then guess + 1 else guess

end Decimal

namespace Binary64

/-- The real numbers that round to a finite positive number, with the bounds as ratios over one
denominator. The ends belong to the interval iff the significand is even. -/
structure RoundingInterval where
  low : Nat
  value : Nat
  high : Nat
  denominator : Nat
  closed : Bool

def roundingInterval (significand : Nat) (exponent : Int) : RoundingInterval :=
  let below := if significand = Nat.pow 2 52 ∧ leastExponent < exponent then 1 else 2
  let unit := scaleRatio 2 (exponent - 2) (1, 1)
  { low := (4 * significand - below) * unit.1
    value := 4 * significand * unit.1
    high := (4 * significand + 2) * unit.1
    denominator := unit.2
    closed := significand % 2 == 0 }

/-- Whether `coefficient · 10 ^ exponent` lies in the interval. -/
def RoundingInterval.contains (interval : RoundingInterval) (coefficient : Nat) (exponent : Int) :
    Bool :=
  let ratio := scaleRatio 10 exponent (coefficient, 1)
  let candidate := ratio.1 * interval.denominator
  if interval.closed then
    interval.low * ratio.2 ≤ candidate && candidate ≤ interval.high * ratio.2
  else interval.low * ratio.2 < candidate && candidate < interval.high * ratio.2

/-- The neighbour of the value on the grid of `10 ^ exponent` that lies in the interval: the nearer
of two, and the even one of two equally near. -/
def RoundingInterval.onGrid? (interval : RoundingInterval) (exponent : Int) : Option Nat :=
  let steps := scaleRatio 10 (-exponent) (interval.value, interval.denominator)
  let below := steps.1 / steps.2
  match interval.contains below exponent, interval.contains (below + 1) exponent with
  | true, true => some (halfEven steps.1 steps.2)
  | true, false => some below
  | false, true => some (below + 1)
  | false, false => none

/-- The decimal with the fewest digits that reads back as the given positive number. -/
def shortestDecimal (significand : Nat) (exponent : Int) : Decimal :=
  let interval := roundingInterval significand exponent
  let point := Decimal.pointOfRatio interval.value interval.denominator
  let found := (List.range 17).findSome? fun extra =>
    let grid := point - (extra + 1 : Nat)
    (interval.onGrid? grid).map fun coefficient => Decimal.ofCoefficient coefficient grid
  found.getD ⟨['0'], 1⟩

/-- A positive number rounded to `count` significant digits, a half going to the even digit. -/
def significantDecimal (count : Nat) (significand : Nat) (exponent : Int) : Decimal :=
  let ratio := magnitude significand exponent
  let grid := Decimal.pointOfRatio ratio.1 ratio.2 - count
  let steps := scaleRatio 10 (-grid) ratio
  Decimal.ofCoefficient (halfEven steps.1 steps.2) grid

end Binary64

end FacetedSearch
