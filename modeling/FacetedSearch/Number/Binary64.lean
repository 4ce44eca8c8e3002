/-!
Binary floating-point numbers of 64 bits as exact data: a finite number is a sign, a significand
and a power of two. Every rounding goes through `ofRatio`, which takes the nearest number and on a
tie the even significand.
-/

namespace FacetedSearch

inductive Binary64 where
  | nan
  | infinite (negative : Bool)
  | finite (negative : Bool) (significand : Nat) (exponent : Int)
deriving DecidableEq, Repr, Inhabited

/-- The integer nearest to `numerator / denominator`, the even one on a tie. -/
def halfEven (numerator denominator : Nat) : Nat :=
  let quotient := numerator / denominator
  let twice := 2 * (numerator % denominator)
  if twice < denominator then quotient
  else if twice = denominator then quotient + quotient % 2
  else quotient + 1

/-- The ratio multiplied by `base ^ shift`, as a ratio of natural numbers. -/
def scaleRatio (base : Nat) (shift : Int) (ratio : Nat × Nat) : Nat × Nat :=
  if 0 ≤ shift then (ratio.1 * Nat.pow base shift.toNat, ratio.2)
  else (ratio.1, ratio.2 * Nat.pow base (-shift).toNat)

/-- The greatest `e` with `2 ^ e ≤ numerator / denominator`, for a positive ratio. -/
def floorLog2 (numerator denominator : Nat) : Int :=
  let guess := (Nat.log2 numerator : Int) - Nat.log2 denominator
  let shifted := scaleRatio 2 (-guess) (numerator, denominator)
  if shifted.2 ≤ shifted.1 then guess else guess - 1

def decimalLength (n : Nat) : Nat := (Nat.toDigits 10 n).length

namespace Binary64

def leastExponent : Int := -1074

def greatestExponent : Int := 971

def zero (negative : Bool) : Binary64 := .finite negative 0 leastExponent

/-- The number nearest to a ratio, or an infinity when the ratio is beyond the greatest one. -/
def ofRatio (negative : Bool) (numerator denominator : Nat) : Binary64 :=
  if numerator = 0 then zero negative
  else
    let exponent := max (floorLog2 numerator denominator - 52) leastExponent
    let shifted := scaleRatio 2 (-exponent) (numerator, denominator)
    let significand := halfEven shifted.1 shifted.2
    let carried := significand = Nat.pow 2 53
    let exponent := if carried then exponent + 1 else exponent
    let significand := if carried then Nat.pow 2 52 else significand
    if greatestExponent < exponent then .infinite negative
    else .finite negative significand exponent

def ofInt (i : Int) : Binary64 := ofRatio (i < 0) i.natAbs 1

/-- `coefficient * 10 ^ exponent` rounded; far exponents are settled without the power. -/
def ofDecimal (negative : Bool) (coefficient : Nat) (exponent : Int) : Binary64 :=
  let point := exponent + decimalLength coefficient
  if coefficient = 0 then zero negative
  else if 310 < point then .infinite negative
  else if point < -330 then zero negative
  else
    let ratio := scaleRatio 10 exponent (coefficient, 1)
    ofRatio negative ratio.1 ratio.2

/-- The magnitude of a finite number as a ratio. -/
def magnitude (significand : Nat) (exponent : Int) : Nat × Nat :=
  scaleRatio 2 exponent (significand, 1)

def isFinite : Binary64 → Bool
  | .finite .. => true
  | _ => false

def isZero : Binary64 → Bool
  | .finite _ significand _ => significand == 0
  | _ => false

/-- Zero or below; not-a-number is on neither side. -/
def isNonPositive : Binary64 → Bool
  | .nan => false
  | .infinite negative => negative
  | .finite negative significand _ => negative || significand == 0

/-- The integer part toward zero of a finite number. -/
def truncate? : Binary64 → Option Int
  | .finite negative significand exponent =>
    let ratio := magnitude significand exponent
    let whole : Int := ratio.1 / ratio.2
    some (if negative then -whole else whole)
  | _ => none

/-- The integer a number equals, if it is one. -/
def toInt? : Binary64 → Option Int
  | .finite negative significand exponent =>
    let ratio := magnitude significand exponent
    if ratio.1 % ratio.2 = 0 then
      let whole : Int := (ratio.1 / ratio.2 : Nat)
      some (if negative then -whole else whole)
    else none
  | _ => none

def divide (x : Binary64) (divisor : Nat) : Binary64 :=
  match x with
  | .finite negative significand exponent =>
    let ratio := magnitude significand exponent
    ofRatio negative ratio.1 (ratio.2 * divisor)
  | other => other

/-- An integer over a positive divisor, rounded once. -/
def ofQuotient (i : Int) (divisor : Nat) : Binary64 := ofRatio (i < 0) i.natAbs divisor

/-- Equality of the numbers meant: both zeros are one number and not-a-number equals nothing. -/
def sameNumber : Binary64 → Binary64 → Bool
  | .nan, _ => false
  | .finite n s e, .finite n' s' e' => (s == 0 && s' == 0) || (n == n' && s == s' && e == e')
  | x, y => x == y

end Binary64

end FacetedSearch
