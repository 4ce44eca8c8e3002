import FacetedSearch.Number.Binary64
import FacetedSearch.Text.Blank
import FacetedSearch.Text.Digit

/-!
Numerals in texts. The liberal readings take the decimal digits of every script, blanks around the
numeral and single underscores between digits; the field readings take ASCII digits only and
forgive leading zeros and a zero fraction.
-/

namespace FacetedSearch.Numeral

/-- The longest numeral an integer is read from, counted in digits. -/
def digitLimit : Nat := 4300

def valueOfDigits (digits : List Nat) : Nat :=
  digits.foldl (fun value digit => 10 * value + digit) 0

/-- Splits off a sign; the flag says whether it is a minus. -/
def splitSign : List Char → Bool × List Char
  | '-' :: rest => (true, rest)
  | '+' :: rest => (false, rest)
  | chars => (false, chars)

/-- The digits of all scripts as ASCII digits; any other character beyond ASCII is refused. -/
def toAscii? (chars : List Char) : Option (List Char) :=
  chars.mapM fun c =>
    if c.toNat < 0x80 then some c
    else if Text.isNumeralBlank c then some ' '
    else (Text.digit? c).map fun digit => Char.ofNat (0x30 + digit)

def isAsciiDigit (c : Char) : Bool := (Text.asciiDigit? c).isSome

/-- Drops the underscores that stand between two digits; refuses any other underscore. -/
def dropUnderscores? : List Char → Option (List Char)
  | [] => some []
  | '_' :: _ => none
  | c :: '_' :: d :: rest =>
    if isAsciiDigit c && isAsciiDigit d then (dropUnderscores? (d :: rest)).map (c :: ·) else none
  | c :: rest => (dropUnderscores? rest).map (c :: ·)

/-- The trimmed ASCII form of a liberal numeral, with its underscores dropped. -/
def liberal? (s : String) : Option (List Char) := do
  let ascii ← toAscii? s.toList
  dropUnderscores? (Text.trimBy Text.isNumeralBlank ascii)

def digits? (chars : List Char) : Option (List Nat) :=
  if chars.isEmpty then none else chars.mapM Text.asciiDigit?

/-- Reads an integer the liberal way. -/
def readInt? (s : String) : Option Int := do
  let (negative, rest) := splitSign (← liberal? s)
  let digits ← digits? rest
  if digitLimit < digits.length then none
  else
    let value : Int := valueOfDigits digits
    some (if negative then -value else value)

/-- An unsigned decimal `digits.digits`, with a digit on one side of the point at least, and an
optional exponent. -/
def readDecimal? (negative : Bool) (chars : List Char) : Option Binary64 := do
  let whole := chars.takeWhile isAsciiDigit
  let rest := chars.dropWhile isAsciiDigit
  let (fraction, rest) :=
    match rest with
    | '.' :: rest => (rest.takeWhile isAsciiDigit, rest.dropWhile isAsciiDigit)
    | rest => ([], rest)
  let digits ← digits? (whole ++ fraction)
  let exponent ←
    match rest with
    | [] => some 0
    | e :: rest =>
      if e == 'e' || e == 'E' then do
        let (down, rest) := splitSign rest
        let size : Int := valueOfDigits (← digits? rest)
        some (if down then -size else size)
      else none
  some (Binary64.ofDecimal negative (valueOfDigits digits) (exponent - fraction.length))

/-- Reads a number, an infinity or not-a-number from ASCII characters without blanks. -/
def readReal? (chars : List Char) : Option Binary64 :=
  let (negative, rest) := splitSign chars
  let word := rest.map Char.toLower
  if word == "inf".toList || word == "infinity".toList then some (.infinite negative)
  else if word == "nan".toList then some .nan
  else readDecimal? negative rest

/-- Reads a floating-point number the liberal way. -/
def readFloat? (s : String) : Option Binary64 := do readReal? (← liberal? s)

/-! Readings of model fields. -/

/-- Drops all underscores when there are some and they neither begin nor end the text nor repeat. -/
def joinFieldDigits? (chars : List Char) : Option (List Char) :=
  let pairs := chars.zip (chars.drop 1)
  if chars.contains '_' && chars.head? != some '_' && chars.getLast? != some '_'
      && !pairs.contains ('_', '_') then some (chars.filter (· != '_'))
  else none

/-- The integer of a minus, if there is one, and digits. -/
def wholeValue (whole : List Char) : Int :=
  let (negative, digits) := splitSign whole
  let value : Int := valueOfDigits (digits.filterMap Text.asciiDigit?)
  if negative then -value else value

/-- A plain integer: an optional minus and digits without a leading zero, in no more characters
than the limit. -/
def plainInt? (chars : List Char) : Option Int := do
  let digits :=
    match chars with
    | '-' :: rest => rest
    | chars => chars
  let _ ← digits? digits
  if digitLimit < chars.length then none
  else if digits.head? == some '0' && 1 < digits.length then none
  else some (wholeValue chars)

/-- Drops leading zeros, and underscores among them; before a point the last of them stays. A minus
may stand after the zeros. -/
def dropLeadingZeros? : List Char → Option (List Char)
  | [] => none
  | '0' :: rest =>
    let leading := fun c => c == '0' || c == '_'
    let last := (rest.takeWhile leading).getLast?.getD '0'
    match rest.dropWhile leading with
    | [] => some [last]
    | '.' :: tail => some (last :: '.' :: tail)
    | c :: tail => if isAsciiDigit c || c == '-' then some (c :: tail) else none
  | c :: rest => if isAsciiDigit c then some (c :: rest) else none

/-- Drops a fraction that consists of zeros, of which there must be one at least. -/
def dropZeroFraction (chars : List Char) : List Char :=
  match chars.dropWhile (· != '.') with
  | '.' :: '0' :: zeros => if zeros.all (· == '0') then chars.takeWhile (· != '.') else chars
  | _ => chars

/-- Drops what a plain integer has none of after its sign: leading zeros, a zero fraction and
underscores. -/
def shortened? (digits : List Char) : Option (List Char) := do
  let short := dropZeroFraction (← dropLeadingZeros? digits)
  some ((joinFieldDigits? short).getD short)

/-- Reads an integer field: a plain integer, or one that becomes plain when it is shortened and a
leading plus is dropped. -/
def readIntField? (s : String) : Option Int :=
  let chars := Text.trimBy Text.isNumeralBlank s.toList
  (plainInt? chars).or <|
    match chars with
    | '+' :: '-' :: _ => none
    | '+' :: digits => (shortened? digits).bind plainInt?
    | '-' :: digits => (shortened? digits).bind fun digits => plainInt? ('-' :: digits)
    | digits => (shortened? digits).bind plainInt?

/-- Reads a number field: a plain number with blanks around it, or one with underscores. -/
def readFloatField? (s : String) : Option Binary64 :=
  (readReal? (Text.trimBy Text.isNumeralBlank s.toList)).or <| do
    readReal? (← joinFieldDigits? s.toList)

end FacetedSearch.Numeral
