import FacetedSearch.Number.Numeral
import FacetedSearch.Value.Basic

/-!
Reading JSON texts into values. Numbers without fraction and exponent are integers; the names `NaN`,
`Infinity` and `-Infinity` are numbers too; of two entries of one name the later one counts. What a
reader refuses beyond that, long numerals and deep nesting, are its `Limits`. A text is at most as
deep as it is long, so its length bounds the recursion.
-/

namespace FacetedSearch.Json

/-- Why a text is not read. -/
inductive ReadFault where
  | malformed
  | tooLong
  | tooDeep
deriving DecidableEq, Repr

structure Limits where
  /-- How many containers with content may stand inside each other. -/
  depth : Option Nat
  /-- Whether the whole part of a numeral, sign included, is too long; the flag tells integers. -/
  isTooLong : (isInteger : Bool) → (whole : List Char) → Bool

namespace Limits

/-- Everything is read. -/
def unlimited : Limits where
  depth := none
  isTooLong := fun _ _ => false

/-- Texts that describe models. -/
def ofModels : Limits where
  depth := some 200
  isTooLong := fun _ whole => Numeral.digitLimit < whole.length

/-- Texts that stand for arguments. -/
def ofArguments : Limits where
  depth := none
  isTooLong := fun isInteger whole =>
    isInteger && Numeral.digitLimit < whole.countP Numeral.isAsciiDigit

end Limits

def isBlank (c : Char) : Bool := c == ' ' || c == '\n' || c == '\r' || c == '\t'

def skipBlanks (chars : List Char) : List Char := chars.dropWhile isBlank

/-- The rest of a text after a word it starts with. -/
def dropWord? (word : String) (chars : List Char) : Option (List Char) :=
  let expected := word.toList
  if expected.isPrefixOf chars then some (chars.drop expected.length) else none

def hexDigit? (c : Char) : Option Nat :=
  if '0' ≤ c ∧ c ≤ '9' then some (c.toNat - 0x30)
  else if 'a' ≤ c ∧ c ≤ 'f' then some (c.toNat - 0x57)
  else if 'A' ≤ c ∧ c ≤ 'F' then some (c.toNat - 0x37)
  else none

def readUnit? : List Char → Option (Nat × List Char)
  | a :: b :: c :: d :: rest => do
    let digits ← [a, b, c, d].mapM hexDigit?
    some (digits.foldl (fun unit digit => 16 * unit + digit) 0, rest)
  | _ => none

/-- The character of one code unit or of a pair of surrogates. -/
def readEscapedUnit? (chars : List Char) : Option (Char × List Char) := do
  let (unit, rest) ← readUnit? chars
  if 0xd800 ≤ unit ∧ unit < 0xdc00 then
    match rest with
    | '\\' :: 'u' :: rest => do
      let (low, rest) ← readUnit? rest
      if 0xdc00 ≤ low ∧ low < 0xe000 then
        some (Char.ofNat (0x10000 + (unit - 0xd800) * 0x400 + (low - 0xdc00)), rest)
      else none
    | _ => none
  else if 0xdc00 ≤ unit ∧ unit < 0xe000 then none
  else some (Char.ofNat unit, rest)

def simpleEscape? : Char → Option Char
  | '"' => some '"'
  | '\\' => some '\\'
  | '/' => some '/'
  | 'b' => some '\x08'
  | 'f' => some '\x0c'
  | 'n' => some '\n'
  | 'r' => some '\r'
  | 't' => some '\t'
  | _ => none

/-- Reads the characters of a text up to the closing quote. -/
def readText? : Nat → List Char → List Char → Option (String × List Char)
  | 0, _, _ => none
  | _ + 1, _, [] => none
  | fuel + 1, read, c :: rest =>
    if c == '"' then some (String.ofList read.reverse, rest)
    else if c == '\\' then
      match rest with
      | 'u' :: rest => do
        let (c, rest) ← readEscapedUnit? rest
        readText? fuel (c :: read) rest
      | c :: rest => do
        let c ← simpleEscape? c
        readText? fuel (c :: read) rest
      | [] => none
    else if c.toNat < 0x20 then none
    else readText? fuel (c :: read) rest

/-- The whole part of a number: an optional minus and a zero or digits without a leading zero. -/
def wholePart? (chars : List Char) : Option (List Char × List Char) :=
  let (sign, rest) :=
    match chars with
    | '-' :: rest => (['-'], rest)
    | rest => ([], rest)
  match rest with
  | '0' :: rest => some (sign ++ ['0'], rest)
  | rest =>
    let digits := rest.takeWhile Numeral.isAsciiDigit
    if digits.isEmpty then none else some (sign ++ digits, rest.dropWhile Numeral.isAsciiDigit)

/-- The fraction of a number with its point, if there is one. -/
def fractionPart (chars : List Char) : List Char × List Char :=
  match chars with
  | '.' :: rest =>
    let digits := rest.takeWhile Numeral.isAsciiDigit
    if digits.isEmpty then ([], chars) else ('.' :: digits, rest.dropWhile Numeral.isAsciiDigit)
  | _ => ([], chars)

/-- The exponent of a number with its mark, if there is one. -/
def exponentPart (chars : List Char) : List Char × List Char :=
  match chars with
  | e :: rest =>
    if e == 'e' || e == 'E' then
      let (sign, rest) :=
        match rest with
        | '+' :: rest => (['+'], rest)
        | '-' :: rest => (['-'], rest)
        | rest => ([], rest)
      let digits := rest.takeWhile Numeral.isAsciiDigit
      if digits.isEmpty then ([], chars)
      else ('e' :: sign ++ digits, rest.dropWhile Numeral.isAsciiDigit)
    else ([], chars)
  | [] => ([], [])

def orMalformed {α : Type} : Option α → Except ReadFault α
  | some a => .ok a
  | none => .error .malformed

def readNumber (limits : Limits) (chars : List Char) : Except ReadFault (Value × List Char) := do
  let (whole, rest) ← orMalformed (wholePart? chars)
  let (fraction, rest) := fractionPart rest
  let (exponent, rest) := exponentPart rest
  let isInteger := fraction.isEmpty && exponent.isEmpty
  if limits.isTooLong isInteger whole then throw .tooLong
  if isInteger then return (.int (Numeral.wholeValue whole), rest)
  return (.float (← orMalformed (Numeral.readReal? (whole ++ fraction ++ exponent))), rest)

def readWord? (chars : List Char) : Option (Value × List Char) :=
  let words : List (String × Value) :=
    [("null", .null), ("true", .bool true), ("false", .bool false), ("NaN", .float .nan),
      ("Infinity", .float (.infinite false)), ("-Infinity", .float (.infinite true))]
  words.findSome? fun word => (dropWord? word.1 chars).map fun rest => (word.2, rest)

/-- A value that is no container: a text, a word or a number. -/
def readPlain (limits : Limits) (chars : List Char) : Except ReadFault (Value × List Char) :=
  match chars with
  | '"' :: rest => do
    let (text, rest) ← orMalformed (readText? (rest.length + 1) [] rest)
    return (.str text, rest)
  | chars =>
    match readWord? chars with
    | some read => .ok read
    | none => readNumber limits chars

mutual

/-- Reads a value; the room says how many containers with content may still be entered. -/
def readValue (limits : Limits) :
    (fuel room : Nat) → List Char → Except ReadFault (Value × List Char)
  | 0, _, _ => .error .malformed
  | fuel + 1, room, chars =>
    match skipBlanks chars with
    | '[' :: rest =>
      match skipBlanks rest, room with
      | ']' :: rest, _ => .ok (.list [], rest)
      | _, 0 => .error .tooDeep
      | rest, room + 1 => do
        let (items, rest) ← readItems limits fuel room rest
        return (.list items, rest)
    | '\x7b' :: rest =>
      match skipBlanks rest, room with
      | '\x7d' :: rest, _ => .ok (.object [], rest)
      | _, 0 => .error .tooDeep
      | rest, room + 1 => do
        let (entries, rest) ← readEntries limits fuel room rest
        return (.object (Entries.ofList entries), rest)
    | chars => readPlain limits chars

def readItems (limits : Limits) :
    (fuel room : Nat) → List Char → Except ReadFault (List Value × List Char)
  | 0, _, _ => .error .malformed
  | fuel + 1, room, chars => do
    let (item, rest) ← readValue limits fuel room chars
    match skipBlanks rest with
    | ',' :: rest => do
      let (items, rest) ← readItems limits fuel room rest
      return (item :: items, rest)
    | ']' :: rest => return ([item], rest)
    | _ => throw .malformed

def readEntries (limits : Limits) :
    (fuel room : Nat) → List Char → Except ReadFault (List (String × Value) × List Char)
  | 0, _, _ => .error .malformed
  | fuel + 1, room, chars => do
    match skipBlanks chars with
    | '"' :: rest => do
      let (name, rest) ← orMalformed (readText? (rest.length + 1) [] rest)
      match skipBlanks rest with
      | ':' :: rest => do
        let (value, rest) ← readValue limits fuel room rest
        match skipBlanks rest with
        | ',' :: rest => do
          let (entries, rest) ← readEntries limits fuel room rest
          return ((name, value) :: entries, rest)
        | '\x7d' :: rest => return ([(name, value)], rest)
        | _ => throw .malformed
      | _ => throw .malformed
    | _ => throw .malformed

end

/-- The value that a JSON text holds. -/
def read (limits : Limits) (text : String) : Except ReadFault Value := do
  let chars := text.toList
  let (value, rest) ←
    readValue limits (2 * chars.length + 1) (limits.depth.getD chars.length) chars
  if (skipBlanks rest).isEmpty then return value
  throw .malformed

end FacetedSearch.Json
