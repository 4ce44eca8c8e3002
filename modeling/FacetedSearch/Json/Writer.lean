import FacetedSearch.Number.Format
import FacetedSearch.Value.Basic

/-!
JSON texts of values. A `JsonStyle` holds the decisions: separators, which characters are escaped,
how numbers are written and whether the text is laid out in lines.
-/

namespace FacetedSearch

structure JsonStyle where
  itemSeparator : String
  nameSeparator : String
  numbers : NumberFormat
  /-- Whether a character beyond the escaped ones is written by its code units. -/
  escapes : Char → Bool
  /-- The number of blanks a level is set in by, when the text is laid out in lines. -/
  indent : Option Nat

namespace JsonStyle

/-- One line with blanks after separators, in ASCII only. -/
def spaced : JsonStyle where
  itemSeparator := ", "
  nameSeparator := ": "
  numbers := NumberFormat.display.json
  escapes := fun c => 0x7f ≤ c.toNat
  indent := none

/-- One line without blanks. -/
def compact : JsonStyle where
  itemSeparator := ","
  nameSeparator := ":"
  numbers := NumberFormat.compact
  escapes := fun _ => false
  indent := none

/-- One line an item, set in by the given number of blanks a level. -/
def lines (indent : Nat) : JsonStyle :=
  { compact with nameSeparator := ": ", indent := some indent }

def codeUnit (unit : Nat) : List Char :=
  '\\' :: 'u' :: NumberFormat.padLeft 4 (Nat.toDigits 16 unit)

/-- The code units of a character: beyond the first plane, a pair of surrogates. -/
def codeUnits (c : Char) : List Char :=
  if c.toNat < 0x10000 then codeUnit c.toNat
  else
    let offset := c.toNat - 0x10000
    codeUnit (0xd800 + offset / 0x400) ++ codeUnit (0xdc00 + offset % 0x400)

def escapeChar (style : JsonStyle) (c : Char) : List Char :=
  if c == '"' then ['\\', '"']
  else if c == '\\' then ['\\', '\\']
  else if c == '\n' then ['\\', 'n']
  else if c == '\r' then ['\\', 'r']
  else if c == '\t' then ['\\', 't']
  else if c == '\x08' then ['\\', 'b']
  else if c == '\x0c' then ['\\', 'f']
  else if c.toNat < 0x20 || style.escapes c then codeUnits c
  else [c]

def writeText (style : JsonStyle) (text : String) : String :=
  String.ofList ('"' :: text.toList.flatMap style.escapeChar ++ ['"'])

/-- A list or an object from its written parts. -/
def enclose (style : JsonStyle) (depth : Nat) (opening closing : String) (parts : List String) :
    String :=
  match style.indent with
  | none => opening ++ style.itemSeparator.intercalate parts ++ closing
  | some width =>
    if parts.isEmpty then opening ++ closing
    else
      let margin := fun level => "\n" ++ String.ofList (List.replicate (width * level) ' ')
      let inner := margin (depth + 1)
      opening ++ inner ++ (style.itemSeparator ++ inner).intercalate parts ++ margin depth ++ closing

mutual

def writeAt (style : JsonStyle) (depth : Nat) : Value → String
  | .null => "null"
  | .bool flag => if flag then "true" else "false"
  | .int i => toString i
  | .float x => style.numbers.write x
  | .str text => style.writeText text
  | .list items => style.enclose depth "[" "]" (style.writeItems (depth + 1) items)
  | .tuple items => style.enclose depth "[" "]" (style.writeItems (depth + 1) items)
  | .set members => style.enclose depth "[" "]" (members.map style.writeText)
  | .object entries => style.enclose depth "\x7b" "\x7d" (style.writeEntries (depth + 1) entries)

def writeItems (style : JsonStyle) (depth : Nat) : List Value → List String
  | [] => []
  | item :: rest => style.writeAt depth item :: style.writeItems depth rest

def writeEntries (style : JsonStyle) (depth : Nat) : List (String × Value) → List String
  | [] => []
  | (name, value) :: rest =>
    (style.writeText name ++ style.nameSeparator ++ style.writeAt depth value) ::
      style.writeEntries depth rest

end

def write (style : JsonStyle) (value : Value) : String := style.writeAt 0 value

end JsonStyle

end FacetedSearch
