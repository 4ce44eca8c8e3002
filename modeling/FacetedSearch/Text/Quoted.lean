import FacetedSearch.Number.Format
import FacetedSearch.Text.Printable

/-!
Texts in quotes, as messages show them. The quote is an apostrophe unless the text holds an
apostrophe and no double quote; characters that do not print are written by their code point.
-/

namespace FacetedSearch.Text

def apostrophe : Char := '\x27'

def quoteFor (chars : List Char) : Char :=
  if chars.contains apostrophe && !chars.contains '"' then '"' else apostrophe

def hexCode (width : Nat) (c : Char) : List Char :=
  NumberFormat.padLeft width (Nat.toDigits 16 c.toNat)

def escapeChar (quote c : Char) : List Char :=
  if c == quote || c == '\\' then ['\\', c]
  else if c == '\n' then ['\\', 'n']
  else if c == '\r' then ['\\', 'r']
  else if c == '\t' then ['\\', 't']
  else if isPrintable c then [c]
  else if c.toNat < 0x100 then '\\' :: 'x' :: hexCode 2 c
  else if c.toNat < 0x10000 then '\\' :: 'u' :: hexCode 4 c
  else '\\' :: 'U' :: hexCode 8 c

def quoted (s : String) : String :=
  let chars := s.toList
  let quote := quoteFor chars
  String.ofList (quote :: chars.flatMap (escapeChar quote) ++ [quote])

end FacetedSearch.Text
