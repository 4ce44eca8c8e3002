/-!
Blank characters. Texts are split and trimmed at `isBlank`; numerals may stand between characters
of `isNumeralBlank`, which leaves out the four ASCII separators.
-/

namespace FacetedSearch.Text

/-- The blank characters beyond ASCII. -/
def wideBlanks : List Nat :=
  [0x85, 0xa0, 0x1680, 0x2000, 0x2001, 0x2002, 0x2003, 0x2004, 0x2005, 0x2006, 0x2007, 0x2008,
    0x2009, 0x200a, 0x2028, 0x2029, 0x202f, 0x205f, 0x3000]

def isNumeralBlank (c : Char) : Bool :=
  c.toNat == 0x20 || (0x09 ≤ c.toNat && c.toNat ≤ 0x0d) || wideBlanks.contains c.toNat

def isBlank (c : Char) : Bool := isNumeralBlank c || (0x1c ≤ c.toNat && c.toNat ≤ 0x1f)

def trimBy (blank : Char → Bool) (chars : List Char) : List Char :=
  ((chars.dropWhile blank).reverse.dropWhile blank).reverse

def trim (s : String) : String := String.ofList (trimBy isBlank s.toList)

/-- The words of a text: its maximal runs of characters that are not blank. -/
def words (s : String) : List (List Char) :=
  (s.toList.splitBy fun a b => isBlank a == isBlank b).filter fun run => !run.all isBlank

/-- The words of a text with one space between them. -/
def singleSpaced (s : String) : String := " ".intercalate ((words s).map String.ofList)

end FacetedSearch.Text
