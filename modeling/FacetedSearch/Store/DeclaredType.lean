import FacetedSearch.Model

/-!
Declared types of parameters, as far as the conversion of arguments looks at them, and how they are
written.
-/

namespace FacetedSearch

inductive DeclaredType where
  /-- No type, or one that converts nothing. -/
  | plain
  | model (name : String)
  | catalog
  /-- Lists and tuples, by the type of their first element. -/
  | sequence (element : DeclaredType)
  | union (members : List DeclaredType)
deriving Repr

namespace DeclaredType

/-- The depth in brackets after a character. -/
def depthAfter (depth : Nat) (c : Char) : Nat :=
  if c == '[' then depth + 1 else if c == ']' then depth - 1 else depth

/-- The parts of a text between separators that are not inside brackets. -/
def partsOf (separator : Char) : Nat → List Char → List Char → List (List Char)
  | _, part, [] => [part.reverse]
  | depth, part, c :: rest =>
    if c == separator && depth == 0 then part.reverse :: partsOf separator 0 [] rest
    else partsOf separator (depthAfter depth c) (c :: part) rest

def isNoBracket (c : Char) : Bool := c != '['

def ofName (name : String) : DeclaredType :=
  if name = "FieldCatalog" then .catalog
  else if Model.isModelName name then .model name
  else .plain

/-- The first of the arguments in brackets; the text goes on to the closing bracket. -/
def firstArgument (arguments : List Char) : List Char :=
  match partsOf ',' 0 [] arguments with
  | [element] => element.dropLast
  | element :: _ => element
  | [] => []

/-- Reads a type without alternatives: a name, or a form with its arguments in brackets. -/
def readAlone (read : List Char → DeclaredType) (chars : List Char) : DeclaredType :=
  let chars := Text.trimBy Text.isBlank chars
  let name := String.ofList (chars.takeWhile isNoBracket)
  match chars.dropWhile isNoBracket with
  | [] => ofName name
  | _ :: arguments =>
    if name = "list" ∨ name = "tuple" then .sequence (read (firstArgument arguments)) else .plain

/-- Reads a type; a type is at most as deep as its text is long. -/
def read : Nat → List Char → DeclaredType
  | 0, _ => .plain
  | fuel + 1, chars =>
    match partsOf '|' 0 [] chars with
    | [alone] => readAlone (read fuel) alone
    | members => .union (members.map (read fuel))

/-- Reads a type as it is written: names, `list[…]`, `tuple[…]` and members between bars. -/
def ofText (text : String) : DeclaredType := read (text.length + 1) text.toList

end DeclaredType

end FacetedSearch
