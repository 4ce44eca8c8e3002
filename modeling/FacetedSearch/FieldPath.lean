import FacetedSearch.Value.Basic

/-!
Field ids and the dotted paths they stand for. In an id two underscores separate the segments of a
path just as a dot does.
-/

namespace FacetedSearch.FieldPath

def separator : String := "__"

def dotChars : List Char → List Char
  | '_' :: '_' :: rest => '.' :: dotChars rest
  | c :: rest => c :: dotChars rest
  | [] => []

/-- The dotted path of a field id. -/
def dotted (id : String) : String := String.ofList (dotChars id.toList)

def isNoDot (c : Char) : Bool := c != '.'

/-- The first segment of a path. -/
def root (id : String) : String := String.ofList ((dotChars id.toList).takeWhile isNoDot)

/-- The last segment of a path. -/
def baseName (id : String) : String :=
  String.ofList ((dotChars id.toList).reverse.takeWhile isNoDot).reverse

/-- A name under a path; the empty path adds nothing to it. -/
def extend (separator path name : String) : String :=
  if path.isEmpty then name else path ++ separator ++ name

mutual

/-- The values below a path that are not objects, with their own paths. -/
def leavesUnder (separator path : String) : Value → List (String × Value)
  | .object entries => leavesOf separator path entries
  | value => [(path, value)]

def leavesOf (separator path : String) : List (String × Value) → List (String × Value)
  | [] => []
  | (name, value) :: rest =>
    leavesUnder separator (extend separator path name) value ++ leavesOf separator path rest

end

/-- An object in one level: each path with its last leaf. -/
def flatten (source : Entries Value) (separator : String := separator) (path : String := "") :
    Entries Value :=
  Entries.ofList (leavesOf separator path source)

end FacetedSearch.FieldPath
