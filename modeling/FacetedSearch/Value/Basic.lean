import FacetedSearch.Entries
import FacetedSearch.Number.Binary64

/-!
Values as documents, definitions and responses hold them. A tuple differs from a list only where an
operation tells them apart; a set of texts is kept sorted and without repeats.
-/

namespace FacetedSearch

inductive Value where
  | null
  | bool (flag : Bool)
  | int (i : Int)
  | float (x : Binary64)
  | str (text : String)
  | list (items : List Value)
  | tuple (items : List Value)
  | set (members : List String)
  | object (entries : List (String × Value))
deriving Repr, Inhabited

namespace Value

mutual

def decEq : (a b : Value) → Decidable (a = b)
  | .null, .null => isTrue rfl
  | .bool a, .bool b => decidable_of_iff (a = b) (by simp)
  | .int a, .int b => decidable_of_iff (a = b) (by simp)
  | .float a, .float b => decidable_of_iff (a = b) (by simp)
  | .str a, .str b => decidable_of_iff (a = b) (by simp)
  | .list a, .list b => @decidable_of_iff _ (a = b) (by simp) (decEqItems a b)
  | .tuple a, .tuple b => @decidable_of_iff _ (a = b) (by simp) (decEqItems a b)
  | .set a, .set b => decidable_of_iff (a = b) (by simp)
  | .object a, .object b => @decidable_of_iff _ (a = b) (by simp) (decEqEntries a b)
  | .null, .bool _ | .null, .int _ | .null, .float _ | .null, .str _ | .null, .list _
  | .null, .tuple _ | .null, .set _ | .null, .object _ => isFalse (by simp)
  | .bool _, .null | .bool _, .int _ | .bool _, .float _ | .bool _, .str _ | .bool _, .list _
  | .bool _, .tuple _ | .bool _, .set _ | .bool _, .object _ => isFalse (by simp)
  | .int _, .null | .int _, .bool _ | .int _, .float _ | .int _, .str _ | .int _, .list _
  | .int _, .tuple _ | .int _, .set _ | .int _, .object _ => isFalse (by simp)
  | .float _, .null | .float _, .bool _ | .float _, .int _ | .float _, .str _ | .float _, .list _
  | .float _, .tuple _ | .float _, .set _ | .float _, .object _ => isFalse (by simp)
  | .str _, .null | .str _, .bool _ | .str _, .int _ | .str _, .float _ | .str _, .list _
  | .str _, .tuple _ | .str _, .set _ | .str _, .object _ => isFalse (by simp)
  | .list _, .null | .list _, .bool _ | .list _, .int _ | .list _, .float _ | .list _, .str _
  | .list _, .tuple _ | .list _, .set _ | .list _, .object _ => isFalse (by simp)
  | .tuple _, .null | .tuple _, .bool _ | .tuple _, .int _ | .tuple _, .float _ | .tuple _, .str _
  | .tuple _, .list _ | .tuple _, .set _ | .tuple _, .object _ => isFalse (by simp)
  | .set _, .null | .set _, .bool _ | .set _, .int _ | .set _, .float _ | .set _, .str _
  | .set _, .list _ | .set _, .tuple _ | .set _, .object _ => isFalse (by simp)
  | .object _, .null | .object _, .bool _ | .object _, .int _ | .object _, .float _
  | .object _, .str _ | .object _, .list _ | .object _, .tuple _ | .object _, .set _ =>
    isFalse (by simp)

def decEqItems : (a b : List Value) → Decidable (a = b)
  | [], [] => isTrue rfl
  | [], _ :: _ => isFalse (by simp)
  | _ :: _, [] => isFalse (by simp)
  | a :: as, b :: bs =>
    match decEq a b, decEqItems as bs with
    | isTrue h, isTrue hs => isTrue (by rw [h, hs])
    | isFalse h, _ => isFalse (by simp [h])
    | _, isFalse h => isFalse (by simp [h])

def decEqEntries : (a b : List (String × Value)) → Decidable (a = b)
  | [], [] => isTrue rfl
  | [], _ :: _ => isFalse (by simp)
  | _ :: _, [] => isFalse (by simp)
  | (k, a) :: as, (l, b) :: bs =>
    match decEq a b, decEqEntries as bs with
    | isTrue h, isTrue hs => decidable_of_iff (k = l) (by simp [h, hs])
    | isFalse h, _ => isFalse (by simp [h])
    | _, isFalse h => isFalse (by simp [h])

end

instance : DecidableEq Value := decEq

/-- Whether a value counts as given: empty texts and containers, zero, `false` and null do not. -/
def isTruthy : Value → Bool
  | .null => false
  | .bool flag => flag
  | .int i => i != 0
  | .float x => !x.isZero
  | .str text => !text.isEmpty
  | .list items => !items.isEmpty
  | .tuple items => !items.isEmpty
  | .set members => !members.isEmpty
  | .object entries => !entries.isEmpty

/-- The first value if it counts as given, else the second. -/
def orElse (value other : Value) : Value := if value.isTruthy then value else other

def nullable {α : Type} (encode : α → Value) : Option α → Value
  | some a => encode a
  | none => .null

def isObject : Value → Bool
  | .object _ => true
  | _ => false

def entries? : Value → Option (Entries Value)
  | .object entries => some entries
  | _ => none

def text? : Value → Option String
  | .str text => some text
  | _ => none

/-- The elements of a list or a tuple. -/
def sequence? : Value → Option (List Value)
  | .list items => some items
  | .tuple items => some items
  | _ => none

/-- What a walk over a value visits: elements, the characters of a text, the names of an object. -/
def visited? : Value → Option (List Value)
  | .list items => some items
  | .tuple items => some items
  | .str text => some (text.toList.map fun c => .str (String.singleton c))
  | .set members => some (members.map .str)
  | .object entries => some (entries.map fun entry => .str entry.1)
  | _ => none

/-- The value under a name; null where there is none. -/
def member (entries : Entries Value) (name : String) : Value := (entries.find? name).getD .null

/-- Follows names through objects; null as soon as there is no object to look into. -/
def path (value : Value) : List String → Value
  | [] => value
  | name :: names =>
    match value with
    | .object entries => (member entries name).path names
    | _ => .null

/-- A value as a list: null is empty, a list or tuple gives its elements, any other itself. -/
def asList : Value → List Value
  | .null => []
  | .list items => items
  | .tuple items => items
  | value => [value]

/-- The integer a number or truth value stands for. -/
def whole? : Value → Option Int
  | .bool flag => some (if flag then 1 else 0)
  | .int i => some i
  | .float x => x.toInt?
  | _ => none

mutual

/-- Whether a value can be a key: lists, sets and objects cannot. -/
def isKey : Value → Bool
  | .list _ => false
  | .set _ => false
  | .object _ => false
  | .tuple items => areKeys items
  | _ => true

def areKeys : List Value → Bool
  | [] => true
  | value :: rest => value.isKey && areKeys rest

end

mutual

/-- Whether two values are one key: numbers and truth values are compared as numbers. -/
def sameKey : Value → Value → Bool
  | .null, .null => true
  | .str a, .str b => a == b
  | .float a, .float b => a.sameNumber b
  | .tuple as, .tuple bs => sameKeys as bs
  | a, b =>
    match a.whole?, b.whole? with
    | some i, some j => i == j
    | _, _ => false

def sameKeys : List Value → List Value → Bool
  | [], [] => true
  | a :: as, b :: bs => a.sameKey b && sameKeys as bs
  | _, _ => false

end

end Value

end FacetedSearch
