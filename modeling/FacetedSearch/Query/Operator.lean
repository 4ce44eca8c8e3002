import FacetedSearch.Text.Blank
import FacetedSearch.Text.Uppercase

/-!
The words of conditions. Operators and conjunctions are read in any letter case, operators also with
any blanks between their words.
-/

namespace FacetedSearch

inductive Operator where
  | equal
  | notEqual
  | isIn
  | notIn
  | greater
  | greaterEqual
  | less
  | lessEqual
  | between
  | notBetween
deriving DecidableEq, Repr

namespace Operator

def all : List Operator :=
  [.equal, .notEqual, .isIn, .notIn, .greater, .greaterEqual, .less, .lessEqual, .between,
    .notBetween]

def word : Operator → String
  | .equal => "="
  | .notEqual => "<>"
  | .isIn => "IN"
  | .notIn => "NOT IN"
  | .greater => ">"
  | .greaterEqual => ">="
  | .less => "<"
  | .lessEqual => "<="
  | .between => "BETWEEN"
  | .notBetween => "NOT BETWEEN"

def ofWord? (word : String) : Option Operator := all.find? (·.word == word)

/-- The form in which the words of an operator are compared. -/
def normalize (text : String) : String := Text.uppercase (Text.singleSpaced text)

theorem ofWord?_word (operator : Operator) : ofWord? operator.word = some operator := by
  cases operator <;> decide

end Operator

inductive Conjunction where
  | and
  | or
deriving DecidableEq, Repr

namespace Conjunction

def word : Conjunction → String
  | .and => "AND"
  | .or => "OR"

def ofWord? (word : String) : Option Conjunction :=
  if word = "AND" then some .and else if word = "OR" then some .or else none

theorem ofWord?_word (conjunction : Conjunction) :
    ofWord? conjunction.word = some conjunction := by
  cases conjunction <;> decide

end Conjunction

end FacetedSearch
