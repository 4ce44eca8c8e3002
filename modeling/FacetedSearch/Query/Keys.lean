import FacetedSearch.Fault
import FacetedSearch.Query.Condition

/-!
Full-text keys: groups of terms and groups. Keys may come as one text, as a list of terms or as a
group; all of them mean a group.
-/

namespace FacetedSearch

inductive ParseMode where
  | direct
  | phrase
  | terms
deriving DecidableEq, Repr

namespace ParseMode

def word : ParseMode → String
  | .direct => "direct"
  | .phrase => "phrase"
  | .terms => "terms"

def ofWord? (word : String) : Option ParseMode :=
  [.direct, .phrase, .terms].find? (·.word == word)

def decode? : Decode.Decoder ParseMode := fun value => (Decode.text value).bind ofWord?

end ParseMode

/-- A plain term, or a group of terms and groups. -/
inductive KeyTerm where
  | term (text : String)
  | group (conjunction : Conjunction) (terms : List KeyTerm) (negation : Bool)
deriving Repr

structure FullTextKeys where
  terms : List KeyTerm := []
  conjunction : Conjunction := .and
  negation : Bool := false
deriving Repr

namespace KeyTerm

def ofKeys (keys : FullTextKeys) : KeyTerm := .group keys.conjunction keys.terms keys.negation

def text? : KeyTerm → Option String
  | .term t => some t
  | .group .. => none

def keys? : KeyTerm → Option FullTextKeys
  | .term _ => none
  | .group conjunction terms negation => some { terms, conjunction, negation }

/-- A group from its own entries and its terms. -/
def groupOf? (entries : Entries Value) (terms : List KeyTerm) : Option FullTextKeys := do
  let conjunction ← Decode.defaulted entries "conjunction" .and ConditionTree.decodeConjunction
  let negation ← Decode.defaulted entries "negation" false Decode.flag
  some { terms, conjunction, negation }

mutual

def decode? : Value → Option KeyTerm
  | .str t => some (.term t)
  | .object entries => do
    let keys ← (decodeTermsOf? entries).bind (groupOf? entries)
    some (.ofKeys keys)
  | _ => none

def decodeAll? : List Value → Option (List KeyTerm)
  | [] => some []
  | value :: rest => do
    let term ← decode? value
    let others ← decodeAll? rest
    some (term :: others)

/-- The terms of a group, under the first entry that is called `terms`. -/
def decodeTermsOf? : List (String × Value) → Option (List KeyTerm)
  | [] => some []
  | (name, value) :: rest =>
    if name = "terms" then
      match value with
      | .list items => decodeAll? items
      | .tuple items => decodeAll? items
      | .set texts => some (texts.map .term)
      | _ => none
    else decodeTermsOf? rest

end

mutual

/-- How many groups stand inside each other. -/
def depth : KeyTerm → Nat
  | .term _ => 0
  | .group _ terms _ => depthOfAll terms + 1

def depthOfAll : List KeyTerm → Nat
  | [] => 0
  | t :: rest => max t.depth (depthOfAll rest)

end

mutual

def encode : KeyTerm → Value
  | .term t => .str t
  | .group conjunction terms negation =>
    .object
      [("terms", .list (encodeAll terms)), ("conjunction", .str conjunction.word),
        ("negation", .bool negation)]

def encodeAll : List KeyTerm → List Value
  | [] => []
  | t :: rest => t.encode :: encodeAll rest

end

end KeyTerm

namespace FullTextKeys

/-- Keys whose groups nest too deep are refused. -/
def shallow? (keys : FullTextKeys) : Option FullTextKeys :=
  if (KeyTerm.ofKeys keys).depth ≤ Decode.nestingLimit then some keys else none

def decode? (value : Value) : Option FullTextKeys := do
  let entries ← value.entries?
  shallow? (← KeyTerm.groupOf? entries (← KeyTerm.decodeTermsOf? entries))

def encode (keys : FullTextKeys) : Value := (KeyTerm.ofKeys keys).encode

/-- The plain terms of a group itself. -/
def flatTerms (keys : FullTextKeys) : List String := keys.terms.filterMap KeyTerm.text?

/-- The groups directly in a group. -/
def groups (keys : FullTextKeys) : List FullTextKeys := keys.terms.filterMap KeyTerm.keys?

def ofItems? (items : List Value) : Option FullTextKeys :=
  (KeyTerm.decodeAll? items).bind fun terms => shallow? { terms }

/-- The group that loosely given keys mean: a text is one term, and a walk over any other value
gives its terms. -/
def ofValue? : Value → Outcome (Option FullTextKeys)
  | .null => .ok none
  | .str text => .ok (some { terms := [.term text] })
  | value =>
    match value.visited? with
    | none => .error .wrongKind
    | some items =>
      match ofItems? items with
      | some keys => .ok (some keys)
      | none => .error .invalidData

end FullTextKeys

/-- The keys of a query: a text or a group. -/
inductive QueryKeys where
  | text (text : String)
  | group (keys : FullTextKeys)
deriving Repr

namespace QueryKeys

def decode? : Value → Option QueryKeys
  | .str t => some (.text t)
  | .list items => (FullTextKeys.ofItems? items).map .group
  | .tuple items => (FullTextKeys.ofItems? items).map .group
  | value => (FullTextKeys.decode? value).map .group

def encode : QueryKeys → Value
  | .text t => .str t
  | .group keys => keys.encode

def normalized : QueryKeys → FullTextKeys
  | .text t => { terms := [.term t] }
  | .group keys => keys

end QueryKeys

end FacetedSearch
