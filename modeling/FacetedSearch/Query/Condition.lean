import FacetedSearch.Decode
import FacetedSearch.Query.Operator
import FacetedSearch.Text.Split
import FacetedSearch.Value.Argument

/-!
Filter conditions and their groups. A member of a group is read as a condition and as a group, and
the reading that uses more fields counts; where both use as many, it is a condition.
-/

namespace FacetedSearch

structure Condition where
  field : String
  op : String := Operator.equal.word
  value : Value := .null
deriving DecidableEq, Repr

namespace Condition

inductive ValueKind where
  | absent
  | scalar
  | list
  | pair
deriving DecidableEq, Repr

def ValueKind.word : ValueKind → String
  | .absent => "absent"
  | .scalar => "scalar"
  | .list => "list"
  | .pair => "pair"

/-- Operators come in any case and spacing; those that are not texts are refused. -/
def decodeOp : Decode.Decoder String := fun value => (Decode.text value).map Operator.normalize

/-- Anything but an object; a set becomes a list. -/
def decodeValue : Decode.Decoder Value
  | .object _ => none
  | .set members => some (.list (members.map .str))
  | value => some value

def ofEntries? (entries : Entries Value) : Option Condition := do
  let field ← Decode.required entries "field" Decode.text
  let op ← Decode.defaulted entries "op" Operator.equal.word decodeOp
  let value ← Decode.defaulted entries "value" .null decodeValue
  some { field, op, value }

def decode? (value : Value) : Option Condition := value.entries?.bind ofEntries?

def encode (condition : Condition) : Value :=
  .object [("field", .str condition.field), ("op", .str condition.op), ("value", condition.value)]

def operator? (condition : Condition) : Option Operator := Operator.ofWord? condition.op

def valueKind (condition : Condition) : ValueKind :=
  match condition.value with
  | .null => .absent
  | .list _ | .tuple _ =>
    match condition.operator? with
    | some .between | some .notBetween => .pair
    | _ => .list
  | _ => .scalar

def text (condition : Condition) : String :=
  condition.field ++ " " ++ condition.op ++ " " ++ condition.value.argumentText

/-- The number of fields of a condition that are given. -/
def givenFields (entries : Entries Value) : Nat :=
  ["field", "op", "value"].countP entries.contains

end Condition

/-- A condition, or a group of conditions and groups. -/
inductive ConditionTree where
  | condition (condition : Condition)
  | group (conjunction : Conjunction) (members : List ConditionTree) (tags : List String)
deriving Repr

/-- A set of texts as a sorted list without repeats. -/
def sortedSet (texts : List String) : List String :=
  texts.eraseDups.mergeSort (fun a b => decide (a ≤ b))

/-- The condition tree of a query. Its tags are sorted and pairwise distinct. -/
structure ConditionGroup where
  conjunction : Conjunction := .and
  members : List ConditionTree := []
  tags : List String := []
deriving Repr

namespace ConditionTree

def ofGroup (group : ConditionGroup) : ConditionTree :=
  .group group.conjunction group.members group.tags

def decodeConjunction : Decode.Decoder Conjunction :=
  fun value => (Decode.text value).bind fun word => Conjunction.ofWord? (Text.uppercase word)

def decodeTags : Decode.Decoder (List String) :=
  fun value => (Decode.items Decode.text value).map sortedSet

def givenGroupFields (entries : Entries Value) : Nat :=
  ["conjunction", "conditions", "tags"].countP entries.contains

/-- A reading of a member with the number of fields it uses, those of its own members included. -/
structure Reading where
  tree : ConditionTree
  fields : Nat

/-- The reading that uses more fields, of two equal ones the first. -/
def Reading.better? : Option Reading → Option Reading → Option Reading
  | some first, some second => some (if first.fields < second.fields then second else first)
  | some first, none => some first
  | none, second => second

def conditionReading? (entries : Entries Value) : Option Reading :=
  (Condition.ofEntries? entries).map fun condition =>
    ⟨.condition condition, Condition.givenFields entries⟩

/-- A group from its own entries and the readings of its members. -/
def groupReading? (entries : Entries Value) (members : List Reading) : Option Reading := do
  let conjunction ← Decode.defaulted entries "conjunction" .and decodeConjunction
  let tags ← Decode.defaulted entries "tags" [] decodeTags
  some ⟨.group conjunction (members.map (·.tree)) tags,
    givenGroupFields entries + members.foldl (fun total member => total + member.fields) 0⟩

mutual

def readMember? : Value → Option Reading
  | .object entries =>
    Reading.better? (conditionReading? entries)
      ((readMembersOf? entries).bind (groupReading? entries))
  | _ => none

def readMembers? : List Value → Option (List Reading)
  | [] => some []
  | value :: rest => do
    let member ← readMember? value
    let others ← readMembers? rest
    some (member :: others)

/-- The members of a group, under the first entry that is called `conditions`. -/
def readMembersOf? : List (String × Value) → Option (List Reading)
  | [] => some []
  | (name, value) :: rest =>
    if name = "conditions" then
      match value with
      | .list items => readMembers? items
      | .tuple items => readMembers? items
      | .set [] => some []
      | _ => none
    else readMembersOf? rest

end

mutual

def encode : ConditionTree → Value
  | .condition c => c.encode
  | .group conjunction members tags =>
    .object
      [("conjunction", .str conjunction.word), ("conditions", .list (encodeAll members)),
        ("tags", .set tags)]

def encodeAll : List ConditionTree → List Value
  | [] => []
  | member :: rest => member.encode :: encodeAll rest

end

mutual

/-- How many groups stand inside each other. -/
def depth : ConditionTree → Nat
  | .condition _ => 0
  | .group _ members _ => depthOfAll members + 1

def depthOfAll : List ConditionTree → Nat
  | [] => 0
  | member :: rest => max member.depth (depthOfAll rest)

end

mutual

def text : ConditionTree → String
  | .condition c => c.text
  | .group conjunction members _ =>
    "(" ++ (" " ++ conjunction.word ++ " ").intercalate (textsOf members) ++ ")"

def textsOf : List ConditionTree → List String
  | [] => []
  | member :: rest => member.text :: textsOf rest

end

end ConditionTree

namespace ConditionGroup

/-- Groups that nest too deep are refused. -/
def shallow? (group : ConditionGroup) : Option ConditionGroup :=
  if (ConditionTree.ofGroup group).depth ≤ Decode.nestingLimit then some group else none

/-- Every object is a group as far as its members, words and depth allow; fields it lacks have
defaults. -/
def decode? (value : Value) : Option ConditionGroup := do
  let entries ← value.entries?
  let members ← ConditionTree.readMembersOf? entries
  let conjunction ← Decode.defaulted entries "conjunction" .and ConditionTree.decodeConjunction
  let tags ← Decode.defaulted entries "tags" [] ConditionTree.decodeTags
  shallow? { conjunction, members := members.map (·.tree), tags }

def encode (group : ConditionGroup) : Value := (ConditionTree.ofGroup group).encode

def text (group : ConditionGroup) : String := (ConditionTree.ofGroup group).text

def addCondition (group : ConditionGroup) (condition : Condition) : ConditionGroup :=
  { group with members := group.members ++ [.condition condition] }

def addGroup (group member : ConditionGroup) : ConditionGroup :=
  { group with members := group.members ++ [.ofGroup member] }

def addTag (group : ConditionGroup) (tag : String) : ConditionGroup :=
  { group with tags := sortedSet (tag :: group.tags) }

end ConditionGroup

/-- The facet id among the tags of a group: what follows `facet_id:` in the first such tag. -/
def facetIdOfTags? (tags : List String) : Option String :=
  tags.findSome? (Text.after? "facet_id:")

def facetTag (field : String) : String := "facet:" ++ field

end FacetedSearch
