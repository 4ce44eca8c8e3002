import FacetedSearch.Catalog.Coercion
import FacetedSearch.Clause.Basic
import FacetedSearch.Query.Condition

/-!
Condition trees as filter clauses. A condition that stands directly in an alternative group tagged
as the selection of its own field is taken out of the tree: on a flat field its clause is diverted
to the post filters of its facet, and on a nested field the facet itself builds the selection.
-/

namespace FacetedSearch.Lowering

/-- The bound at an end of a range; null and the empty text leave the end open. -/
def bound : Value → Value
  | .null => .null
  | .str text => if text.isEmpty then .null else FieldCatalog.coerceBound (.str text)
  | value => FieldCatalog.coerceBound value

/-- The range between two values, both ends included. -/
def betweenClause (id field : String) (value : Value) : Outcome Clause :=
  match value.sequence? with
  | some [lower, upper] => .ok (.bounded field [("gte", bound lower), ("lte", bound upper)])
  | _ => .error (.unpairedBounds id)

/-- The clause of an operator with a value that is not null. -/
def comparisonClause (id field : String) (operator : Operator) (value : Value) : Outcome Clause :=
  match operator with
  | .equal => .ok (.term field value)
  | .notEqual => .ok (.negate (.term field value))
  | .isIn => .ok (.oneOf field value)
  | .notIn => .ok (.negate (.oneOf field value))
  | .greater => .ok (.bounded field [("gt", FieldCatalog.coerceBound value)])
  | .greaterEqual => .ok (.bounded field [("gte", FieldCatalog.coerceBound value)])
  | .less => .ok (.bounded field [("lt", FieldCatalog.coerceBound value)])
  | .lessEqual => .ok (.bounded field [("lte", FieldCatalog.coerceBound value)])
  | .between => betweenClause id field value
  | .notBetween => return .negate (← betweenClause id field value)

/-- Without a value, a field can only be there or not. -/
def presenceClause (id field : String) (operator : Operator) : Outcome Clause :=
  match operator with
  | .equal => .ok (.negate (.present field))
  | .notEqual => .ok (.present field)
  | operator => .error (.missingFilterValue id operator.word)

/-- The value of a condition as its field compares it: truth values are converted. -/
def comparedValue (catalog : FieldCatalog) (condition : Condition) : Outcome Value :=
  if catalog.typeOf? condition.field = some .boolean then
    catalog.coerce condition.field condition.value
  else .ok condition.value

/-- The clause of a condition on its path, before it is placed in nested objects. -/
def flatClause (catalog : FieldCatalog) (condition : Condition) : Outcome Clause := do
  let field := FieldPath.dotted condition.field
  let value ← comparedValue catalog condition
  match condition.operator? with
  | none => .error (.unsupportedOperator condition.field condition.op)
  | some operator =>
    if value = .null then presenceClause condition.field field operator
    else comparisonClause condition.field field operator value

/-- The clause of a condition; in nested objects it must match within one of them. -/
def conditionClause (catalog : FieldCatalog) (condition : Condition) : Outcome Clause := do
  let clause ← flatClause catalog condition
  if catalog.isNestedField condition.field then
    return .nested (FieldPath.root condition.field) clause
  return clause

/-- The facet whose selection a group is on a field: the facet id among its tags, else the field. -/
def facetKey (tags : List String) (field : String) : String :=
  match facetIdOfTags? tags with
  | some id => if id.isEmpty then field else id
  | none => field

/-- Whether a group is a selection on a field. -/
def isSelection (conjunction : Conjunction) (tags : List String) (field : String) : Bool :=
  conjunction == .or && tags.contains (facetTag field)

/-- What a part of a tree contributes: clauses of its group, and clauses diverted to the post
filters of facets. -/
structure Contribution where
  clauses : List Clause := []
  diverted : List (String × Clause) := []

def Contribution.append (first second : Contribution) : Contribution where
  clauses := first.clauses ++ second.clauses
  diverted := first.diverted ++ second.diverted

/-- The query of a group: all of its clauses are filters, or all are alternatives. -/
def groupQuery (conjunction : Conjunction) (clauses : List Clause) : BoolQuery :=
  match conjunction with
  | .and => { filter := clauses }
  | .or => { should := clauses }

/-- A group without clauses contributes none, since it would match every document. -/
def groupContribution (conjunction : Conjunction) (members : Contribution) : Contribution :=
  if members.clauses.isEmpty then members
  else { members with clauses := [(groupQuery conjunction members.clauses).toClause] }

/-- A condition as a member of a group. -/
def lowerCondition (catalog : FieldCatalog) (conjunction : Conjunction) (tags : List String)
    (condition : Condition) : Outcome Contribution := do
  let _ ← catalog.resolve condition.field
  if isSelection conjunction tags condition.field then
    if catalog.isNestedField condition.field then return {}
    let clause ← conditionClause catalog condition
    return { diverted := [(facetKey tags condition.field, clause)] }
  return { clauses := [← conditionClause catalog condition] }

mutual

/-- A member of a group with the given conjunction and tags. -/
def lowerMember (catalog : FieldCatalog) (conjunction : Conjunction) (tags : List String) :
    ConditionTree → Outcome Contribution
  | .condition condition => lowerCondition catalog conjunction tags condition
  | .group inner members innerTags => do
    return groupContribution inner (← lowerMembers catalog inner innerTags members)

def lowerMembers (catalog : FieldCatalog) (conjunction : Conjunction) (tags : List String) :
    List ConditionTree → Outcome Contribution
  | [] => .ok {}
  | member :: rest => do
    let first ← lowerMember catalog conjunction tags member
    let others ← lowerMembers catalog conjunction tags rest
    return first.append others

end

/-- Collects entries by name, in the order of first occurrence. -/
def collect {α : Type} (entries : List (String × α)) : Entries (List α) :=
  entries.foldl
    (fun collected entry =>
      collected.put entry.1 ((Entries.find? collected entry.1).getD [] ++ [entry.2]))
    []

/-- A filter query with the post filters of facets. -/
structure FilterParts where
  query : BoolQuery
  postFilters : Entries Clause

/-- The filter of a condition tree; several clauses of one facet are alternatives. -/
def lowerConditions (catalog : FieldCatalog) (group : ConditionGroup) : Outcome FilterParts := do
  let members ← lowerMembers catalog group.conjunction group.tags group.members
  return {
    query := groupQuery group.conjunction members.clauses
    postFilters := Entries.mapValues Clause.anyOf (collect members.diverted) }

end FacetedSearch.Lowering
