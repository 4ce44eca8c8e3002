import FacetedSearch.Catalog.Basic
import FacetedSearch.Clause.Basic
import FacetedSearch.Number.Format
import FacetedSearch.Query.Keys

/-!
Full-text keys as match clauses over the full-text fields of a catalog. A group of plain terms is
one match of its terms; a group of groups joins their clauses, and groups without terms below them
have none.
-/

namespace FacetedSearch.Lowering

/-- A field with its boost, as matches name it. -/
def boostedField (field : SearchField) : String :=
  FieldPath.dotted field.id ++ "^" ++ NumberFormat.brief.write field.boost

/-- The full-text fields that a test chooses. -/
def chosenFields (catalog : FieldCatalog) (isChosen : String → Bool) : List String :=
  (catalog.fulltextFields.filter fun field => isChosen field.id).map boostedField

/-- The fields to search: the full-text fields among the requested ones, which must all resolve, or
all of them. -/
def queryFields (catalog : FieldCatalog) (requested : Option (List String)) :
    Outcome (List String) :=
  match requested with
  | none => .ok (chosenFields catalog fun _ => true)
  | some ids => do
    for id in ids do
      let _ ← catalog.resolve id
    return chosenFields catalog ids.contains

/-- Whether characters occur in a row among others. -/
def occursAmong (part : List Char) : List Char → Bool
  | [] => part.isEmpty
  | c :: rest => part.isPrefixOf (c :: rest) || occursAmong part rest

/-- Whether a text occurs in another. -/
def occursIn (part text : String) : Bool := occursAmong part.toList text.toList

/-- A requested field that need not be a text. -/
def resolveValue (catalog : FieldCatalog) : Value → Outcome Unit
  | .str id => do let _ ← catalog.resolve id
  | value => .error (if value.isKey then .noSuchMember else .wrongKind)

/-- The fields to search for loosely given requests. In a text its characters must resolve, and the
fields whose ids occur in it are chosen. -/
def queryFieldsOf (catalog : FieldCatalog) : Value → Outcome (List String)
  | .null => queryFields catalog none
  | value =>
    match value.visited? with
    | none => .error .wrongKind
    | some items => do
      for item in items do
        resolveValue catalog item
      match value with
      | .str text => return chosenFields catalog fun id => occursIn id text
      | _ => return chosenFields catalog fun id => items.contains (.str id)

/-- How matches are made: whether of phrases, on which fields and how fuzzily. -/
structure MatchStyle where
  isPhrase : Bool
  fields : List String
  fuzziness : Value

def negateIf (negation : Bool) (clause : Clause) : Clause :=
  if negation then .negate clause else clause

/-- The match of the plain terms of a group. -/
def termsMatch (style : MatchStyle) (conjunction : Conjunction) (terms : List String) :
    MultiMatch where
  text := " ".intercalate terms
  fields := style.fields
  kind := if style.isPhrase then .phrase else .bestFields
  operator := conjunction
  fuzziness := if style.isPhrase then .null else style.fuzziness

def termsClause (style : MatchStyle) (conjunction : Conjunction) (negation : Bool)
    (terms : List String) : Clause :=
  negateIf negation (.multiMatch (termsMatch style conjunction terms))

/-- The query of the clauses of key groups: all must match, or one of them. -/
def joinedQuery (conjunction : Conjunction) (clauses : List Clause) : BoolQuery :=
  match conjunction with
  | .and => { must := clauses }
  | .or => { should := clauses }

/-- The plain terms among the members of a group. -/
def flatTerms (terms : List KeyTerm) : List String := terms.filterMap KeyTerm.text?

mutual

/-- The clause of a group; plain terms stand for the group where there are any. -/
def groupClause? (style : MatchStyle) : KeyTerm → Option Clause
  | .term _ => none
  | .group conjunction terms negation =>
    match flatTerms terms with
    | [] =>
      match groupClauses style terms with
      | [] => none
      | clauses => some (negateIf negation (joinedQuery conjunction clauses).toClause)
    | flat => some (termsClause style conjunction negation flat)

/-- The clauses of the groups among some terms. -/
def groupClauses (style : MatchStyle) : List KeyTerm → List Clause
  | [] => []
  | t :: rest => (groupClause? style t).toList ++ groupClauses style rest

end

/-- The query of keys that are matched term by term or as phrases. -/
def matchQuery (style : MatchStyle) (keys : FullTextKeys) : BoolQuery :=
  let plain :=
    match keys.flatTerms with
    | [] => []
    | flat => [termsClause style keys.conjunction keys.negation flat]
  let query := ({} : BoolQuery).addMust plain
  let clauses := groupClauses style keys.terms
  if keys.negation then
    match clauses with
    | [] => query
    | clauses => query.addMust [.negate (joinedQuery keys.conjunction clauses).toClause]
  else query.merge (joinedQuery keys.conjunction clauses)

/-- The query of a raw query string, whose text is left to the backend. -/
def directQuery (fields : List String) (keys : FullTextKeys) : BoolQuery :=
  let text := " ".intercalate keys.flatTerms
  if text.isEmpty then {} else { must := [.simpleQueryString text fields .or] }

/-- The full-text query of keys over the given fields. -/
def keysQuery (fuzziness : Value) (mode : ParseMode) (fields : List String) (keys : FullTextKeys) :
    BoolQuery :=
  match mode with
  | .direct => directQuery fields keys
  | .phrase => matchQuery { isPhrase := true, fields, fuzziness } keys
  | .terms => matchQuery { isPhrase := false, fields, fuzziness } keys

/-- The full-text query of keys; without terms there is none, and fields are not looked at. -/
def lowerKeysWith (fields : Outcome (List String)) (fuzziness : Value) (mode : ParseMode)
    (keys : Option FullTextKeys) : Outcome BoolQuery :=
  match keys with
  | none => .ok {}
  | some keys =>
    if keys.terms.isEmpty then .ok {} else return keysQuery fuzziness mode (← fields) keys

def lowerKeys (catalog : FieldCatalog) (fuzziness : Value) (mode : ParseMode)
    (requested : Option (List String)) (keys : Option FullTextKeys) : Outcome BoolQuery :=
  lowerKeysWith (queryFields catalog requested) fuzziness mode keys

end FacetedSearch.Lowering
