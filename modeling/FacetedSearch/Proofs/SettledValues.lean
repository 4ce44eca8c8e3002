import FacetedSearch.Proofs.ComparedValues
import FacetedSearch.Proofs.Compile
import FacetedSearch.Proofs.ConvertedValues

/-!
Values that have been converted to the type of their field stay as they are when they are converted
again. So a query whose values are converted is settled: another conversion leaves it alone, and so
does the conversion that a condition goes through when it is lowered.
-/

namespace FacetedSearch

namespace FieldCatalog

variable {type : Option FieldType} {declared : FieldType} {value result : Value}

/-- What a conversion gives is a single value again, and the same conversion gives it back. -/
theorem Converts.settled (h : Converts declared value result) :
    result.IsSingle ∧ Converts declared result result := by
  cases h with
  | textTruth | truth => exact ⟨⟨by simp, rfl⟩, .truth rfl⟩
  | flagInteger | integer | integerPart | integerNumeral => exact ⟨⟨by simp, rfl⟩, .integer _⟩
  | flagDecimal | nearest | decimal | decimalNumeral => exact ⟨⟨by simp, rfl⟩, .decimal _⟩
  | text => exact ⟨⟨by simp, rfl⟩, .text rfl⟩

/-- A single value is converted, or it has no conversion and is kept. -/
theorem coerceSingle_cases (h : coerceSingle type value = .ok result) :
    (∃ declared, type = some declared ∧ Converts declared value result) ∨ result = value := by
  by_cases hconverts : ∃ declared ∈ type, ∃ result, Converts declared value result
  · obtain ⟨declared, rfl, converted, hconverted⟩ := hconverts
    rw [coerceSingle_of_converts hconverted] at h
    cases h
    exact .inl ⟨declared, rfl, hconverted⟩
  · push Not at hconverts
    by_cases hexceeds : value.Exceeds type
    · rw [coerceSingle_of_exceeds hexceeds] at h
      cases h
    · rw [coerceSingle_of_not_converts hconverts hexceeds] at h
      cases h
      exact .inr rfl

theorem coerceTo_settled_single (hsingle : value.IsSingle)
    (h : coerceTo type value = .ok result) : coerceTo type result = .ok result := by
  rw [coerceTo_of_isSingle hsingle] at h
  rcases coerceSingle_cases h with ⟨declared, rfl, hconverts⟩ | rfl
  · obtain ⟨hresult, hagain⟩ := hconverts.settled
    rw [coerceTo_of_isSingle hresult]
    exact coerceSingle_of_converts hagain
  · rw [coerceTo_of_isSingle hsingle, h]

mutual

theorem coerceTo_settled : ∀ {value result : Value},
    coerceTo type value = .ok result → coerceTo type result = .ok result
  | .null, _, h => by
      cases h
      rfl
  | .list items, _, h => by
      obtain ⟨results, hresults, h⟩ := Outcome.bind_eq_ok.mp h
      cases h
      rw [coerceTo, coerceAll_settled hresults]
      rfl
  | .tuple items, _, h => by
      obtain ⟨results, hresults, h⟩ := Outcome.bind_eq_ok.mp h
      cases h
      rw [coerceTo, coerceAll_settled hresults]
      rfl
  | .bool _, _, h => coerceTo_settled_single ⟨by simp, rfl⟩ h
  | .int _, _, h => coerceTo_settled_single ⟨by simp, rfl⟩ h
  | .float _, _, h => coerceTo_settled_single ⟨by simp, rfl⟩ h
  | .str _, _, h => coerceTo_settled_single ⟨by simp, rfl⟩ h
  | .set _, _, h => coerceTo_settled_single ⟨by simp, rfl⟩ h
  | .object _, _, h => coerceTo_settled_single ⟨by simp, rfl⟩ h

theorem coerceAll_settled : ∀ {values results : List Value},
    coerceAll type values = .ok results → coerceAll type results = .ok results
  | [], _, h => by
      cases h
      rfl
  | value :: rest, _, h => by
      obtain ⟨first, hfirst, h⟩ := Outcome.bind_eq_ok.mp h
      obtain ⟨others, hothers, h⟩ := Outcome.bind_eq_ok.mp h
      cases h
      rw [coerceAll, coerceTo_settled hfirst, Outcome.bind_ok, coerceAll_settled hothers]
      rfl

end

end FieldCatalog

namespace ConditionTree

open Lowering (withValue)

variable {step again : Condition → Outcome Value}

mutual

/-- The tree with new values for its conditions. -/
def revalue (step : Condition → Outcome Value) : ConditionTree → Outcome ConditionTree
  | .condition c => do return .condition (withValue c (← step c))
  | .group conjunction members tags => do
    return .group conjunction (← revalueAll step members) tags

def revalueAll (step : Condition → Outcome Value) :
    List ConditionTree → Outcome (List ConditionTree)
  | [] => .ok []
  | member :: rest => do
    let first ← member.revalue step
    let others ← revalueAll step rest
    return first :: others

end

mutual

/-- Where the second step gives every new value back, it leaves the new tree as it is. -/
theorem revalue_settled
    (hstep : ∀ c value, step c = .ok value → again (withValue c value) = .ok value) :
    ∀ {tree result : ConditionTree},
      tree.revalue step = .ok result → result.revalue again = .ok result
  | .condition c, _, h => by
      obtain ⟨value, hvalue, h⟩ := Outcome.bind_eq_ok.mp h
      cases h
      rw [revalue, hstep c value hvalue]
      rfl
  | .group conjunction members tags, _, h => by
      obtain ⟨results, hresults, h⟩ := Outcome.bind_eq_ok.mp h
      cases h
      rw [revalue, revalueAll_settled hstep hresults]
      rfl

theorem revalueAll_settled
    (hstep : ∀ c value, step c = .ok value → again (withValue c value) = .ok value) :
    ∀ {members results : List ConditionTree},
      revalueAll step members = .ok results → revalueAll again results = .ok results
  | [], _, h => by
      cases h
      rfl
  | member :: rest, _, h => by
      obtain ⟨first, hfirst, h⟩ := Outcome.bind_eq_ok.mp h
      obtain ⟨others, hothers, h⟩ := Outcome.bind_eq_ok.mp h
      cases h
      rw [revalueAll, revalue_settled hstep hfirst, Outcome.bind_ok,
        revalueAll_settled hstep hothers]
      rfl

end

mutual

theorem exists_revalue (hstep : ∀ c, ∃ value, step c = .ok value) :
    ∀ tree : ConditionTree, ∃ result, tree.revalue step = .ok result
  | .condition c => by
      obtain ⟨value, hvalue⟩ := hstep c
      exact ⟨.condition (withValue c value), by rw [revalue, hvalue]; rfl⟩
  | .group conjunction members tags => by
      obtain ⟨results, hresults⟩ := exists_revalueAll hstep members
      exact ⟨.group conjunction results tags, by rw [revalue, hresults]; rfl⟩

theorem exists_revalueAll (hstep : ∀ c, ∃ value, step c = .ok value) :
    ∀ members : List ConditionTree, ∃ results, revalueAll step members = .ok results
  | [] => ⟨[], rfl⟩
  | member :: rest => by
      obtain ⟨first, hfirst⟩ := exists_revalue hstep member
      obtain ⟨others, hothers⟩ := exists_revalueAll hstep rest
      exact ⟨first :: others, by rw [revalueAll, hfirst, Outcome.bind_ok, hothers]; rfl⟩

end

end ConditionTree

namespace SearchQuery

/-- The query with new values for the conditions of its tree. -/
def revalue (step : Condition → Outcome Value) (query : SearchQuery) : Outcome SearchQuery := do
  let members ← ConditionTree.revalueAll step query.conditions.members
  return { query with conditions := { query.conditions with members } }

/-- The query with its values converted to the types of their fields. -/
def coerced (catalog : FieldCatalog) (query : SearchQuery) : Outcome SearchQuery :=
  query.revalue fun c => catalog.coerce c.field c.value

/-- The query with its values as their fields compare them. -/
def compared (catalog : FieldCatalog) (query : SearchQuery) : Outcome SearchQuery :=
  query.revalue (Lowering.comparedValue catalog)

theorem revalue_settled {step again : Condition → Outcome Value} {query result : SearchQuery}
    (hstep : ∀ c value, step c = .ok value → again (Lowering.withValue c value) = .ok value)
    (h : query.revalue step = .ok result) : result.revalue again = .ok result := by
  obtain ⟨members, hmembers, h⟩ := Outcome.bind_eq_ok.mp h
  cases h
  rw [revalue, ConditionTree.revalueAll_settled hstep hmembers]
  rfl

end SearchQuery

namespace Lowering

open ConditionTree

variable {catalog : FieldCatalog} {step : Condition → Outcome Value}

theorem comparedValue_of_coerce {c : Condition} {value : Value}
    (h : catalog.coerce c.field c.value = .ok value) :
    comparedValue catalog (withValue c value) = .ok value := by
  unfold comparedValue
  split_ifs
  · exact FieldCatalog.coerceTo_settled h
  · rfl

/-- The value that is compared is compared as it is. -/
theorem comparedValue_settled {c : Condition} {value : Value}
    (h : comparedValue catalog c = .ok value) :
    comparedValue catalog (withValue c value) = .ok value := by
  by_cases htype : catalog.typeOf? c.field = some .boolean
  · rw [comparedValue, if_pos htype] at h
    exact comparedValue_of_coerce h
  · exact if_neg htype

/-- A clause depends on the value of its condition through the value that is compared. -/
theorem conditionClause_withValue {c : Condition} {value : Value}
    (h : comparedValue catalog c = .ok value) :
    conditionClause catalog (withValue c value) = conditionClause catalog c := by
  have hflat : flatClause catalog (withValue c value) = flatClause catalog c := by
    rw [flatClause, flatClause, h, comparedValue_settled h]
    rfl
  rw [conditionClause, conditionClause, hflat]
  rfl

mutual

/-- New values that leave every clause as it is leave what the tree is lowered to as it is. -/
theorem lowerMember_revalue
    (hstep : ∀ c value, step c = .ok value →
      conditionClause catalog (withValue c value) = conditionClause catalog c)
    (conjunction : Conjunction) (tags : List String) :
    ∀ {member result : ConditionTree}, member.revalue step = .ok result →
      lowerMember catalog conjunction tags result = lowerMember catalog conjunction tags member
  | .condition c, _, h => by
      obtain ⟨value, hvalue, h⟩ := Outcome.bind_eq_ok.mp h
      cases h
      rw [lowerMember, lowerMember, lowerCondition, lowerCondition, hstep c value hvalue]
      rfl
  | .group inner members innerTags, _, h => by
      obtain ⟨results, hresults, h⟩ := Outcome.bind_eq_ok.mp h
      cases h
      rw [lowerMember, lowerMember, lowerMembers_revalue hstep inner innerTags hresults]

theorem lowerMembers_revalue
    (hstep : ∀ c value, step c = .ok value →
      conditionClause catalog (withValue c value) = conditionClause catalog c)
    (conjunction : Conjunction) (tags : List String) :
    ∀ {members results : List ConditionTree}, revalueAll step members = .ok results →
      lowerMembers catalog conjunction tags results = lowerMembers catalog conjunction tags members
  | [], _, h => by
      cases h
      rfl
  | member :: rest, _, h => by
      obtain ⟨first, hfirst, h⟩ := Outcome.bind_eq_ok.mp h
      obtain ⟨others, hothers, h⟩ := Outcome.bind_eq_ok.mp h
      cases h
      rw [lowerMembers, lowerMembers, lowerMember_revalue hstep conjunction tags hfirst,
        lowerMembers_revalue hstep conjunction tags hothers]

end

variable {setting : Setting}

/-- Only the lowered tree depends on the conditions of a query. -/
theorem compile_withConditions (drawn : Value) (query : SearchQuery) {conditions : ConditionGroup}
    (h : lowerConditions setting.catalog conditions =
      lowerConditions setting.catalog query.conditions) :
    compile setting drawn { query with conditions } = compile setting drawn query := by
  have hcompiled :
      compileQuery setting drawn { query with conditions } = compileQuery setting drawn query := by
    rw [compileQuery, compileQuery, h]
    rfl
  rw [compile, compile, hcompiled]

theorem compile_compared (drawn : Value) (query : SearchQuery) :
    ∃ compared, query.compared setting.catalog = .ok compared ∧
      compile setting drawn compared = compile setting drawn query := by
  have htotal : ∀ c, ∃ value, comparedValue setting.catalog c = .ok value := by
    intro c
    obtain ⟨value, hvalue, -⟩ := comparedValue_total setting.catalog c
    exact ⟨value, hvalue⟩
  obtain ⟨members, hmembers⟩ := exists_revalueAll htotal query.conditions.members
  refine ⟨{ query with conditions := { query.conditions with members } }, ?_, ?_⟩
  · rw [SearchQuery.compared, SearchQuery.revalue, hmembers]
    rfl
  · apply compile_withConditions
    rw [lowerConditions, lowerConditions, lowerMembers_revalue
      (fun c value => conditionClause_withValue) _ _ hmembers]

/-- Values that have been converted to the types of their fields are given back when they are
converted again. A query of such values is left alone by both conversions, and compiles as the query
does whose values are still to be compared. -/
theorem coercion_settles (setting : Setting) (drawn : Value) :
    (∀ (id : String) (value result : Value), setting.catalog.coerce id value = .ok result →
        setting.catalog.coerce id result = .ok result) ∧
      (∀ query coerced : SearchQuery, query.coerced setting.catalog = .ok coerced →
        coerced.coerced setting.catalog = .ok coerced ∧
          coerced.compared setting.catalog = .ok coerced) ∧
      ∀ query : SearchQuery, ∃ compared, query.compared setting.catalog = .ok compared ∧
        compile setting drawn compared = compile setting drawn query := by
  refine ⟨fun id value result => FieldCatalog.coerceTo_settled, ?_, compile_compared drawn⟩
  intro query coerced hcoerced
  constructor
  · exact SearchQuery.revalue_settled (fun c value => FieldCatalog.coerceTo_settled) hcoerced
  · exact SearchQuery.revalue_settled (fun c value => comparedValue_of_coerce) hcoerced

/-- A catalog whose `price` is a decimal and whose `sold` is a truth value. -/
def saleSetting : Setting where
  collection := .str "sales"
  catalog.entries :=
    [("price", { id := "price", type := .decimal }), ("sold", { id := "sold", type := .boolean })]

/-- Sales for seven or one, or that count as sold. -/
def saleQuery (sold : Value) (prices : List Value) : SearchQuery where
  conditions.conjunction := .or
  conditions.members :=
    [.condition { field := "price", op := "IN", value := .list prices },
      .group .and [.condition { field := "sold", value := sold }] []]

theorem sales_settle :
    let given : List Value := [.int 7, .tuple [.bool true, .null]]
    let prices : List Value := [.float (.ofInt 7), .tuple [.float (.ofInt 1), .null]]
    saleSetting.catalog.coerce "price" (.list given) = .ok (.list prices) ∧
      saleSetting.catalog.coerce "price" (.list prices) = .ok (.list prices) ∧
      (saleQuery (.int 1) given).coerced saleSetting.catalog =
        .ok (saleQuery (.bool true) prices) ∧
      (saleQuery (.bool true) prices).coerced saleSetting.catalog =
        .ok (saleQuery (.bool true) prices) ∧
      (saleQuery (.bool true) prices).compared saleSetting.catalog =
        .ok (saleQuery (.bool true) prices) := by
  intro given prices
  obtain ⟨hvalues, hqueries, -⟩ := coercion_settles saleSetting .null
  exact ⟨rfl, hvalues "price" (.list given) (.list prices) rfl, rfl,
    hqueries (saleQuery (.int 1) given) (saleQuery (.bool true) prices) rfl⟩

end Lowering

end FacetedSearch
