import FacetedSearch.Catalog.Coercion
import FacetedSearch.Proofs.Outcome
import FacetedSearch.Proofs.Rounding

/-!
What becomes of values that are converted to the declared types of fields. A value that its type has
no conversion for is kept, and lists and tuples are converted element by element, at every depth.
Numbers that are beyond their type have no conversion either, but end in a fault: an infinite number
where integers are declared, and a whole number beyond the greatest finite one where decimals are.
-/

namespace FacetedSearch

namespace Value

/-- A value that is converted as a whole: neither null nor a list nor a tuple. -/
def IsSingle (value : Value) : Prop := value ≠ .null ∧ value.sequence? = none

mutual

/-- The values inside lists and tuples, at every depth. -/
def singles : Value → List Value
  | .list items => singlesOf items
  | .tuple items => singlesOf items
  | value => [value]

def singlesOf : List Value → List Value
  | [] => []
  | value :: rest => value.singles ++ singlesOf rest

end

/-- Numbers that a declared type cannot hold. -/
def Exceeds (type : Option FieldType) : Value → Prop
  | .float (.infinite _) => type = some .integer
  | .int i => type = some .decimal ∧ Binary64.overflowBound ≤ i.natAbs
  | _ => False

instance (type : Option FieldType) (value : Value) : Decidable (value.Exceeds type) :=
  match value with
  | .float (.infinite _) => inferInstanceAs (Decidable (_ = _))
  | .int _ => inferInstanceAs (Decidable (_ ∧ _))
  | .float .nan | .float (.finite ..) | .null | .bool _ | .str _ | .list _ | .tuple _ | .set _
  | .object _ => inferInstanceAs (Decidable False)

/-- A value without numbers that its declared type cannot hold. -/
def Fits (type : Option FieldType) (value : Value) : Prop :=
  ∀ single ∈ value.singles, ¬single.Exceeds type

instance (type : Option FieldType) (value : Value) : Decidable (value.Fits type) :=
  inferInstanceAs (Decidable (∀ single ∈ value.singles, ¬single.Exceeds type))

variable {type : Option FieldType} {value : Value} {values : List Value}

theorem fits_of_isSingle (hsingle : value.IsSingle) : value.Fits type ↔ ¬value.Exceeds type := by
  cases value with
  | list | tuple => cases hsingle.2
  | _ => simp [Fits, singles]

theorem forall_singlesOf_iff :
    (∀ single ∈ singlesOf values, ¬single.Exceeds type) ↔ ∀ value ∈ values, value.Fits type := by
  induction values with
  | nil => simp [singlesOf]
  | cons value rest ih =>
      simp only [singlesOf, List.forall_mem_append, ih, List.forall_mem_cons, Fits]

/-- A list fits where all its elements do. -/
theorem fits_list : (Value.list values).Fits type ↔ ∀ value ∈ values, value.Fits type :=
  forall_singlesOf_iff

theorem fits_tuple : (Value.tuple values).Fits type ↔ ∀ value ∈ values, value.Fits type :=
  forall_singlesOf_iff

end Value

namespace FieldCatalog

open Value (IsSingle Exceeds Fits)

/-- The conversions to a declared type. The types that are not among them have none. -/
inductive Converts : FieldType → Value → Value → Prop
  | textTruth (text : String) :
      Converts .boolean (.str text) (.bool (Text.lowercase (Text.trim text) ∉ falseTexts))
  | truth {value : Value} (h : value.text? = none) : Converts .boolean value (.bool value.isTruthy)
  | flagInteger (flag : Bool) : Converts .integer (.bool flag) (.int (if flag then 1 else 0))
  | integer (i : Int) : Converts .integer (.int i) (.int i)
  | integerPart {x : Binary64} {i : Int} (h : x.truncate? = some i) :
      Converts .integer (.float x) (.int i)
  | integerNumeral {text : String} {i : Int} (h : Numeral.readInt? text = some i) :
      Converts .integer (.str text) (.int i)
  | flagDecimal (flag : Bool) :
      Converts .decimal (.bool flag) (.float (.ofInt (if flag then 1 else 0)))
  | nearest {i : Int} (h : i.natAbs < Binary64.overflowBound) :
      Converts .decimal (.int i) (.float (.ofInt i))
  | decimal (x : Binary64) : Converts .decimal (.float x) (.float x)
  | decimalNumeral {text : String} {x : Binary64} (h : Numeral.readFloat? text = some x) :
      Converts .decimal (.str text) (.float x)
  | text {value : Value} (h : value.isWritable = true) :
      Converts .string value (.str value.display)

/-- What becomes of a value on a field of a declared type, or on an undeclared field. -/
inductive Becomes (type : Option FieldType) : Value → Value → Prop
  | null : Becomes type .null .null
  | list {items results : List Value} (h : List.Forall₂ (Becomes type) items results) :
      Becomes type (.list items) (.list results)
  | tuple {items results : List Value} (h : List.Forall₂ (Becomes type) items results) :
      Becomes type (.tuple items) (.tuple results)
  | converted {declared : FieldType} {value result : Value} (hsingle : value.IsSingle)
      (htype : type = some declared) (h : Converts declared value result) :
      Becomes type value result
  | kept {value : Value} (hsingle : value.IsSingle)
      (h : ∀ declared ∈ type, ∀ result, ¬Converts declared value result) :
      Becomes type value value

variable {type : Option FieldType} {declared : FieldType} {value result : Value}

/-- A whole number becomes a finite one up to the bound, and is at fault beyond it. -/
theorem finiteFloat_eq (i : Int) :
    finiteFloat i = if i.natAbs < Binary64.overflowBound then .ok (.float (.ofInt i))
      else .error .numberTooLarge := by
  rw [finiteFloat]
  simp only [Binary64.isFinite_ofInt_iff]

theorem natAbs_flag_lt (flag : Bool) :
    (if flag then 1 else 0 : Int).natAbs < Binary64.overflowBound := by
  rw [← Binary64.isFinite_ofInt_iff]
  cases flag <;> rfl

theorem coerceSingle_of_converts (h : Converts declared value result) :
    coerceSingle (some declared) value = .ok result := by
  cases h with
  | textTruth text => simp [coerceSingle, toBoolean]
  | truth h =>
      cases value with
      | str => cases h
      | _ => rfl
  | flagInteger | integer | decimal => rfl
  | @integerPart x i h =>
      cases x with
      | finite => simp [coerceSingle, toInteger, h]
      | _ => cases h
  | integerNumeral h => simp [coerceSingle, toInteger, h]
  | flagDecimal flag => rw [coerceSingle, toDecimal, finiteFloat_eq, if_pos (natAbs_flag_lt flag)]
  | nearest h => rw [coerceSingle, toDecimal, finiteFloat_eq, if_pos h]
  | decimalNumeral h => simp [coerceSingle, toDecimal, h]
  | text h => simp [coerceSingle, h]

/-- Two conversions of a value to one type give the same. -/
theorem Converts.unique {other : Value} (h : Converts declared value result)
    (hother : Converts declared value other) : other = result := by
  have hboth := (coerceSingle_of_converts hother).symm.trans (coerceSingle_of_converts h)
  exact Except.ok.inj hboth

theorem coerceSingle_of_exceeds (h : value.Exceeds type) :
    coerceSingle type value = .error .numberTooLarge := by
  cases value with
  | int i =>
      obtain ⟨rfl, hlarge⟩ := h
      rw [coerceSingle, toDecimal, finiteFloat_eq, if_neg hlarge.not_gt]
  | float x =>
      cases x with
      | infinite =>
          cases (h : type = some .integer)
          rfl
      | _ => cases h
  | _ => cases h

theorem Converts.not_exceeds (h : Converts declared value result) :
    ¬value.Exceeds (some declared) := by
  intro hexceeds
  cases (coerceSingle_of_exceeds hexceeds).symm.trans (coerceSingle_of_converts h)

theorem toInteger_of_not_converts (h : ∀ result, ¬Converts .integer value result)
    (hfits : ¬value.Exceeds (some .integer)) : toInteger value = .ok value := by
  cases value with
  | bool flag => exact absurd (.flagInteger flag) (h _)
  | int i => exact absurd (.integer i) (h _)
  | float x =>
      cases x with
      | nan => rfl
      | infinite => exact absurd rfl hfits
      | finite => exact absurd (.integerPart rfl) (h _)
  | str text =>
      cases hread : Numeral.readInt? text with
      | some i => exact absurd (.integerNumeral hread) (h _)
      | none => simp [toInteger, hread]
  | _ => rfl

theorem toDecimal_of_not_converts (h : ∀ result, ¬Converts .decimal value result)
    (hfits : ¬value.Exceeds (some .decimal)) : toDecimal value = .ok value := by
  cases value with
  | bool flag => exact absurd (.flagDecimal flag) (h _)
  | int i =>
      rcases Nat.lt_or_ge i.natAbs Binary64.overflowBound with hlt | hlarge
      · exact absurd (.nearest hlt) (h _)
      · exact absurd ⟨rfl, hlarge⟩ hfits
  | float x => exact absurd (.decimal x) (h _)
  | str text =>
      cases hread : Numeral.readFloat? text with
      | some x => exact absurd (.decimalNumeral hread) (h _)
      | none => simp [toDecimal, hread]
  | _ => rfl

/-- A value without a conversion is kept, unless it is a number that its type cannot hold. -/
theorem coerceSingle_of_not_converts
    (h : ∀ declared ∈ type, ∀ result, ¬Converts declared value result)
    (hfits : ¬value.Exceeds type) : coerceSingle type value = .ok value := by
  cases type with
  | none => rfl
  | some declared =>
      replace h : ∀ result, ¬Converts declared value result := h declared rfl
      cases declared with
      | boolean =>
          cases value with
          | str text => exact absurd (.textTruth text) (h _)
          | _ => exact absurd (.truth rfl) (h _)
      | integer => exact toInteger_of_not_converts h hfits
      | decimal => exact toDecimal_of_not_converts h hfits
      | string =>
          have hunwritable : ¬value.isWritable = true := fun hwritable => h _ (.text hwritable)
          rw [coerceSingle, if_neg hunwritable]
      | _ => rfl

theorem coerceTo_of_isSingle (hsingle : value.IsSingle) :
    coerceTo type value = coerceSingle type value := by
  cases value with
  | null => exact absurd rfl hsingle.1
  | list | tuple => cases hsingle.2
  | _ => rfl

/-- What conversion makes of a value: the one thing that becomes of it, or a fault if it does not
fit. -/
structure ConvertsTo (type : Option FieldType) (value result : Value) : Prop where
  becomes : Becomes type value result
  unique : ∀ other, Becomes type value other → other = result
  coerced : coerceTo type value =
    if value.Fits type then .ok result else .error .numberTooLarge

/-- A single value becomes what it converts to, or itself if there is no such thing. -/
theorem becomes_iff_of_isSingle (hsingle : value.IsSingle) :
    Becomes type value result ↔
      (∃ declared ∈ type, Converts declared value result) ∨
        (∀ declared ∈ type, ∀ other, ¬Converts declared value other) ∧ result = value := by
  constructor
  · intro h
    cases h with
    | null => exact absurd rfl hsingle.1
    | list | tuple => cases hsingle.2
    | converted _ htype h => exact .inl ⟨_, htype, h⟩
    | kept _ h => exact .inr ⟨h, rfl⟩
  · rintro (⟨declared, htype, h⟩ | ⟨h, rfl⟩)
    · exact .converted hsingle htype h
    · exact .kept hsingle h

theorem coerceTo_eq_ite_of_isSingle (hsingle : value.IsSingle)
    (h : ¬value.Exceeds type → coerceSingle type value = .ok result) :
    coerceTo type value = if value.Fits type then .ok result else .error .numberTooLarge := by
  rw [coerceTo_of_isSingle hsingle]
  simp only [Value.fits_of_isSingle hsingle]
  split_ifs with hexceeds
  · exact coerceSingle_of_exceeds hexceeds
  · exact h hexceeds

theorem exists_convertsTo_single (hsingle : value.IsSingle) :
    ∃ result, ConvertsTo type value result := by
  by_cases hconverts : ∃ declared ∈ type, ∃ result, Converts declared value result
  · obtain ⟨declared, rfl, result, hresult⟩ := hconverts
    refine ⟨result, .converted hsingle rfl hresult, fun other hother => ?_, ?_⟩
    · rcases (becomes_iff_of_isSingle hsingle).mp hother with ⟨_, htype, h⟩ | ⟨hnone, -⟩
      · cases htype
        exact hresult.unique h
      · exact absurd hresult (hnone declared rfl result)
    · exact coerceTo_eq_ite_of_isSingle hsingle fun _ => coerceSingle_of_converts hresult
  · push Not at hconverts
    refine ⟨value, .kept hsingle hconverts, fun other hother => ?_, ?_⟩
    · rcases (becomes_iff_of_isSingle hsingle).mp hother with ⟨declared, htype, h⟩ | ⟨-, hother⟩
      · exact absurd h (hconverts declared htype other)
      · exact hother
    · apply coerceTo_eq_ite_of_isSingle hsingle
      exact coerceSingle_of_not_converts hconverts

/-- What conversion makes of the elements of a sequence, one by one. -/
structure ConvertsEach (type : Option FieldType) (values results : List Value) : Prop where
  become : List.Forall₂ (Becomes type) values results
  unique : ∀ others, List.Forall₂ (Becomes type) values others → others = results
  coerced : coerceAll type values =
    if ∀ value ∈ values, value.Fits type then .ok results else .error .numberTooLarge

variable {values results : List Value}

theorem ConvertsEach.cons (hvalues : ConvertsEach type values results)
    (hvalue : ConvertsTo type value result) :
    ConvertsEach type (value :: values) (result :: results) where
  become := .cons hvalue.becomes hvalues.become
  unique := by
    rintro _ (_ | ⟨hfirst, hothers⟩)
    rw [hvalue.unique _ hfirst, hvalues.unique _ hothers]
  coerced := by
    rw [coerceAll, hvalue.coerced, hvalues.coerced]
    simp only [List.forall_mem_cons]
    by_cases hfits : value.Fits type
    · simp only [hfits, if_true, true_and, Outcome.bind_ok]
      split_ifs <;> rfl
    · simp only [hfits, if_false, false_and, Outcome.bind_error]

theorem ConvertsEach.list (h : ConvertsEach type values results) :
    ConvertsTo type (.list values) (.list results) where
  becomes := .list h.become
  unique := by
    intro other hother
    cases hother with
    | list hothers => rw [h.unique _ hothers]
    | converted hsingle => cases hsingle.2
    | kept hsingle => cases hsingle.2
  coerced := by
    rw [coerceTo, h.coerced]
    simp only [Value.fits_list]
    split_ifs <;> rfl

theorem ConvertsEach.tuple (h : ConvertsEach type values results) :
    ConvertsTo type (.tuple values) (.tuple results) where
  becomes := .tuple h.become
  unique := by
    intro other hother
    cases hother with
    | tuple hothers => rw [h.unique _ hothers]
    | converted hsingle => cases hsingle.2
    | kept hsingle => cases hsingle.2
  coerced := by
    rw [coerceTo, h.coerced]
    simp only [Value.fits_tuple]
    split_ifs <;> rfl

theorem convertsTo_null : ConvertsTo type .null .null where
  becomes := .null
  unique := by
    intro other hother
    cases hother with
    | null | kept => rfl
    | converted hsingle => exact absurd rfl hsingle.1
  coerced := by
    rw [if_pos]
    · rfl
    · simp [Value.Fits, Value.singles, Value.Exceeds]

mutual

theorem exists_convertsTo (type : Option FieldType) :
    ∀ value : Value, ∃ result, ConvertsTo type value result
  | .null => ⟨.null, convertsTo_null⟩
  | .list items => (exists_convertsEach type items).imp' _ fun _ => ConvertsEach.list
  | .tuple items => (exists_convertsEach type items).imp' _ fun _ => ConvertsEach.tuple
  | .bool flag => exists_convertsTo_single ⟨by simp, rfl⟩
  | .int i => exists_convertsTo_single ⟨by simp, rfl⟩
  | .float x => exists_convertsTo_single ⟨by simp, rfl⟩
  | .str text => exists_convertsTo_single ⟨by simp, rfl⟩
  | .set members => exists_convertsTo_single ⟨by simp, rfl⟩
  | .object entries => exists_convertsTo_single ⟨by simp, rfl⟩

theorem exists_convertsEach (type : Option FieldType) :
    ∀ values : List Value, ∃ results, ConvertsEach type values results
  | [] => ⟨[], .nil, by simp, rfl⟩
  | value :: rest => by
      obtain ⟨result, hresult⟩ := exists_convertsTo type value
      obtain ⟨results, hresults⟩ := exists_convertsEach type rest
      exact ⟨result :: results, hresults.cons hresult⟩

end

/-- Conversion returns what becomes of a value, of which there is exactly one, unless a number is in
it that the declared type of the field cannot hold: then it ends in a fault. -/
theorem coerce_eq_ite (catalog : FieldCatalog) (id : String) (value : Value) :
    ∃! result, Becomes (catalog.typeOf? id) value result ∧
      catalog.coerce id value = if value.Fits (catalog.typeOf? id) then .ok result
        else .error .numberTooLarge := by
  obtain ⟨result, hresult⟩ := exists_convertsTo (catalog.typeOf? id) value
  exact ⟨result, ⟨hresult.becomes, hresult.coerced⟩, fun other h => hresult.unique other h.1⟩

/-- A catalog whose `stock` is a whole number. -/
def stockCatalog : FieldCatalog where
  entries := [("stock", { id := "stock", type := .integer })]

/-- An infinite stock has no integer part, yet it is not kept. -/
theorem infinite_stock_not_coerced :
    Becomes (stockCatalog.typeOf? "stock") (.float (.infinite false)) (.float (.infinite false)) ∧
      ¬∃ result, stockCatalog.coerce "stock" (.float (.infinite false)) = .ok result := by
  constructor
  · refine .kept ⟨by simp, rfl⟩ fun declared hdeclared result h => ?_
    have hinteger : stockCatalog.typeOf? "stock" = some .integer := rfl
    exact h.not_exceeds (hdeclared.symm.trans hinteger)
  · rintro ⟨result, h⟩
    cases h

end FieldCatalog

end FacetedSearch
