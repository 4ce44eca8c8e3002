import FacetedSearch.Aggregation.Granularity
import FacetedSearch.Catalog.Coercion
import FacetedSearch.Proofs.Rounding
import Mathlib.Data.List.TakeWhile

/-!
Integers written in decimal digits. The liberal readings take the written form of an integer as it
stands: as an integer it is read up to the longest numeral, and as a floating-point number it is
read as the integer rounded, at any length. It names no calendar unit.
-/

namespace FacetedSearch

namespace Text

/-- Nothing is trimmed where there are no blanks. -/
theorem trimBy_of_forall {blank : Char → Bool} {chars : List Char}
    (h : ∀ c ∈ chars, blank c = false) : trimBy blank chars = chars := by
  have hkeep : ∀ kept : List Char, (∀ c ∈ kept, blank c = false) →
      kept.dropWhile blank = kept := by
    intro kept hkept
    cases kept with
    | nil => rfl
    | cons c rest => exact List.dropWhile_cons_of_neg (by simp [hkept c])
  rw [trimBy, hkeep chars h, hkeep chars.reverse fun c hc => h c (List.mem_reverse.mp hc),
    List.reverse_reverse]

end Text

namespace Numeral

theorem code_of_isDigit {c : Char} (h : c.isDigit = true) : 48 ≤ c.toNat ∧ c.toNat ≤ 57 := by
  obtain ⟨hlower, hupper⟩ := Bool.and_eq_true_iff.mp h
  exact ⟨UInt32.le_iff_toNat_le.mp (of_decide_eq_true hlower),
    UInt32.le_iff_toNat_le.mp (of_decide_eq_true hupper)⟩

theorem toLower_of_isDigit {c : Char} (h : c.isDigit = true) : c.toLower = c := by
  have hupper : ¬(c.val ≥ 'A'.val ∧ c.val ≤ 'Z'.val) := by
    rintro ⟨hletter, -⟩
    have hcode := (UInt32.le_iff_toNat_le.mp hletter).trans (code_of_isDigit h).2
    exact absurd hcode (by decide)
  exact dif_neg hupper

theorem asciiDigit?_of_isDigit {c : Char} (h : c.isDigit = true) :
    Text.asciiDigit? c = some (c.toNat - 0x30) := by
  have hcode := code_of_isDigit h
  exact if_pos ⟨Char.le_def.mpr (UInt32.le_iff_toNat_le.mpr hcode.1),
    Char.le_def.mpr (UInt32.le_iff_toNat_le.mpr hcode.2)⟩

/-! Digits of a natural number. -/

theorem isDigit_of_mem {n : Nat} {c : Char} (h : c ∈ Nat.toDigits 10 n) : c.isDigit = true :=
  Nat.isDigit_of_mem_toDigits (by decide) (by decide) h

theorem exists_mem_toDigits (n : Nat) : ∃ c, c ∈ Nat.toDigits 10 n :=
  List.exists_mem_of_ne_nil _ Nat.toDigits_ne_nil

theorem decimalLength_le_iff {n length : Nat} (hlength : 0 < length) :
    decimalLength n ≤ length ↔ n < 10 ^ length :=
  Nat.length_toDigits_le_iff (by decide) hlength

/-- The values of the decimal digits of a natural number. -/
def decimalDigits (n : Nat) : List Nat := (Nat.toDigits 10 n).map fun c => c.toNat - 0x30

theorem digits?_toDigits (n : Nat) : digits? (Nat.toDigits 10 n) = some (decimalDigits n) := by
  have hmap : ∀ chars : List Char, (∀ c ∈ chars, c.isDigit = true) →
      chars.mapM Text.asciiDigit? = some (chars.map fun c => c.toNat - 0x30) := by
    intro chars hdigits
    induction chars with
    | nil => rfl
    | cons c rest ih =>
        obtain ⟨hc, hrest⟩ := List.forall_mem_cons.mp hdigits
        rw [List.mapM_cons, asciiDigit?_of_isDigit hc, ih hrest]
        rfl
  have hnonempty : (Nat.toDigits 10 n).isEmpty = false :=
    List.isEmpty_eq_false_iff.mpr Nat.toDigits_ne_nil
  rw [digits?, hnonempty, hmap _ fun _ => isDigit_of_mem]
  rfl

theorem valueOfDigits_decimalDigits (n : Nat) : valueOfDigits (decimalDigits n) = n := by
  rw [valueOfDigits, decimalDigits, List.foldl_map]
  exact Nat.ofDigitChars_eq_foldl.symm.trans Nat.ofDigitChars_ten_toDigits

/-! The written form of an integer. -/

/-- A minus or a digit. -/
def IsWritten (c : Char) : Prop := c = '-' ∨ c.isDigit = true

theorem IsWritten.code {c : Char} (h : IsWritten c) : 45 ≤ c.toNat ∧ c.toNat ≤ 57 := by
  rcases h with rfl | h
  · decide
  · have hcode := code_of_isDigit h
    omega

theorem IsWritten.isNumeralBlank {c : Char} (h : IsWritten c) :
    Text.isNumeralBlank c = false := by
  have hcode := h.code
  have hwide : c.toNat ∉ Text.wideBlanks := by
    intro hmem
    have hbound : ∀ code ∈ Text.wideBlanks, 57 < code := by decide
    exact absurd (hbound _ hmem) (by omega)
  simp [Text.isNumeralBlank, hwide]
  omega

theorem toAscii?_of_forall {chars : List Char} (h : ∀ c ∈ chars, IsWritten c) :
    toAscii? chars = some chars := by
  unfold toAscii?
  induction chars with
  | nil => rfl
  | cons c rest ih =>
      obtain ⟨hc, hrest⟩ := List.forall_mem_cons.mp h
      have hcode := hc.code
      rw [List.mapM_cons, if_pos (by omega), ih hrest]
      rfl

theorem dropUnderscores?_of_not_mem {chars : List Char} (h : '_' ∉ chars) :
    dropUnderscores? chars = some chars := by
  fun_induction dropUnderscores? chars with
  | case1 => rfl
  | case2 rest => exact absurd List.mem_cons_self h
  | case3 c d rest hne hdigits ih => simp at h
  | case4 c d rest hne hdigits => simp at h
  | case5 c rest hne hpair ih =>
      rw [ih fun hmem => h (List.mem_cons_of_mem c hmem)]
      rfl

theorem toList_toString (i : Int) :
    (toString i).toList = (if i < 0 then ['-'] else []) ++ Nat.toDigits 10 i.natAbs := by
  rw [Int.toString_eq_repr, Int.repr_eq_if]
  split_ifs with hle hlt hlt
  · omega
  · rw [Nat.repr_eq_ofList_toDigits, String.toList_ofList, show i.toNat = i.natAbs by omega]
    rfl
  · rw [String.toList_append, Nat.repr_eq_ofList_toDigits, String.toList_ofList,
      show (-i).toNat = i.natAbs by omega]
    simp
  · omega

theorem isWritten_of_mem {i : Int} {c : Char} (h : c ∈ (toString i).toList) : IsWritten c := by
  rw [toList_toString, List.mem_append] at h
  rcases h with h | h
  · split_ifs at h
    · exact .inl (List.mem_singleton.mp h)
    · cases h
  · exact .inr (isDigit_of_mem h)

/-- There are no blanks around what is written, and no underscores in it. -/
theorem liberal?_toString (i : Int) : liberal? (toString i) = some (toString i).toList := by
  have hwritten : ∀ c ∈ (toString i).toList, IsWritten c := fun _ => isWritten_of_mem
  have hunderscore : '_' ∉ (toString i).toList := fun h => absurd (hwritten _ h).code (by decide)
  rw [liberal?, toAscii?_of_forall hwritten]
  show dropUnderscores? (Text.trimBy Text.isNumeralBlank (toString i).toList) = _
  rw [Text.trimBy_of_forall fun c hc => (hwritten c hc).isNumeralBlank,
    dropUnderscores?_of_not_mem hunderscore]

theorem splitSign_toDigits (n : Nat) :
    splitSign (Nat.toDigits 10 n) = (false, Nat.toDigits 10 n) := by
  have hdigits : ∀ c ∈ Nat.toDigits 10 n, c.isDigit = true := fun _ => isDigit_of_mem
  unfold splitSign
  split
  · next heq => exact absurd (hdigits '-' (heq ▸ List.mem_cons_self)) (by decide)
  · next heq => exact absurd (hdigits '+' (heq ▸ List.mem_cons_self)) (by decide)
  · rfl

theorem splitSign_toString (i : Int) :
    splitSign (toString i).toList = (decide (i < 0), Nat.toDigits 10 i.natAbs) := by
  rw [toList_toString]
  split_ifs with hnegative
  · rw [decide_eq_true hnegative]
    rfl
  · rw [decide_eq_false hnegative]
    exact splitSign_toDigits i.natAbs

/-- An integer is read as it was written, up to the longest numeral. -/
theorem readInt?_toString {i : Int} (hlength : decimalLength i.natAbs ≤ digitLimit) :
    readInt? (toString i) = some i := by
  have hlimit : ¬digitLimit < (decimalDigits i.natAbs).length := by
    rw [decimalDigits, List.length_map]
    exact not_lt.mpr hlength
  simp only [readInt?, liberal?_toString, Option.bind_eq_bind, Option.bind_some,
    splitSign_toString, digits?_toDigits, hlimit, valueOfDigits_decimalDigits, if_false,
    Option.some.injEq]
  exact Binary64.signed_natAbs i

/-! Floating-point numbers of whole numerals. -/

theorem overflowBound_le : Binary64.overflowBound ≤ 10 ^ 310 := by
  decide +kernel

/-- A whole numeral is rounded at any length: what is too long for a finite number is infinite. -/
theorem ofDecimal_zero (i : Int) : Binary64.ofDecimal (i < 0) i.natAbs 0 = Binary64.ofInt i := by
  unfold Binary64.ofDecimal
  simp only
  split_ifs with hzero hlong hshort
  · rw [Binary64.ofInt, Binary64.ofRatio, if_pos hzero]
  · have hpower : 10 ^ 310 ≤ i.natAbs :=
      not_lt.mp (mt (decimalLength_le_iff (by decide)).mpr (by omega))
    have hinfinite : (Binary64.ofInt i).isFinite = false := by
      rw [Bool.eq_false_iff, ne_eq, Binary64.isFinite_ofInt_iff]
      exact not_lt.mpr (overflowBound_le.trans hpower)
    exact (Binary64.ofRatio_of_not_isFinite hinfinite).symm
  · omega
  · simp [scaleRatio, Binary64.ofInt]

theorem readDecimal?_toDigits (negative : Bool) (n : Nat) :
    readDecimal? negative (Nat.toDigits 10 n) = some (Binary64.ofDecimal negative n 0) := by
  have hdigits : ∀ c ∈ Nat.toDigits 10 n, isAsciiDigit c = true := by
    intro c hc
    rw [isAsciiDigit, asciiDigit?_of_isDigit (isDigit_of_mem hc)]
    rfl
  simp only [readDecimal?, List.takeWhile_eq_self_iff.mpr hdigits,
    List.dropWhile_eq_nil_iff.mpr hdigits, List.append_nil, digits?_toDigits]
  show some (Binary64.ofDecimal negative (valueOfDigits (decimalDigits n)) 0) = _
  rw [valueOfDigits_decimalDigits]

/-- Digits are no letters of a word. -/
theorem map_toLower_ne (n : Nat) (word : List Char) (hword : word.any Char.isDigit = false) :
    ((Nat.toDigits 10 n).map Char.toLower == word) = false := by
  rw [beq_eq_false_iff_ne]
  rintro rfl
  obtain ⟨c, hc⟩ := exists_mem_toDigits n
  have hletter := List.any_eq_false.mp hword _ (List.mem_map_of_mem hc)
  rw [toLower_of_isDigit (isDigit_of_mem hc)] at hletter
  exact hletter (isDigit_of_mem hc)

theorem readFloat?_toString (i : Int) : readFloat? (toString i) = some (Binary64.ofInt i) := by
  have hinf := map_toLower_ne i.natAbs "inf".toList (by decide)
  have hinfinity := map_toLower_ne i.natAbs "infinity".toList (by decide)
  have hnan := map_toLower_ne i.natAbs "nan".toList (by decide)
  rw [readFloat?, liberal?_toString]
  show readReal? (toString i).toList = _
  simp only [readReal?, splitSign_toString, hinf, hinfinity, hnan]
  exact (readDecimal?_toDigits _ _).trans (congrArg some (ofDecimal_zero i))

end Numeral

/-- What is written in digits names no unit. -/
theorem Granularity.seconds?_toString (i : Int) : seconds? (toString i) = none := by
  have hnames : ∀ unit ∈ units, unit.1.toList.any Char.isDigit = false := by decide
  obtain ⟨c, hc⟩ := Numeral.exists_mem_toDigits i.natAbs
  have hdigit := Numeral.isDigit_of_mem hc
  have hkept : Text.lowercaseChar c = c := by
    have hcode : ¬c.toNat = 0x212a := by
      have := Numeral.code_of_isDigit hdigit
      omega
    simp [Text.lowercaseChar, hcode, Numeral.toLower_of_isDigit hdigit]
  have hmem : c ∈ (Text.lowercase (toString i)).toList := by
    rw [Text.lowercase, String.toList_ofList, Numeral.toList_toString]
    exact List.mem_map.mpr ⟨c, List.mem_append_right _ hc, hkept⟩
  unfold seconds?
  by_contra hsome
  obtain ⟨seconds, hseconds⟩ := Option.ne_none_iff_exists'.mp hsome
  obtain ⟨before, after, heq, -⟩ := List.lookup_eq_some_iff.mp hseconds
  have hletters := hnames (Text.lowercase (toString i), seconds) (heq ▸ by simp)
  exact List.any_eq_false.mp hletters c hmem hdigit

/-- As a bound of a range, a text in digits is the integer. -/
theorem FieldCatalog.coerceBound_toString {i : Int}
    (hlength : decimalLength i.natAbs ≤ Numeral.digitLimit) :
    coerceBound (.str (toString i)) = coerceBound (.int i) := by
  simp only [coerceBound, Numeral.readInt?_toString hlength]

end FacetedSearch
