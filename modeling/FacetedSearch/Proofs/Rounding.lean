import FacetedSearch.Number.Binary64
import Mathlib.Algebra.Ring.Int.Defs
import Mathlib.Algebra.Ring.Nat
import Mathlib.Tactic.Ring
import Mathlib.Tactic.SplitIfs

/-!
When rounding stays finite, and when it changes nothing. A ratio whose numerator has at most 1023
bits is never rounded beyond the greatest number; integers of 64 bits and their fractions are far
below it. A whole number is rounded to a finite one exactly up to half a unit beyond the greatest,
and to itself exactly where a significand of 53 bits holds it.
-/

namespace FacetedSearch

/-- The integers of 64 bits with a sign. -/
def IsLong (i : Int) : Prop := -2 ^ 63 ≤ i ∧ i < 2 ^ 63

instance (i : Int) : Decidable (IsLong i) := inferInstanceAs (Decidable (_ ∧ _))

theorem floorLog2_le (numerator denominator : Nat) :
    floorLog2 numerator denominator ≤ Nat.log2 numerator := by
  unfold floorLog2
  simp only
  split_ifs
  · omega
  · omega

/-- To scale by a power of the base multiplies the numerator. -/
theorem scaleRatio_nat (base shift : Nat) (ratio : Nat × Nat) :
    scaleRatio base shift ratio = (ratio.1 * base ^ shift, ratio.2) := by
  rw [scaleRatio, if_pos (Int.natCast_nonneg shift), Int.toNat_natCast, Nat.pow_eq]

/-- To scale by the inverse of a power of the base multiplies the denominator. -/
theorem scaleRatio_neg (base shift : Nat) (ratio : Nat × Nat) :
    scaleRatio base (-shift) ratio = (ratio.1, ratio.2 * base ^ shift) := by
  rcases Nat.eq_zero_or_pos shift with rfl | hpos
  · simp [scaleRatio]
  · have hneg : ¬0 ≤ -(shift : Int) := by omega
    rw [scaleRatio, if_neg hneg, neg_neg, Int.toNat_natCast, Nat.pow_eq]

/-- Rounding reaches an even number from below where it is not more than a half away. -/
theorem halfEven_eq_iff {numerator half even : Nat} (hhalf : 0 < half) (heven : even % 2 = 0)
    (hlt : numerator < even * (2 * half)) :
    halfEven numerator (2 * half) = even ↔ (2 * even - 1) * half ≤ numerator := by
  have hquotient : numerator / (2 * half) < even := Nat.div_lt_of_lt_mul (by rwa [Nat.mul_comm])
  have hdivision := Nat.div_add_mod numerator (2 * half)
  have hremainder : numerator % (2 * half) < 2 * half := Nat.mod_lt _ (by omega)
  unfold halfEven
  generalize numerator / (2 * half) = quotient at *
  generalize numerator % (2 * half) = remainder at *
  obtain ⟨gap, rfl⟩ : ∃ gap, even = quotient + 1 + gap := ⟨even - (quotient + 1), by omega⟩
  have hbound : (2 * (quotient + 1 + gap) - 1) * half =
      2 * half * quotient + half + gap * (2 * half) := by
    rw [show 2 * (quotient + 1 + gap) - 1 = 2 * quotient + 1 + 2 * gap by omega]
    ring
  rw [hbound]
  dsimp only
  rcases Nat.eq_zero_or_pos gap with rfl | hgap
  · split_ifs <;> omega
  · have hfar : 2 * half ≤ gap * (2 * half) := Nat.le_mul_of_pos_left _ hgap
    split_ifs <;> omega

/-- The binary length of a whole number is what its logarithm says. -/
theorem floorLog2_one {n : Nat} (hn : n ≠ 0) : floorLog2 n 1 = Nat.log2 n := by
  have hpower : 2 ^ Nat.log2 n ≤ n := Nat.log2_self_le hn
  have hone : Nat.log2 1 = 0 := by decide
  simp only [floorLog2, hone, scaleRatio, Nat.pow_eq, Nat.one_mul]
  split_ifs <;> simp_all

namespace Binary64

theorem isFinite_ofRatio {numerator bits : Nat} (hbits : bits ≤ 1023)
    (hnumerator : numerator < 2 ^ bits) (negative : Bool) (denominator : Nat) :
    (ofRatio negative numerator denominator).isFinite = true := by
  unfold ofRatio
  by_cases hzero : numerator = 0
  · rw [if_pos hzero]
    rfl
  · have hlog : Nat.log2 numerator < bits := (Nat.log2_lt hzero).mpr hnumerator
    have hfloor := floorLog2_le numerator denominator
    have hexponent : max (floorLog2 numerator denominator - 52) leastExponent ≤ 970 := by
      rw [leastExponent]
      omega
    -- a carry into the next power of two raises the exponent once
    have hfits : ∀ exponent : Int, exponent ≤ 971 → ¬greatestExponent < exponent := by
      intro exponent hle
      rw [greatestExponent]
      omega
    rw [if_neg hzero]
    simp only
    rw [if_neg]
    · rfl
    · apply hfits
      split_ifs
      · omega
      · omega

theorem natAbs_lt_of_isLong {i : Int} (hlong : IsLong i) : i.natAbs < 2 ^ 64 := by
  unfold IsLong at hlong
  omega

theorem isFinite_ofQuotient {i : Int} (hlong : IsLong i) (divisor : Nat) :
    (ofQuotient i divisor).isFinite = true :=
  isFinite_ofRatio (by decide) (natAbs_lt_of_isLong hlong) _ _

theorem isFinite_ofInt {i : Int} (hlong : IsLong i) : (ofInt i).isFinite = true :=
  isFinite_ofRatio (by decide) (natAbs_lt_of_isLong hlong) _ _

theorem pos_of_log2_eq {n extra : Nat} (hlog : Nat.log2 n = 52 + extra) : 0 < n := by
  apply Nat.pos_of_ne_zero
  rintro rfl
  rw [Nat.log2_zero] at hlog
  omega

/-- A number of 53 bits or more lies between two powers of two. -/
theorem bounds_of_log2_eq {n extra : Nat} (hlog : Nat.log2 n = 52 + extra) :
    2 ^ 52 * 2 ^ extra ≤ n ∧ n < 2 ^ 53 * 2 ^ extra := by
  rw [← pow_add, ← pow_add, Nat.add_right_comm 52 1 extra, ← hlog]
  exact ⟨Nat.log2_self_le (pos_of_log2_eq hlog).ne', Nat.lt_log2_self⟩

/-- A whole number of 53 bits or more keeps its first 53 bits; only a carry lengthens it. -/
theorem ofInt_eq_of_long {i : Int} {extra : Nat} (hlog : Nat.log2 i.natAbs = 52 + extra) :
    ofInt i =
      if halfEven i.natAbs (2 ^ extra) = 2 ^ 53 then
        if extra + 1 ≤ 971 then .finite (i < 0) (2 ^ 52) (extra + 1 : Nat) else .infinite (i < 0)
      else if extra ≤ 971 then .finite (i < 0) (halfEven i.natAbs (2 ^ extra)) extra
      else .infinite (i < 0) := by
  have hi : i.natAbs ≠ 0 := (pos_of_log2_eq hlog).ne'
  have hexponent : max ((Nat.log2 i.natAbs : Int) - 52) leastExponent = extra := by
    rw [leastExponent]
    omega
  rw [ofInt, ofRatio, if_neg hi, floorLog2_one hi, hexponent]
  simp only [scaleRatio_neg, Nat.one_mul, Nat.pow_eq, greatestExponent]
  -- an exponent beyond the greatest one gives an infinity
  split_ifs with hcarry hbeyond hfits hfits hbeyond hfits hfits
  · omega
  · rfl
  · rfl
  · omega
  · omega
  · rfl
  · rfl
  · omega

theorem isFinite_ofInt_of_long {i : Int} {extra : Nat}
    (hlog : Nat.log2 i.natAbs = 52 + extra) :
    (ofInt i).isFinite = true ↔
      if halfEven i.natAbs (2 ^ extra) = 2 ^ 53 then extra + 1 ≤ 971 else extra ≤ 971 := by
  rw [ofInt_eq_of_long hlog]
  split_ifs with hcarry hfits hfits
  · exact iff_of_true rfl hfits
  · exact iff_of_false Bool.false_ne_true hfits
  · exact iff_of_true rfl hfits
  · exact iff_of_false Bool.false_ne_true hfits

/-- The significand of a number with more than 53 bits is carried from half a unit below on. -/
theorem halfEven_carries_iff {n extra : Nat} (hlog : Nat.log2 n = 53 + extra) :
    halfEven n (2 ^ (extra + 1)) = 2 ^ 53 ↔ (2 * 2 ^ 53 - 1) * 2 ^ extra ≤ n := by
  have hlt : n < 2 ^ (Nat.log2 n + 1) := Nat.lt_log2_self
  rw [hlog, Nat.add_assoc, pow_add, pow_succ' 2 extra] at hlt
  rw [pow_succ']
  exact halfEven_eq_iff (pow_pos two_pos extra) (by decide) hlt

theorem exponent_le_iff {n extra top : Nat} (hlog : Nat.log2 n = 52 + extra) :
    (if halfEven n (2 ^ extra) = 2 ^ 53 then extra + 1 ≤ top + 1 else extra ≤ top + 1) ↔
      n < (2 * 2 ^ 53 - 1) * 2 ^ top := by
  obtain ⟨hpower, hlt⟩ := bounds_of_log2_eq hlog
  -- only a number whose exponent is the greatest one can be carried beyond it
  rcases Nat.lt_trichotomy extra (top + 1) with hnear | rfl | hfar
  · have hle : 2 ^ extra ≤ 2 ^ top := Nat.pow_le_pow_right two_pos (by omega)
    refine iff_of_true (by split_ifs <;> omega) ?_
    calc n < 2 ^ 53 * 2 ^ extra := hlt
      _ ≤ (2 * 2 ^ 53 - 1) * 2 ^ top := Nat.mul_le_mul (by decide) hle
  · have hcarry := halfEven_carries_iff (show Nat.log2 n = 53 + top by omega)
    split_ifs with h
    · exact iff_of_false (by omega) (hcarry.mp h).not_gt
    · exact iff_of_true (le_refl _) (not_le.mp (mt hcarry.mpr h))
  · have hle : 2 * (2 * 2 ^ top) ≤ 2 ^ extra := by
      rw [← pow_succ', ← pow_succ']
      exact Nat.pow_le_pow_right two_pos hfar
    refine iff_of_false (by split_ifs <;> omega) (not_lt.mpr ?_)
    omega

/-- The least natural number that is not rounded to a finite one, half a unit beyond the greatest. -/
def overflowBound : Nat := (2 * 2 ^ 53 - 1) * 2 ^ 970

theorem isFinite_ofInt_iff {i : Int} :
    (ofInt i).isFinite = true ↔ i.natAbs < overflowBound := by
  rcases Nat.lt_or_ge (Nat.log2 i.natAbs) 52 with hshort | hlong
  · have hsmall : i.natAbs < 2 ^ 52 :=
      Nat.lt_log2_self.trans_le (Nat.pow_le_pow_right two_pos hshort)
    refine iff_of_true (isFinite_ofRatio (by decide) hsmall _ _) ?_
    have hunit : 0 < 2 ^ 970 := pow_pos two_pos _
    calc i.natAbs < 2 ^ 52 * 1 := hsmall
      _ ≤ overflowBound := Nat.mul_le_mul (by decide) hunit
  · obtain ⟨extra, hlog⟩ := Nat.exists_eq_add_of_le hlong
    rw [isFinite_ofInt_of_long hlog, overflowBound]
    exact exponent_le_iff hlog

/-- A whole number of at most 52 bits is scaled up to 53 bits, and nothing is rounded. -/
theorem ofInt_eq_of_short {i : Int} (hi : i ≠ 0) (hshort : Nat.log2 i.natAbs < 52) :
    ofInt i = .finite (i < 0) (i.natAbs * 2 ^ (52 - Nat.log2 i.natAbs))
      (-(52 - Nat.log2 i.natAbs : Nat)) := by
  have hnat : i.natAbs ≠ 0 := Int.natAbs_ne_zero.mpr hi
  have hexponent : max ((Nat.log2 i.natAbs : Int) - 52) leastExponent =
      -(52 - Nat.log2 i.natAbs : Nat) := by
    rw [leastExponent]
    omega
  have hlt : i.natAbs * 2 ^ (52 - Nat.log2 i.natAbs) < 2 ^ 53 := by
    calc i.natAbs * 2 ^ (52 - Nat.log2 i.natAbs)
        < 2 ^ (Nat.log2 i.natAbs + 1) * 2 ^ (52 - Nat.log2 i.natAbs) :=
          Nat.mul_lt_mul_of_pos_right Nat.lt_log2_self (pow_pos two_pos _)
      _ = 2 ^ 53 := by rw [← pow_add]; congr 1; omega
  have hwhole : ∀ n, halfEven n 1 = n := by
    intro n
    simp [halfEven, Nat.mod_one]
  rw [ofInt, ofRatio, if_neg hnat, floorLog2_one hnat, hexponent]
  simp only [neg_neg, scaleRatio_nat, hwhole, Nat.pow_eq, if_neg hlt.ne, greatestExponent]
  rw [if_neg (by omega)]

/-- Only an infinity is not finite: rounding gives no not-a-number. -/
theorem ofRatio_of_not_isFinite {negative : Bool} {numerator denominator : Nat}
    (h : (ofRatio negative numerator denominator).isFinite = false) :
    ofRatio negative numerator denominator = .infinite negative := by
  unfold ofRatio at h ⊢
  simp only at h ⊢
  split_ifs at h ⊢ <;> first | rfl | cases h

theorem div_le_halfEven (numerator denominator : Nat) :
    numerator / denominator ≤ halfEven numerator denominator := by
  unfold halfEven
  dsimp only
  split_ifs <;> omega

/-- A positive integer is rounded to a positive number. -/
theorem isNonPositive_ofInt {i : Int} (hpositive : 0 < i) : (ofInt i).isNonPositive = false := by
  have hsign : decide (i < 0) = false := decide_eq_false hpositive.not_gt
  rcases Nat.lt_or_ge (Nat.log2 i.natAbs) 52 with hshort | hlong
  · rw [ofInt_eq_of_short hpositive.ne' hshort, hsign]
    simpa [isNonPositive] using hpositive.ne'
  · obtain ⟨extra, hlog⟩ := Nat.exists_eq_add_of_le hlong
    have hpower : 2 ^ extra ≤ i.natAbs := by
      calc 2 ^ extra ≤ 2 ^ 52 * 2 ^ extra := Nat.le_mul_of_pos_left _ (by decide)
        _ ≤ i.natAbs := (bounds_of_log2_eq hlog).1
    have hsize : halfEven i.natAbs (2 ^ extra) ≠ 0 :=
      ((Nat.div_pos hpower (pow_pos two_pos extra)).trans_le (div_le_halfEven _ _)).ne'
    rw [ofInt_eq_of_long hlog, hsign]
    split_ifs
    · rfl
    · rfl
    · simpa [isNonPositive] using hsize
    · rfl

theorem finite_of_isNonPositive_eq_false {negative : Bool} {significand : Nat} {exponent : Int}
    (h : (finite negative significand exponent).isNonPositive = false) :
    negative = false ∧ 0 < significand := by
  obtain ⟨hnegative, hsignificand⟩ := Bool.or_eq_false_iff.mp h
  exact ⟨hnegative, Nat.pos_of_ne_zero (ne_of_beq_false hsignificand)⟩

/-- A positive number that is an integer is a positive integer. -/
theorem toInt?_pos {x : Binary64} {i : Int} (hpositive : x.isNonPositive = false)
    (h : x.toInt? = some i) : 0 < i := by
  cases x with
  | nan => cases h
  | infinite negative => cases h
  | finite negative significand exponent =>
      obtain ⟨rfl, hpos⟩ := finite_of_isNonPositive_eq_false hpositive
      have hnumerator : 0 < (magnitude significand exponent).1 := by
        rw [magnitude, scaleRatio]
        split_ifs
        · exact Nat.mul_pos hpos (pow_pos two_pos _)
        · exact hpos
      rw [toInt?] at h
      dsimp only at h
      rw [if_neg Bool.false_ne_true] at h
      split_ifs at h with hwhole
      cases h
      have hdivides := Nat.dvd_of_mod_eq_zero hwhole
      have hle := Nat.le_of_dvd hnumerator hdivides
      exact Int.natCast_pos.mpr (Nat.div_pos hle (Nat.pos_of_dvd_of_pos hdivides hnumerator))

/-- A whole number that a binary one holds: a significand of at most 53 bits, times a power of two
up to the greatest one. -/
def IsExact (i : Int) : Prop :=
  ∃ significand exponent : Nat,
    significand < 2 ^ 53 ∧ exponent ≤ 971 ∧ i.natAbs = significand * 2 ^ exponent

/-- The integer of a sign and a size. -/
theorem signed_natAbs (i : Int) :
    (if decide (i < 0) = true then -(i.natAbs : Int) else i.natAbs) = i := by
  split_ifs with hnegative
  · have hlt := of_decide_eq_true hnegative
    omega
  · have hge : ¬i < 0 := fun hlt => hnegative (decide_eq_true hlt)
    omega

theorem natAbs_signed (negative : Bool) (n : Nat) :
    (if negative = true then -(n : Int) else n).natAbs = n := by
  split_ifs
  · rw [Int.natAbs_neg, Int.natAbs_natCast]
  · rw [Int.natAbs_natCast]

theorem toInt?_finite_nat (negative : Bool) (significand exponent : Nat) :
    (finite negative significand exponent).toInt? =
      some (if negative then -((significand * 2 ^ exponent : Nat) : Int)
        else (significand * 2 ^ exponent : Nat)) := by
  simp [toInt?, magnitude, scaleRatio_nat, Nat.mod_one]

theorem toInt?_finite_neg (negative : Bool) (whole exponent : Nat) :
    (finite negative (whole * 2 ^ exponent) (-exponent)).toInt? =
      some (if negative then -(whole : Int) else whole) := by
  rw [toInt?, magnitude, scaleRatio_neg, Nat.one_mul]
  dsimp only
  rw [if_pos (Nat.mul_mod_left _ _), Nat.mul_div_cancel _ (pow_pos two_pos exponent)]

theorem toInt?_zero (negative : Bool) : (zero negative).toInt? = some 0 := by
  have hwhole := toInt?_finite_neg negative 0 1074
  rw [Nat.zero_mul] at hwhole
  exact hwhole.trans (by simp)

theorem halfEven_mul {divisor : Nat} (hpos : 0 < divisor) (quotient : Nat) :
    halfEven (quotient * divisor) divisor = quotient := by
  simp [halfEven, hpos]

/-- A long number that is read back as itself has the 53 bits that it was rounded to. -/
theorem isExact_of_toInt?_long {i : Int} {extra : Nat} (hlog : Nat.log2 i.natAbs = 52 + extra)
    (h : (ofInt i).toInt? = some i) : IsExact i := by
  obtain ⟨-, hlt⟩ := bounds_of_log2_eq hlog
  rw [ofInt_eq_of_long hlog] at h
  split_ifs at h with hcarry hfits hfits
  · -- a carried significand is more than the number itself
    have hsize := natAbs_signed (decide (i < 0)) (2 ^ 52 * 2 ^ (extra + 1))
    rw [toInt?_finite_nat, Option.some.injEq] at h
    rw [h, pow_succ] at hsize
    omega
  · cases h
  · have hsize := natAbs_signed (decide (i < 0)) (halfEven i.natAbs (2 ^ extra) * 2 ^ extra)
    rw [toInt?_finite_nat, Option.some.injEq] at h
    rw [h] at hsize
    refine ⟨_, extra, ?_, hfits, hsize⟩
    rw [hsize] at hlt
    exact Nat.lt_of_mul_lt_mul_right hlt
  · cases h

/-- Rounding a long number to 53 bits loses nothing of one that has no more of them. -/
theorem toInt?_of_isExact_long {i : Int} {extra : Nat} (hlog : Nat.log2 i.natAbs = 52 + extra)
    (hexact : IsExact i) : (ofInt i).toInt? = some i := by
  obtain ⟨significand, exponent, hsignificand, hexponent, hsize⟩ := hexact
  obtain ⟨hge, hlt⟩ := bounds_of_log2_eq hlog
  have hpower : 2 ^ (52 + extra) < 2 ^ (53 + exponent) := by
    calc 2 ^ (52 + extra) = 2 ^ 52 * 2 ^ extra := pow_add 2 52 extra
      _ ≤ i.natAbs := hge
      _ = significand * 2 ^ exponent := hsize
      _ < 2 ^ 53 * 2 ^ exponent :=
        Nat.mul_lt_mul_of_pos_right hsignificand (pow_pos two_pos exponent)
      _ = 2 ^ (53 + exponent) := (pow_add 2 53 exponent).symm
  have hle : extra ≤ exponent := by
    have := (Nat.pow_lt_pow_iff_right (by decide)).mp hpower
    omega
  obtain ⟨more, rfl⟩ := Nat.exists_eq_add_of_le' hle
  rw [pow_add, ← Nat.mul_assoc] at hsize
  have hrounded : halfEven i.natAbs (2 ^ extra) = significand * 2 ^ more := by
    rw [hsize, halfEven_mul (pow_pos two_pos extra)]
  have hcarry : significand * 2 ^ more ≠ 2 ^ 53 := by
    intro hcarry
    rw [hsize, hcarry] at hlt
    exact lt_irrefl _ hlt
  rw [ofInt_eq_of_long hlog, hrounded, if_neg hcarry, if_pos (by omega), toInt?_finite_nat,
    ← hsize, signed_natAbs]

/-- Rounding changes nothing of the whole numbers that a binary number holds, and of no others. -/
theorem toInt?_ofInt_iff {i : Int} : (ofInt i).toInt? = some i ↔ IsExact i := by
  rcases Nat.lt_or_ge (Nat.log2 i.natAbs) 52 with hshort | hlong
  · refine iff_of_true ?_ ⟨i.natAbs, 0, ?_, by decide, by rw [pow_zero, Nat.mul_one]⟩
    · rcases eq_or_ne i 0 with rfl | hi
      · exact toInt?_zero false
      · rw [ofInt_eq_of_short hi hshort, toInt?_finite_neg, signed_natAbs]
    · calc i.natAbs < 2 ^ (Nat.log2 i.natAbs + 1) := Nat.lt_log2_self
        _ ≤ 2 ^ 53 := Nat.pow_le_pow_right two_pos (by omega)
  · obtain ⟨extra, hlog⟩ := Nat.exists_eq_add_of_le hlong
    exact ⟨isExact_of_toInt?_long hlog, toInt?_of_isExact_long hlog⟩

end Binary64

end FacetedSearch
