import FacetedSearch.Proofs.Outcome
import FacetedSearch.Proofs.WrittenIntegers

/-!
Granularities that are refused. A granularity has an interval if it is null, the name of a unit, or
a number that is not below or at zero. All others are refused, and the refusal shows the
granularity; but an integer of too many digits cannot be shown, so that its refusal ends in a fault
that the request is not blamed for.
-/

namespace FacetedSearch.Granularity

open Outcome (EndsIn)

/-- Null, the name of a unit, or a number, or a numeral, that is not below or at zero. -/
def IsInterval (granularity : Value) : Prop :=
  granularity = .null ∨ (∃ name ∈ granularity.text?, (seconds? name).isSome = true) ∨
    ∃ number ∈ number? granularity, isNonPositive number = false

instance (granularity : Value) : Decidable (IsInterval granularity) :=
  inferInstanceAs (Decidable (_ ∨ _ ∨ _))

/-- A granularity that is refused but cannot be shown. -/
def IsUnwritable (granularity : Value) : Prop :=
  ¬IsInterval granularity ∧ granularity.isWritable = false

instance (granularity : Value) : Decidable (IsUnwritable granularity) :=
  inferInstanceAs (Decidable (_ ∧ _))

variable {granularity : Value}

/-- Where no unit is named, a number is asked for. -/
theorem isInterval_iff_of_unnamed (hnull : granularity ≠ .null)
    (hnamed : ∀ name ∈ granularity.text?, seconds? name = none) :
    IsInterval granularity ↔ ∃ number ∈ number? granularity, isNonPositive number = false := by
  have hunnamed : ¬∃ name ∈ granularity.text?, (seconds? name).isSome = true := by
    rintro ⟨name, hname, hseconds⟩
    rw [hnamed name hname] at hseconds
    cases hseconds
  rw [IsInterval, or_iff_right hnull, or_iff_right hunnamed]

/-- Integers are shown up to a limit of digits. -/
theorem isUnwritable_int_iff {i : Int} :
    IsUnwritable (.int i) ↔ i ≤ 0 ∧ 10 ^ Numeral.digitLimit ≤ i.natAbs := by
  have hinterval : IsInterval (.int i) ↔ 0 < i := by
    rw [isInterval_iff_of_unnamed (by simp) (by simp [Value.text?])]
    simp [number?, isNonPositive]
  have hwritable : (Value.int i).isWritable = true ↔ i.natAbs < 10 ^ Numeral.digitLimit := by
    rw [Value.isWritable, decide_eq_true_iff]
    exact Numeral.decimalLength_le_iff (by decide)
  rw [IsUnwritable, hinterval, not_lt, ← Bool.not_eq_true, hwritable, not_lt]

theorem refusal_of_isWritable (h : granularity.isWritable = true) :
    refusal granularity = .unsupportedGranularity granularity := if_pos h

theorem refusal_of_not_isWritable (h : granularity.isWritable = false) :
    refusal granularity = .wrongValue := if_neg (by simp [h])

/-- A refusal blames the request if it can show the granularity. -/
theorem refused_endsIn {acceptable : Prop} (h : ¬acceptable) :
    EndsIn acceptable (granularity.isWritable = false)
      (.error (refusal granularity) : Outcome Value) := by
  cases hwritable : granularity.isWritable with
  | true =>
      rw [refusal_of_isWritable hwritable]
      exact .refused rfl h nofun
  | false =>
      rw [refusal_of_not_isWritable hwritable]
      exact .slipped rfl h rfl

theorem numericInterval_endsIn (granularity : Value) :
    EndsIn (∃ number ∈ number? granularity, isNonPositive number = false)
      ((¬∃ number ∈ number? granularity, isNonPositive number = false) ∧
        granularity.isWritable = false)
      (numericInterval granularity) := by
  unfold numericInterval
  cases number? granularity with
  | none => exact (refused_endsIn (by simp)).congr .rfl (by simp)
  | some number =>
      dsimp only
      split_ifs with hsign
      · exact (refused_endsIn (by simp [hsign])).congr .rfl (by simp [hsign])
      · have hnumber : ∃ n ∈ some number, isNonPositive n = false :=
          ⟨number, rfl, Bool.eq_false_iff.mpr hsign⟩
        exact .accepted number hnumber fun hnone => hnone.1 hnumber

theorem interval_endsIn (granularity : Value) :
    EndsIn (IsInterval granularity) (IsUnwritable granularity) (interval granularity) := by
  have hnumeric : granularity ≠ .null → (∀ name ∈ granularity.text?, seconds? name = none) →
      EndsIn (IsInterval granularity) (IsUnwritable granularity) (numericInterval granularity) := by
    intro hnull hnamed
    have hinterval := isInterval_iff_of_unnamed hnull hnamed
    refine (numericInterval_endsIn granularity).congr hinterval.symm ?_
    rw [IsUnwritable, hinterval]
  cases granularity with
  | null => exact .accepted _ (.inl rfl) fun h => h.1 (.inl rfl)
  | str name =>
      rw [interval]
      cases hname : seconds? name with
      | some seconds =>
          have hunit : IsInterval (.str name) := .inr (.inl ⟨name, rfl, by rw [hname]; rfl⟩)
          exact .accepted _ hunit fun h => h.1 hunit
      | none => exact hnumeric (by simp) (by simpa [Value.text?] using hname)
  | _ => exact hnumeric (by simp) (by simp [Value.text?])

end FacetedSearch.Granularity
