import FacetedSearch.FieldPath
import FacetedSearch.Number.Format
import Mathlib.Data.List.Chain

/-!
Names without the separator of ids. The dotted path of an id is one, with what is written after it
where that does not go on with an underscore, and a name is its own dotted path exactly where it is
one.
-/

namespace FacetedSearch

namespace FieldPath

/-- A name in which no separator of ids is left. -/
def IsResolved (name : String) : Prop := ¬separator.toList <:+: name.toList

instance (name : String) : Decidable (IsResolved name) := inferInstanceAs (Decidable (¬_))

/-- Not both underscores. -/
def Apart (c d : Char) : Prop := ¬(c = '_' ∧ d = '_')

theorem isResolved_iff {name : String} : IsResolved name ↔ name.toList.IsChain Apart := by
  rw [IsResolved, List.isChain_iff_forall_rel_of_append_cons_cons]
  constructor
  · rintro h c d before after heq ⟨rfl, rfl⟩
    exact h ⟨before, after, by rw [heq]; simp [separator]⟩
  · rintro h ⟨before, after, heq⟩
    have hpair : name.toList = before ++ '_' :: '_' :: after := by
      rw [← heq]
      simp [separator]
    exact h hpair ⟨rfl, rfl⟩

theorem head?_dotChars {chars : List Char} (h : (dotChars chars).head? = some '_') :
    chars.head? = some '_' := by
  revert h
  fun_cases dotChars chars with
  | case1 rest => simp
  | case2 c rest hpair => simp
  | case3 => simp

theorem isChain_dotChars (chars : List Char) : (dotChars chars).IsChain Apart := by
  fun_induction dotChars chars with
  | case1 rest ih =>
      refine List.isChain_cons.mpr ⟨?_, ih⟩
      rintro c - ⟨hdot, -⟩
      exact absurd hdot (by decide)
  | case2 c rest hpair ih =>
      refine List.isChain_cons.mpr ⟨?_, ih⟩
      rintro d hd ⟨rfl, rfl⟩
      obtain ⟨others, rfl⟩ := List.head?_eq_some_iff.mp (head?_dotChars hd)
      exact hpair others rfl rfl
  | case3 => exact .nil

theorem dotChars_eq_self {chars : List Char} (h : chars.IsChain Apart) :
    dotChars chars = chars := by
  fun_induction dotChars chars with
  | case1 rest ih => exact absurd ⟨rfl, rfl⟩ (List.isChain_cons_cons.mp h).1
  | case2 c rest hpair ih => rw [ih (List.isChain_cons.mp h).2]
  | case3 => rfl

theorem isResolved_dotted (id : String) : IsResolved (dotted id) := by
  rw [isResolved_iff, dotted, String.toList_ofList]
  exact isChain_dotChars id.toList

theorem isResolved_root (id : String) : IsResolved (root id) := by
  have hsplit : (dotChars id.toList).takeWhile isNoDot ++ (dotChars id.toList).dropWhile isNoDot =
      dotChars id.toList := List.takeWhile_append_dropWhile
  have hchain := isChain_dotChars id.toList
  rw [← hsplit, List.isChain_append] at hchain
  rw [isResolved_iff, root, String.toList_ofList]
  exact hchain.1

theorem dotted_eq_self_iff {name : String} : dotted name = name ↔ IsResolved name := by
  constructor
  · intro h
    rw [← h]
    exact isResolved_dotted name
  · intro h
    rw [dotted, dotChars_eq_self (isResolved_iff.mp h), String.ofList_toList]

theorem dotted_dotted (id : String) : dotted (dotted id) = dotted id :=
  dotted_eq_self_iff.mpr (isResolved_dotted id)

theorem dotChars_dotted (id : String) : dotChars (dotted id).toList = dotChars id.toList := by
  have hpath := dotted_dotted id
  rwa [dotted, dotted, String.ofList_inj] at hpath

/-- The first segment of an id is that of its dotted path. -/
theorem root_dotted (id : String) : root (dotted id) = root id := by
  rw [root, root, dotChars_dotted]

/-- The last segment of an id is that of its dotted path. -/
theorem baseName_dotted (id : String) : baseName (dotted id) = baseName id := by
  rw [baseName, baseName, dotChars_dotted]

/-- A path is at another one when it is the same or goes on from there. -/
def IsAt (path name : String) : Prop := name = path ∨ ∃ rest, name = path ++ "." ++ rest

/-- A dotted path begins with its first segment, and goes on with a dot if there is more of it. -/
theorem isAt_root_dotted (id : String) : IsAt (root id) (dotted id) := by
  have hsplit : (dotChars id.toList).takeWhile isNoDot ++ (dotChars id.toList).dropWhile isNoDot =
      dotChars id.toList := List.takeWhile_append_dropWhile
  have hdotted : dotted id =
      root id ++ String.ofList ((dotChars id.toList).dropWhile isNoDot) := by
    rw [dotted, root, ← String.ofList_append, hsplit]
  cases hrest : (dotChars id.toList).dropWhile isNoDot with
  | nil =>
      rw [hrest] at hdotted
      exact .inl (by simpa using hdotted)
  | cons c rest =>
      have hdot : c = '.' := by
        have hhead := List.head?_dropWhile_not isNoDot (dotChars id.toList)
        simpa [hrest, isNoDot] using hhead
      rw [hrest, hdot] at hdotted
      refine .inr ⟨String.ofList rest, ?_⟩
      rw [hdotted, String.append_assoc, show "." = String.ofList ['.'] from rfl,
        ← String.ofList_append, List.singleton_append]

/-- What begins with anything but an underscore can be written after a name. -/
theorem IsResolved.append {name suffix : String} (hname : IsResolved name)
    (hsuffix : IsResolved suffix) (hhead : suffix.toList.head? ≠ some '_') :
    IsResolved (name ++ suffix) := by
  rw [isResolved_iff] at hname hsuffix ⊢
  rw [String.toList_append, List.isChain_append]
  refine ⟨hname, hsuffix, ?_⟩
  rintro c - d hd ⟨-, rfl⟩
  exact hhead hd

theorem isResolved_of_not_mem {name : String} (h : '_' ∉ name.toList) : IsResolved name := by
  intro hseparator
  exact h (hseparator.subset (by simp [separator]))

end FieldPath

namespace NumberFormat

theorem underscore_not_mem_toDigits (n : Nat) : '_' ∉ Nat.toDigits 10 n := by
  intro h
  exact absurd (Nat.isDigit_of_mem_toDigits (by decide) (by decide) h) (by decide)

theorem underscore_not_mem_ofCoefficient (coefficient : Nat) (exponent : Int) :
    '_' ∉ (Decimal.ofCoefficient coefficient exponent).digits := by
  have hkept : '_' ∉ ((Nat.toDigits 10 coefficient).reverse.dropWhile (· == '0')).reverse := by
    intro h
    have hmem := (List.dropWhile_sublist _).mem (List.mem_reverse.mp h)
    exact underscore_not_mem_toDigits coefficient (List.mem_reverse.mp hmem)
  unfold Decimal.ofCoefficient
  dsimp only
  split_ifs
  · decide
  · exact hkept

theorem underscore_not_mem_writeExponent (format : NumberFormat) (exponent : Int) :
    '_' ∉ (format.writeExponent exponent).toList := by
  have hsign : '_' ∉ (if exponent < 0 then "-" else "+").toList := by
    split_ifs <;> decide
  simp [writeExponent, padLeft, hsign, List.mem_replicate]

theorem underscore_not_mem_append {first second : String} (hfirst : '_' ∉ first.toList)
    (hsecond : '_' ∉ second.toList) : '_' ∉ (first ++ second).toList := by
  rw [String.toList_append, List.mem_append, not_or]
  exact ⟨hfirst, hsecond⟩

/-- Numbers are written without underscores, if their mark has none. -/
theorem underscore_not_mem_writeDecimal {format : NumberFormat} (hmark : '_' ∉ format.wholeMark.toList)
    {decimal : Decimal} (hdigits : '_' ∉ decimal.digits) :
    '_' ∉ (format.writeDecimal decimal).toList := by
  have hdrop : ∀ n, '_' ∉ decimal.digits.drop n := fun n h => hdigits (List.mem_of_mem_drop h)
  have htake : ∀ n, '_' ∉ decimal.digits.take n := fun n h => hdigits (List.mem_of_mem_take h)
  have hfraction : ∀ mark : String, '_' ∉ mark.toList → ∀ n,
      '_' ∉ (if (decimal.digits.drop n).isEmpty then mark
        else "." ++ String.ofList (decimal.digits.drop n)).toList := by
    intro mark hmark n
    by_cases hempty : (decimal.digits.drop n).isEmpty = true
    · rwa [if_pos hempty]
    · rw [if_neg hempty]
      exact underscore_not_mem_append (by decide) (by simpa using hdrop n)
  unfold writeDecimal
  dsimp only
  by_cases hexponent :
      decimal.point < format.leastPoint ∨ format.greatestPoint < decimal.point
  · rw [if_pos hexponent]
    have hdigit : '_' ∉ (String.ofList (decimal.digits.take 1)).toList := by
      simpa using htake 1
    exact underscore_not_mem_append (underscore_not_mem_append hdigit (hfraction "" (by decide) 1))
      (underscore_not_mem_writeExponent format _)
  · rw [if_neg hexponent]
    by_cases hpoint : decimal.point ≤ 0
    · rw [if_pos hpoint]
      exact underscore_not_mem_append (by decide) (by simp [hdigits, List.mem_replicate])
    · rw [if_neg hpoint]
      exact underscore_not_mem_append (by simp [htake, List.mem_replicate]) (hfraction _ hmark _)

theorem underscore_not_mem_write_brief (x : Binary64) : '_' ∉ (brief.write x).toList := by
  cases x with
  | nan => decide
  | infinite negative => cases negative <;> decide
  | finite negative significand exponent =>
      have hdigits : '_' ∉ (if significand = 0 then (⟨['0'], 1⟩ : Decimal)
          else brief.digits significand exponent).digits := by
        split_ifs
        · decide
        · exact underscore_not_mem_ofCoefficient _ _
      have hsign : '_' ∉ (if negative then "-" else "").toList := by
        cases negative <;> decide
      have hmark : '_' ∉ brief.wholeMark.toList := by decide
      exact underscore_not_mem_append hsign (underscore_not_mem_writeDecimal hmark hdigits)

end NumberFormat

end FacetedSearch
