import FacetedSearch.Text.Blank
import FacetedSearch.Text.Uppercase
import Mathlib.Data.Nat.ModEq

/-!
Upper case is reached in one step: a letter of an upper case is its own upper case, and it is no
blank. The upper cases of a run of letters lie between two bounds, and that no run covers any of
them can be told from the bounds and the steps of both.
-/

namespace FacetedSearch.Text

/-- Characters that are their own upper case and no blanks. -/
def isCapital (c : Char) : Bool := uppercaseChar c == [c] && !isBlank c

theorem isCapital_iff {c : Char} :
    isCapital c = true ↔ uppercaseChar c = [c] ∧ isBlank c = false := by
  simp [isCapital]

/-- Letters with a one-character upper case: the first and the last code, their step and shift. -/
abbrev LetterRun := Nat × Nat × Nat × Int

namespace LetterRun

def covers (run : LetterRun) (code : Nat) : Bool :=
  run.1 ≤ code && code ≤ run.2.1 && (code - run.1) % run.2.2.1 == 0

/-- Whether a run leaves out all codes between two bounds that are steps away from the lower one. -/
def leavesOut (lower upper step : Nat) (run : LetterRun) : Bool :=
  Nat.blt upper run.1 || Nat.blt run.2.1 lower ||
    ((Nat.beq lower upper || Nat.beq (step % run.2.2.1) 0) &&
      !Nat.beq (lower % run.2.2.1) (run.1 % run.2.2.1))

theorem not_covers_of_leavesOut {run : LetterRun} {lower upper step code : Nat}
    (h : run.leavesOut lower upper step = true) (hlower : lower ≤ code) (hupper : code ≤ upper)
    (hstep : step ∣ code - lower) : run.covers code = false := by
  obtain ⟨first, last, stride, shift⟩ := run
  by_contra hcovers
  simp only [covers, Bool.not_eq_false, Bool.and_eq_true, decide_eq_true_eq, beq_iff_eq] at hcovers
  obtain ⟨⟨hfirst, hlast⟩, hstride⟩ := hcovers
  have hcode : first % stride = code % stride :=
    (Nat.modEq_iff_dvd' hfirst).mpr (Nat.dvd_of_mod_eq_zero hstride)
  simp only [leavesOut, Bool.or_eq_true, Bool.and_eq_true, Nat.blt_eq, Nat.beq_eq,
    Bool.not_eq_true'] at h
  rcases h with (h | h) | ⟨h, hne⟩
  · omega
  · omega
  · have hlower' : lower % stride = code % stride := by
      rcases h with rfl | h
      · rw [Nat.le_antisymm hlower hupper]
      · exact (Nat.modEq_iff_dvd' hlower).mpr ((Nat.dvd_of_mod_eq_zero h).trans hstep)
    simp [hlower', hcode] at hne

/-- The code of the first upper case of a run. -/
def lower (run : LetterRun) : Nat := (run.1 + run.2.2.2).toNat

/-- The code of the last upper case of a run. -/
def upper (run : LetterRun) : Nat := (run.2.1 + run.2.2.2).toNat

/-- Whether no character between two codes is a blank. -/
def isBlankFree (lower upper : Nat) : Bool :=
  Nat.blt 0x20 lower && wideBlanks.all fun blank => Nat.blt upper blank || Nat.blt blank lower

/-- Whether the upper cases of a run are characters beyond ASCII for which there is no upper case,
or one capital of ASCII. -/
def leadsToCapitals (run : LetterRun) : Bool :=
  isBlankFree run.lower run.upper &&
    (Nat.blt run.upper 0xd800 || (Nat.blt 0xdfff run.lower && Nat.blt run.upper 0x110000)) &&
    ((Nat.blt 0x7f run.lower &&
        (uppercaseExpansions.all fun entry =>
          Nat.blt run.upper entry.1 || Nat.blt entry.1 run.lower) &&
        uppercaseRuns.all (leavesOut run.lower run.upper run.2.2.1)) ||
      (Nat.beq run.lower run.upper && Nat.blt 0x40 run.lower && Nat.blt run.lower 0x5b))

end LetterRun

theorem uppercaseRuns_leadToCapitals :
    uppercaseRuns.all LetterRun.leadsToCapitals = true := by
  decide +kernel

theorem expansions_are_capital :
    ∀ entry ∈ uppercaseExpansions,
      entry.2 ≠ [] ∧ ∀ code ∈ entry.2, isCapital (Char.ofNat code) = true := by
  decide +kernel

theorem ascii_capitals : ∀ code < 0x5b, 0x40 < code → isCapital (Char.ofNat code) = true := by
  decide +kernel

theorem ascii_uppercaseChar :
    ∀ code < 0x80, uppercaseChar (Char.ofNat code) ≠ [] ∧
      (uppercaseChar (Char.ofNat code)).all (fun d =>
        (d == Char.ofNat code && uppercaseChar d == [d]) || isCapital d) = true := by
  decide +kernel

theorem uppercaseChar_of_not_listed {c : Char} (hcode : 0x80 ≤ c.toNat)
    (hexpansions : ∀ entry ∈ uppercaseExpansions, entry.1 ≠ c.toNat)
    (hruns : ∀ run ∈ uppercaseRuns, LetterRun.covers run c.toNat = false) :
    uppercaseChar c = [c] := by
  have hexpansion : uppercaseExpansions.find? (fun entry => entry.1 == c.toNat) = none := by
    simpa [List.find?_eq_none] using hexpansions
  have hrun : uppercaseRuns.find? (LetterRun.covers · c.toNat) = none := by
    rw [List.find?_eq_none]
    intro run hmem
    simp [hruns run hmem]
  unfold LetterRun.covers at hrun
  simp only [uppercaseChar, if_neg (Nat.not_lt.mpr hcode), hexpansion, hrun]

namespace LetterRun

theorem isBlank_of_isBlankFree {lower upper : Nat} (h : isBlankFree lower upper = true) {c : Char}
    (hlower : lower ≤ c.toNat) (hupper : c.toNat ≤ upper) : isBlank c = false := by
  simp only [isBlankFree, Bool.and_eq_true, Nat.blt_eq, List.all_eq_true, Bool.or_eq_true] at h
  obtain ⟨hspace, hwide⟩ := h
  have hnone : c.toNat ∉ wideBlanks := by
    intro hmem
    have := hwide _ hmem
    omega
  simp [isBlank, isNumeralBlank, hnone]
  omega

/-- What the upper case of a run leads to is a capital. -/
theorem isCapital_of_covers {run : LetterRun} (hrun : run ∈ uppercaseRuns) {code : Nat}
    (h : run.covers code = true) :
    isCapital (Char.ofNat (code + run.2.2.2).toNat) = true := by
  have hleads := List.all_eq_true.mp uppercaseRuns_leadToCapitals run hrun
  simp only [leadsToCapitals, Bool.and_eq_true, Bool.or_eq_true, Nat.blt_eq, Nat.beq_eq] at hleads
  obtain ⟨⟨hblank, hvalid⟩, hkind⟩ := hleads
  simp only [covers, Bool.and_eq_true, decide_eq_true_eq, beq_iff_eq] at h
  obtain ⟨⟨hfirst, hlast⟩, hstep⟩ := h
  have hpositive : 0x20 < run.lower := by
    simp only [isBlankFree, Bool.and_eq_true, Nat.blt_eq] at hblank
    exact hblank.1
  generalize hresult : (code + run.2.2.2).toNat = result
  have hlower : run.lower ≤ result := by
    unfold lower at *
    omega
  have hupper : result ≤ run.upper := by
    unfold upper at *
    omega
  have hoffset : result - run.lower = code - run.1 := by
    unfold lower at *
    omega
  have hnat : (Char.ofNat result).toNat = result := by
    have hchar : result.isValidChar := by
      unfold Nat.isValidChar
      omega
    rw [Char.ofNat, dif_pos hchar]
    rfl
  rcases hkind with ⟨⟨hwide, hexpansions⟩, hruns⟩ | ⟨⟨hsingle, hletter⟩, hletter'⟩
  · rw [isCapital_iff]
    refine ⟨uppercaseChar_of_not_listed (by omega) ?_ ?_,
      isBlank_of_isBlankFree hblank (by omega) (by omega)⟩
    · intro entry hentry
      have := List.all_eq_true.mp hexpansions entry hentry
      simp only [Bool.or_eq_true, Nat.blt_eq] at this
      omega
    · intro other hother
      rw [hnat]
      refine not_covers_of_leavesOut (List.all_eq_true.mp hruns other hother) hlower hupper ?_
      rw [hoffset]
      exact Nat.dvd_of_mod_eq_zero hstep
  · exact ascii_capitals result (by omega) (by omega)

end LetterRun

/-- A letter of an upper case is the character itself or a capital. -/
theorem mem_uppercaseChar {c d : Char} (h : d ∈ uppercaseChar c) :
    d = c ∧ uppercaseChar d = [d] ∨ isCapital d = true := by
  by_cases hascii : c.toNat < 0x80
  · have hall := (ascii_uppercaseChar c.toNat hascii).2
    rw [Char.ofNat_toNat] at hall
    simpa using List.all_eq_true.mp hall d h
  · simp only [uppercaseChar, if_neg hascii] at h
    split at h
    · next entry hfind =>
      obtain ⟨code, hcode, rfl⟩ := List.mem_map.mp h
      exact .inr ((expansions_are_capital entry (List.mem_of_find?_eq_some hfind)).2 code hcode)
    · next hexpansions =>
      split at h
      · next run hfind =>
        obtain rfl := List.mem_singleton.mp h
        have hcovers : LetterRun.covers run c.toNat = true :=
          List.find?_some (p := (LetterRun.covers · c.toNat)) hfind
        exact .inr (LetterRun.isCapital_of_covers (List.mem_of_find?_eq_some hfind) hcovers)
      · next hruns =>
        obtain rfl := List.mem_singleton.mp h
        refine .inl ⟨rfl, uppercaseChar_of_not_listed (Nat.not_lt.mp hascii) ?_ ?_⟩
        · simpa [List.find?_eq_none] using hexpansions
        · intro run hrun
          exact Bool.eq_false_of_not_eq_true (List.find?_eq_none.mp hruns run hrun)

theorem uppercaseChar_ne_nil (c : Char) : uppercaseChar c ≠ [] := by
  by_cases hascii : c.toNat < 0x80
  · have := (ascii_uppercaseChar c.toNat hascii).1
    rwa [Char.ofNat_toNat] at this
  · simp only [uppercaseChar, if_neg hascii]
    split
    · next entry hfind =>
      simpa using (expansions_are_capital entry (List.mem_of_find?_eq_some hfind)).1
    · split <;> simp

/-- A letter of an upper case is its own upper case. -/
theorem uppercaseChar_of_mem {c d : Char} (h : d ∈ uppercaseChar c) : uppercaseChar d = [d] := by
  rcases mem_uppercaseChar h with ⟨-, hfixed⟩ | hcapital
  · exact hfixed
  · exact (isCapital_iff.mp hcapital).1

/-- Upper case makes no blanks. -/
theorem isBlank_of_mem_uppercaseChar {c d : Char} (hblank : isBlank c = false)
    (h : d ∈ uppercaseChar c) : isBlank d = false := by
  rcases mem_uppercaseChar h with ⟨rfl, -⟩ | hcapital
  · exact hblank
  · exact (isCapital_iff.mp hcapital).2

theorem flatMap_uppercaseChar_of_mem {chars : List Char}
    (h : ∀ d ∈ chars, uppercaseChar d = [d]) : chars.flatMap uppercaseChar = chars := by
  induction chars with
  | nil => rfl
  | cons c rest ih =>
      obtain ⟨hc, hrest⟩ := List.forall_mem_cons.mp h
      rw [List.flatMap_cons, hc, ih hrest, List.singleton_append]

/-- A text in upper case is its own upper case. -/
theorem flatMap_uppercaseChar_idempotent (chars : List Char) :
    (chars.flatMap uppercaseChar).flatMap uppercaseChar = chars.flatMap uppercaseChar := by
  refine flatMap_uppercaseChar_of_mem ?_
  intro d hd
  obtain ⟨c, -, hmem⟩ := List.mem_flatMap.mp hd
  exact uppercaseChar_of_mem hmem

end FacetedSearch.Text
