import FacetedSearch.Proofs.LetterCase
import FacetedSearch.Query.Operator
import Mathlib.Data.List.SplitBy

/-!
The form in which the words of an operator are compared. It is words with one space between them;
upper case makes one word of each word, so that the form of an operator has itself as its form.
-/

namespace FacetedSearch.Text

/-- A run of characters of which none is a blank. -/
def IsWord (word : List Char) : Prop := word ≠ [] ∧ ∀ c ∈ word, isBlank c = false

/-- Words with one space between them. -/
def spaced (words : List (List Char)) : String := " ".intercalate (words.map String.ofList)

theorem toList_spaced (ws : List (List Char)) : (spaced ws).toList = [' '].intercalate ws := by
  simp [spaced, String.toList_intercalate, Function.comp_def]

/-- In a run of characters that are all blanks or all none, one that is none decides for all. -/
theorem isBlank_eq_false_of_isChain {run : List Char}
    (h : run.IsChain fun a b => (isBlank a == isBlank b) = true) {c : Char} (hc : c ∈ run)
    (hblank : isBlank c = false) : ∀ d ∈ run, isBlank d = false := by
  have hpairs : run.IsChain fun a b => isBlank a = isBlank b := h.imp fun _ _ => eq_of_beq
  have : Std.Symm fun a b => isBlank a = isBlank b := ⟨fun _ _ => Eq.symm⟩
  intro d hd
  have hsame : isBlank d = isBlank c :=
    List.Pairwise.forall_of_forall (R := fun a b => isBlank a = isBlank b) (fun _ _ => rfl)
      hpairs.pairwise hd hc
  rw [hsame, hblank]

theorem isWord_of_mem_words {text : String} {word : List Char} (h : word ∈ words text) :
    IsWord word := by
  obtain ⟨hrun, hsome⟩ := List.mem_filter.mp h
  refine ⟨List.ne_nil_of_mem_splitBy hrun, ?_⟩
  obtain ⟨c, hc, hblank⟩ : ∃ c ∈ word, isBlank c = false := by
    simpa [List.all_eq_true] using hsome
  exact isBlank_eq_false_of_isChain (List.isChain_of_mem_splitBy hrun) hc hblank

/-- The runs of a text as its words are found. -/
abbrev runs (chars : List Char) : List (List Char) :=
  chars.splitBy fun a b => isBlank a == isBlank b

theorem runs_of_isWord {word : List Char} (h : IsWord word) : runs word = [word] := by
  refine List.splitBy_of_isChain h.1 ?_
  have hpairwise : word.Pairwise fun a b => (isBlank a == isBlank b) = true := by
    rw [List.pairwise_iff_forall_sublist]
    intro a b hsublist
    have ha := h.2 a (hsublist.subset (by simp))
    have hb := h.2 b (hsublist.subset (by simp))
    rw [ha, hb]
    rfl
  exact hpairwise.isChain

/-- A word, a space and what begins with a word are separate runs. -/
theorem runs_append_space {word rest : List Char} (hword : IsWord word)
    (hrest : ∀ c ∈ rest.head?, isBlank c = false) :
    runs (word ++ [' '] ++ rest) = word :: [' '] :: runs rest := by
  have hspace : isBlank ' ' = true := by decide
  have hlast : ∀ a ∈ (word ++ [' ']).getLast?, ∀ b ∈ rest.head?,
      (isBlank a == isBlank b) = false := by
    intro a ha b hb
    rw [List.getLast?_concat] at ha
    obtain rfl := Option.mem_some_iff.mp ha
    rw [hspace, hrest b hb]
    rfl
  have hend : ∀ a ∈ word.getLast?, ∀ b ∈ [' '].head?, (isBlank a == isBlank b) = false := by
    intro a ha b hb
    obtain rfl := Option.mem_some_iff.mp hb
    rw [hword.2 a (List.mem_of_getLast? ha), hspace]
    rfl
  rw [runs, List.splitBy_append hlast, List.splitBy_append hend, ← runs, runs_of_isWord hword]
  rfl

theorem head?_intercalate {ws : List (List Char)} (h : ∀ word ∈ ws, IsWord word) :
    ∀ c ∈ ([' '].intercalate ws).head?, isBlank c = false := by
  cases ws with
  | nil => simp
  | cons word rest =>
      have hword := h word List.mem_cons_self
      obtain ⟨c, letters, rfl⟩ := List.exists_cons_of_ne_nil hword.1
      have hc := hword.2 c List.mem_cons_self
      cases rest with
      | nil => simpa using hc
      | cons second others => simpa [List.intercalate_cons_cons] using hc

/-- The words of words with one space between them are these words. -/
theorem words_spaced {ws : List (List Char)} (h : ∀ word ∈ ws, IsWord word) :
    words (spaced ws) = ws := by
  rw [words, toList_spaced, ← runs]
  have hkept : ∀ word, IsWord word → (!word.all isBlank) = true := by
    intro word hword
    obtain ⟨c, letters, rfl⟩ := List.exists_cons_of_ne_nil hword.1
    simp [hword.2 c List.mem_cons_self]
  induction ws with
  | nil => rfl
  | cons word rest ih =>
      obtain ⟨hword, hrest⟩ := List.forall_mem_cons.mp h
      cases rest with
      | nil => simp [runs_of_isWord hword, hkept word hword]
      | cons second others =>
          have hspace : isBlank ' ' = true := by decide
          rw [List.intercalate_cons_cons, runs_append_space hword (head?_intercalate hrest),
            List.filter_cons, if_pos (hkept word hword), List.filter_cons,
            if_neg (by simp [hspace]), ih hrest]

theorem uppercase_spaced (ws : List (List Char)) :
    uppercase (spaced ws) = spaced (ws.map (·.flatMap uppercaseChar)) := by
  rw [← String.toList_inj, uppercase, String.toList_ofList, toList_spaced, toList_spaced]
  induction ws with
  | nil => rfl
  | cons word rest ih =>
      cases rest with
      | nil => simp
      | cons second rest =>
          rw [List.map_cons, List.map_cons, List.intercalate_cons_cons,
            List.intercalate_cons_cons, List.flatMap_append, List.flatMap_append, ih]
          rfl

theorem isWord_uppercase {word : List Char} (h : IsWord word) :
    IsWord (word.flatMap uppercaseChar) := by
  constructor
  · obtain ⟨c, letters, rfl⟩ := List.exists_cons_of_ne_nil h.1
    simp [uppercaseChar_ne_nil]
  · intro d hd
    obtain ⟨c, hc, hmem⟩ := List.mem_flatMap.mp hd
    exact isBlank_of_mem_uppercaseChar (h.2 c hc) hmem

end FacetedSearch.Text

namespace FacetedSearch.Operator

theorem normalize_eq_spaced (text : String) :
    normalize text = Text.spaced ((Text.words text).map (·.flatMap Text.uppercaseChar)) :=
  Text.uppercase_spaced (Text.words text)

/-- The form of an operator is its own form. -/
theorem normalize_normalize (text : String) : normalize (normalize text) = normalize text := by
  have hwords : ∀ word ∈ (Text.words text).map (·.flatMap Text.uppercaseChar),
      Text.IsWord word := by
    intro word hword
    obtain ⟨original, horiginal, rfl⟩ := List.mem_map.mp hword
    exact Text.isWord_uppercase (Text.isWord_of_mem_words horiginal)
  rw [normalize_eq_spaced (normalize text), normalize_eq_spaced text, Text.words_spaced hwords,
    List.map_map]
  congr 1
  refine List.map_congr_left fun word _ => ?_
  exact Text.flatMap_uppercaseChar_idempotent word

end FacetedSearch.Operator
