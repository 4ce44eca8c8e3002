import Mathlib.Computability.Language
import Mathlib.Data.List.Basic

/-!
Patterns of index terms, as a regular expression of the whole term: a dot is any character, signs of
repetition stand behind what they repeat, brackets hold a choice of characters, parentheses group,
bars part alternatives, and a backslash makes the character after it stand for itself. A text that
is followed by anything in such a pattern stands for the terms that start with it exactly where it
is verbatim, that is, where none of its characters is a sign of the pattern.
-/

namespace FacetedSearch.TermPattern

open Computability

/-- The signs that begin a part of a pattern. -/
def isOpening (c : Char) : Bool := ['\\', '.', '[', '('].contains c

def isRepeating (c : Char) : Bool := ['*', '+', '?'].contains c

/-- The signs that go on with what stands before them or end it; where there is nothing before them
they stand for themselves. -/
def isFollowing (c : Char) : Bool := isRepeating c || ['|', ')'].contains c

/-- A character as it is written between brackets, where a closing one can only be the first. -/
inductive ClassLetter : Bool → List Char → Char → Prop
  | plain {first : Bool} {c : Char} (hescape : c ≠ '\\') (hclosing : c = ']' → first = true) :
      ClassLetter first [c] c
  | escaped {first : Bool} (c : Char) : ClassLetter first ['\\', c] c

/-- The characters that are written between brackets, one by one and as ranges. -/
inductive ClassText : Bool → List Char → Set Char → Prop
  | letter {first : Bool} {text : List Char} {c : Char} (h : ClassLetter first text c) :
      ClassText first text {c}
  | range {first : Bool} {text text' : List Char} {c d : Char} (h : ClassLetter first text c)
      (h' : ClassLetter true text' d) (hle : c ≤ d) :
      ClassText first (text ++ '-' :: text') {e | c ≤ e ∧ e ≤ d}
  | letterNext {first : Bool} {text rest : List Char} {c : Char} {S : Set Char}
      (h : ClassLetter first text c) (hrest : ClassText false rest S)
      (hrange : rest.head? ≠ some '-') : ClassText first (text ++ rest) (insert c S)
  | rangeNext {first : Bool} {text text' rest : List Char} {c d : Char} {S : Set Char}
      (h : ClassLetter first text c) (h' : ClassLetter true text' d) (hle : c ≤ d)
      (hrest : ClassText false rest S) :
      ClassText first (text ++ '-' :: text' ++ rest) ({e | c ≤ e ∧ e ≤ d} ∪ S)

/-- The parts of a pattern, each made of those before it. -/
inductive Part where
  | atom
  | repeated
  | sequence
  | alternatives

/-- The words of one character. -/
def single (S : Set Char) : Language Char := (fun c => [c]) '' S

/-- What a text stands for as a part of a pattern; the flag says whether anything stands before it
in its alternative. -/
inductive Denotes : Part → Bool → List Char → Language Char → Prop
  | any {first : Bool} : Denotes .atom first ['.'] (single Set.univ)
  | letter {first : Bool} {c : Char} (hopening : isOpening c = false)
      (hfollowing : isFollowing c = true → first = true) :
      Denotes .atom first [c] (single {c})
  | escaped {first : Bool} (c : Char) : Denotes .atom first ['\\', c] (single {c})
  | oneOf {first : Bool} {text : List Char} {S : Set Char} (h : ClassText true text S)
      (hhead : text.head? ≠ some '^') : Denotes .atom first ('[' :: text ++ [']']) (single S)
  | noneOf {first : Bool} {text : List Char} {S : Set Char} (h : ClassText true text S) :
      Denotes .atom first ('[' :: '^' :: text ++ [']']) (single Sᶜ)
  | nothing {first : Bool} : Denotes .atom first ['(', ')'] 1
  | grouped {first : Bool} {text : List Char} {L : Language Char}
      (h : Denotes .alternatives true text L) (hhead : text.head? ≠ some ')') :
      Denotes .atom first ('(' :: text ++ [')']) L
  | once {first : Bool} {text : List Char} {L : Language Char} (h : Denotes .atom first text L) :
      Denotes .repeated first text L
  | anyTimes {first : Bool} {text : List Char} {L : Language Char}
      (h : Denotes .repeated first text L) : Denotes .repeated first (text ++ ['*']) L∗
  | someTimes {first : Bool} {text : List Char} {L : Language Char}
      (h : Denotes .repeated first text L) : Denotes .repeated first (text ++ ['+']) (L * L∗)
  | atMostOnce {first : Bool} {text : List Char} {L : Language Char}
      (h : Denotes .repeated first text L) : Denotes .repeated first (text ++ ['?']) (1 + L)
  | last {first : Bool} {text : List Char} {L : Language Char}
      (h : Denotes .repeated first text L) : Denotes .sequence first text L
  | next {first : Bool} {text rest : List Char} {L M : Language Char}
      (h : Denotes .repeated first text L) (hrest : Denotes .sequence false rest M) :
      Denotes .sequence first (text ++ rest) (L * M)
  | only {text : List Char} {L : Language Char} (h : Denotes .sequence true text L) :
      Denotes .alternatives true text L
  | either {text rest : List Char} {L M : Language Char} (h : Denotes .sequence true text L)
      (hrest : Denotes .alternatives true rest M) :
      Denotes .alternatives true (text ++ '|' :: rest) (L + M)

/-- A pattern accepts the words that it stands for; a text that cannot be read as one accepts
nothing. -/
def Accepts (pattern term : String) : Prop :=
  ∃ L, Denotes .alternatives true pattern.toList L ∧ term.toList ∈ L

/-- Characters of a kind, of which only the first may be a sign that goes on with something. -/
def isMadeOf (kind : Char → Bool) : Bool → List Char → Bool
  | _, [] => true
  | first, c :: rest => kind c && (first || !isFollowing c) && isMadeOf kind false rest

def isOrdinary (c : Char) : Bool := !isOpening c

/-- A text that stands for itself in a pattern. -/
def IsVerbatim (text : String) : Prop := isMadeOf isOrdinary true text.toList = true

instance (text : String) : Decidable (IsVerbatim text) := inferInstanceAs (Decidable (_ = true))

/-- The words that start with a text. -/
def startingWith (text : List Char) : Language Char := {word | text <+: word}

section

variable {part : Part} {first : Bool} {text rest : List Char} {L : Language Char} {c : Char}

theorem mem_single_iff {S : Set Char} {word : List Char} :
    word ∈ single S ↔ ∃ c ∈ S, word = [c] := by
  show (∃ c, c ∈ S ∧ [c] = word) ↔ _
  simp only [eq_comm]

theorem mem_startingWith_iff {word : List Char} : word ∈ startingWith text ↔ text <+: word := Iff.rfl

theorem startingWith_nil : startingWith [] = (single Set.univ)∗ := by
  ext word
  rw [mem_startingWith_iff, Language.mem_kstar]
  refine iff_of_true (List.nil_prefix) ⟨word.map fun c => [c], ?_, ?_⟩
  · induction word with
    | nil => rfl
    | cons c word ih => rw [List.map_cons, List.flatten_cons, ← ih, List.singleton_append]
  · intro letter hletter
    obtain ⟨c, -, rfl⟩ := List.mem_map.mp hletter
    exact mem_single_iff.mpr ⟨c, Set.mem_univ c, rfl⟩

theorem startingWith_cons (c : Char) (text : List Char) :
    startingWith (c :: text) = single {c} * startingWith text := by
  ext word
  simp only [Language.mem_mul, mem_single_iff, mem_startingWith_iff]
  constructor
  · rintro ⟨rest, rfl⟩
    exact ⟨[c], ⟨c, rfl, rfl⟩, text ++ rest, List.prefix_append _ _, rfl⟩
  · rintro ⟨-, ⟨d, rfl, rfl⟩, -, ⟨rest, rfl⟩, rfl⟩
    exact ⟨rest, rfl⟩

theorem isMadeOf_cons {kind : Char → Bool} :
    isMadeOf kind first (c :: rest) = true ↔
      kind c = true ∧ (isFollowing c = true → first = true) ∧ isMadeOf kind false rest = true := by
  cases first <;> cases h : isFollowing c <;> simp [isMadeOf, h]

theorem not_isRepeating_of_isMadeOf {kind : Char → Bool}
    (h : isMadeOf kind false (c :: rest) = true) : isRepeating c = false := by
  have hfollowing := (isMadeOf_cons.mp h).2.1
  cases hrepeating : isRepeating c with
  | false => rfl
  | true => exact absurd (hfollowing (by rw [isFollowing, hrepeating, Bool.true_or])) (by decide)

theorem Denotes.ne_nil (h : Denotes part first text L) : text ≠ [] := by
  induction h with
  | any | letter | escaped | oneOf | noneOf | nothing | grouped => exact List.cons_ne_nil _ _
  | once _ ih | last _ ih | only _ ih => exact ih
  | anyTimes | someTimes | atMostOnce => simp
  | next _ _ ih _ => simp [ih]
  | either => simp

/-- An atom that begins with a character that is no opening sign is this character. -/
theorem Denotes.atom_letter (h : Denotes .atom first (c :: rest) L) (hc : isOpening c = false) :
    (isFollowing c = true → first = true) ∧ rest = [] ∧ L = single {c} := by
  generalize htext : c :: rest = text at h
  have hhead : text.head? = some c := by rw [← htext, List.head?_cons]
  cases h with
  | letter hopening hfollowing =>
      cases htext
      exact ⟨hfollowing, rfl, rfl⟩
  | any | escaped | oneOf | noneOf | nothing | grouped =>
      cases hhead
      exact absurd hc (by decide)

/-- The text of an atom with signs of repetition behind it. -/
def RepeatsAtom (first : Bool) (text : List Char) (L : Language Char) : Prop :=
  ∃ atom signs K, text = atom ++ signs ∧ Denotes .atom first atom K ∧
    (∀ sign ∈ signs, isRepeating sign = true) ∧ (signs = [] → L = K)

theorem RepeatsAtom.append {sign : Char} (h : RepeatsAtom first text L)
    (hsign : isRepeating sign = true) (M : Language Char) :
    RepeatsAtom first (text ++ [sign]) M := by
  obtain ⟨atom, signs, K, rfl, hatom, hsigns, -⟩ := h
  refine ⟨atom, signs ++ [sign], K, List.append_assoc _ _ _, hatom, ?_, by simp⟩
  rw [List.forall_mem_append]
  exact ⟨hsigns, by simpa using hsign⟩

theorem Denotes.repeatsAtom (h : Denotes .repeated first text L) : RepeatsAtom first text L := by
  generalize hpart : Part.repeated = part at h
  induction h with
  | once h => exact ⟨_, [], _, (List.append_nil _).symm, h, by simp, fun _ => rfl⟩
  | anyTimes _ ih | someTimes _ ih | atMostOnce _ ih => exact (ih hpart).append rfl _
  | _ => cases hpart

/-- A repeated part that begins with such a character repeats this character. -/
theorem Denotes.repeated_letter (h : Denotes .repeated first (c :: rest) L)
    (hc : isOpening c = false) :
    (isFollowing c = true → first = true) ∧ (∀ sign ∈ rest, isRepeating sign = true) ∧
      (rest = [] → L = single {c}) := by
  obtain ⟨atom, signs, K, htext, hatom, hsigns, hL⟩ := h.repeatsAtom
  obtain ⟨d, others, rfl⟩ := List.exists_cons_of_ne_nil hatom.ne_nil
  obtain ⟨rfl, rfl⟩ := List.cons.inj htext
  obtain ⟨hfollowing, rfl, rfl⟩ := hatom.atom_letter hc
  exact ⟨hfollowing, hsigns, hL⟩

/-- Nothing but the first part of an alternative begins with a sign that goes on with something. -/
theorem Denotes.head_sequence (h : Denotes .sequence false (c :: rest) L)
    (hc : isOpening c = false) : isFollowing c = false := by
  have hrepeated : ∃ rest' L', Denotes .repeated false (c :: rest') L' := by
    generalize htext : c :: rest = text at h
    cases h with
    | last h =>
        subst htext
        exact ⟨_, _, h⟩
    | next h =>
        obtain ⟨d, others, rfl⟩ := List.exists_cons_of_ne_nil h.ne_nil
        obtain ⟨rfl, -⟩ := List.cons.inj htext
        exact ⟨_, _, h⟩
  obtain ⟨rest', L', h'⟩ := hrepeated
  cases hfollowing : isFollowing c with
  | false => rfl
  | true => exact absurd ((h'.repeated_letter hc).1 hfollowing) (by decide)

theorem Denotes.repeated_dot (h : Denotes .repeated first ['.'] L) : L = single Set.univ := by
  generalize htext : ['.'] = text at h
  cases h with
  | once h =>
      subst htext
      generalize htext : ['.'] = text at h
      cases h with
      | any => rfl
      | letter hopening =>
          cases htext
          cases hopening
      | escaped | oneOf | noneOf | nothing | grouped => cases htext
  | anyTimes h | someTimes h | atMostOnce h =>
      have hnil := (List.append_eq_singleton_iff.mp htext.symm).resolve_right fun h' => by simp at h'
      exact absurd hnil.1 h.ne_nil

theorem Denotes.repeated_dot_star (h : Denotes .repeated first (['.'] ++ ['*']) L) :
    L = startingWith [] := by
  generalize htext : ['.'] ++ ['*'] = text at h
  cases h with
  | once h =>
      generalize htext' : text = text' at h
      subst htext
      cases h with
      | escaped | oneOf | noneOf | nothing | grouped => cases htext'
      | any | letter => cases htext'
  | anyTimes h =>
      obtain ⟨htext, -⟩ := List.append_inj' htext rfl
      subst htext
      rw [h.repeated_dot, startingWith_nil]
  | someTimes h | atMostOnce h =>
      obtain ⟨-, hsign⟩ := List.append_inj' htext rfl
      cases hsign

/-- The pattern of a text and anything after it. -/
def thenAnything (text : List Char) : List Char := text ++ ['.', '*']

theorem eq_of_append_eq_thenAnything {text before : List Char} {c : Char}
    (h : text ++ [c] = thenAnything before) : text = before ++ ['.'] ∧ c = '*' := by
  have hsplit : thenAnything before = (before ++ ['.']) ++ ['*'] := by simp [thenAnything]
  obtain ⟨htext, hsign⟩ := List.append_inj' (h.trans hsplit) rfl
  exact ⟨htext, List.head_eq_of_cons_eq hsign⟩

/-- What ends such a pattern, and is more than its last sign, ends it after the same sign of
anything. -/
theorem exists_of_append_eq_thenAnything {before text rest : List Char}
    (h : before ++ rest = thenAnything text) (hne : rest ≠ []) (hstar : rest ≠ ['*']) :
    ∃ text', text = before ++ text' ∧ rest = thenAnything text' := by
  rcases List.append_eq_append_iff.mp h with ⟨text', htext, hsuffix⟩ | ⟨tail, rfl, hsuffix⟩
  · exact ⟨text', htext, hsuffix⟩
  · match tail, hsuffix with
    | [], hsuffix => exact ⟨[], by simp, hsuffix.symm⟩
    | [_], hsuffix => exact absurd (List.cons.inj hsuffix).2.symm hstar
    | _ :: _ :: tail, hsuffix =>
        have hnil := (List.cons.inj (List.cons.inj hsuffix).2).2
        exact absurd (List.append_eq_nil_iff.mp hnil.symm).2 hne

theorem Denotes.exists_thenAnything {before text rest : List Char} {M : Language Char}
    (hrest : Denotes .sequence false rest M) (h : before ++ rest = thenAnything text) :
    ∃ text', text = before ++ text' ∧ rest = thenAnything text' := by
  refine exists_of_append_eq_thenAnything h hrest.ne_nil ?_
  rintro rfl
  exact absurd (hrest.head_sequence (by decide)) (by decide)

/-- A text that is made of ordinary characters stands for itself at the beginning of a pattern. -/
theorem Denotes.sequence_thenAnything {first : Bool} {text : List Char} {L : Language Char}
    (h : Denotes .sequence first (thenAnything text) L)
    (htext : isMadeOf isOrdinary first text = true) : L = startingWith text := by
  induction text generalizing first L with
  | nil =>
      generalize hpattern : thenAnything [] = pattern at h
      cases h with
      | last h =>
          subst hpattern
          exact h.repeated_dot_star
      | next h hrest =>
          obtain ⟨text', htext', -⟩ := hrest.exists_thenAnything hpattern.symm
          exact absurd (List.append_eq_nil_iff.mp htext'.symm).1 h.ne_nil
  | cons c text ih =>
      obtain ⟨hordinary, hfollowing, htext⟩ := isMadeOf_cons.mp htext
      have hc : isOpening c = false := by simpa [isOrdinary] using hordinary
      generalize hpattern : thenAnything (c :: text) = pattern at h
      cases h with
      | last h =>
          subst hpattern
          have hdot := (h.repeated_letter hc).2.1 '.' (by simp)
          exact absurd hdot (by decide)
      | next h hrest =>
          obtain ⟨text', htext', rfl⟩ := hrest.exists_thenAnything hpattern.symm
          obtain ⟨d, signs, rfl⟩ := List.exists_cons_of_ne_nil h.ne_nil
          obtain ⟨rfl, rfl⟩ := List.cons.inj htext'
          obtain ⟨-, hsigns, hL⟩ := h.repeated_letter hc
          cases signs with
          | nil => rw [hL rfl, ih hrest htext, startingWith_cons]
          | cons sign signs =>
              have hsign := not_isRepeating_of_isMadeOf htext
              rw [hsigns sign List.mem_cons_self] at hsign
              cases hsign

/-- Such a text can be read as a pattern that stands for itself. -/
theorem denotes_thenAnything {first : Bool} {text : List Char}
    (htext : isMadeOf isOrdinary first text = true) :
    Denotes .sequence first (thenAnything text) (startingWith text) := by
  induction text generalizing first with
  | nil =>
      rw [startingWith_nil]
      exact .last (.anyTimes (.once .any))
  | cons c text ih =>
      obtain ⟨hordinary, hfollowing, htext⟩ := isMadeOf_cons.mp htext
      have hc : isOpening c = false := by simpa [isOrdinary] using hordinary
      rw [startingWith_cons]
      show Denotes .sequence first ([c] ++ thenAnything text) _
      exact .next (.once (.letter hc hfollowing)) (ih htext)

theorem following_of_mem_tail {kind : Char → Bool} {first : Bool} {text : List Char}
    (h : isMadeOf kind first text = true) :
    ∀ c ∈ text.tail, isFollowing c = false := by
  induction text generalizing first with
  | nil => simp
  | cons c text ih =>
      obtain ⟨-, -, hrest⟩ := isMadeOf_cons.mp h
      intro d hd
      rw [List.tail_cons] at hd
      cases text with
      | nil => cases hd
      | cons e text =>
          rcases List.mem_cons.mp hd with rfl | hd
          · simpa using (isMadeOf_cons.mp hrest).2.1
          · exact ih hrest d hd

theorem Denotes.eq_startingWith {text : List Char} {L : Language Char}
    (h : Denotes .alternatives true (thenAnything text) L)
    (htext : isMadeOf isOrdinary true text = true) : L = startingWith text := by
  generalize hpattern : thenAnything text = pattern at h
  cases h with
  | only h =>
      subst hpattern
      exact h.sequence_thenAnything htext
  | @either before rest _ _ h hrest =>
      -- a bar would have to stand behind the first character
      obtain ⟨c, others, rfl⟩ := List.exists_cons_of_ne_nil h.ne_nil
      have hbar : '|' ∈ (thenAnything text).tail := by simp [hpattern]
      have htail : (thenAnything text).tail ⊆ text.tail ++ ['.', '*'] := by
        intro d hd
        cases text with
        | nil => exact List.mem_of_mem_tail hd
        | cons e text => exact hd
      rcases List.mem_append.mp (htail hbar) with hmem | hmem
      · exact absurd (following_of_mem_tail htext _ hmem) (by decide)
      · exact absurd hmem (by decide)

/-- A letter in the place of a dot. -/
def veiled (c : Char) : Char := if c = '.' then 'x' else c

/-- Ordinary characters and dots. -/
def isPlain (c : Char) : Bool := isOrdinary c || c == '.'

theorem isMadeOf_append {kind : Char → Bool} {first : Bool} {text rest : List Char} (hne : text ≠ [])
    (h : isMadeOf kind first text = true) (hrest : isMadeOf kind false rest = true) :
    isMadeOf kind first (text ++ rest) = true := by
  induction text generalizing first with
  | nil => exact absurd rfl hne
  | cons c text ih =>
      obtain ⟨hc, hfollowing, htext⟩ := isMadeOf_cons.mp h
      rw [List.cons_append, isMadeOf_cons]
      refine ⟨hc, hfollowing, ?_⟩
      cases text with
      | nil => exact hrest
      | cons d text => exact ih (List.cons_ne_nil _ _) htext

/-- A language has a word shorter than a text, or the text itself with its dots veiled. -/
def HasShortWord (first : Bool) (text : List Char) (L : Language Char) : Prop :=
  (∃ word ∈ L, word.length < text.length) ∨
    isMadeOf isPlain first text = true ∧ text.map veiled ∈ L

theorem HasShortWord.exists_le (h : HasShortWord first text L) :
    ∃ word ∈ L, word.length ≤ text.length := by
  rcases h with ⟨word, hword, hlt⟩ | ⟨-, hword⟩
  · exact ⟨word, hword, hlt.le⟩
  · exact ⟨_, hword, (List.length_map _).le⟩

theorem HasShortWord.next {rest : List Char} {M : Language Char} (hne : text ≠ [])
    (h : HasShortWord first text L) (hrest : HasShortWord false rest M) :
    HasShortWord first (text ++ rest) (L * M) := by
  rcases h, hrest with ⟨⟨word, hword, hlt⟩ | ⟨hplain, hword⟩, hrest⟩
  · obtain ⟨word', hword', hle⟩ := hrest.exists_le
    refine .inl ⟨word ++ word', Language.append_mem_mul hword hword', ?_⟩
    rw [List.length_append, List.length_append]
    omega
  · rcases hrest with ⟨word', hword', hlt⟩ | ⟨hplain', hword'⟩
    · refine .inl ⟨_, Language.append_mem_mul hword hword', ?_⟩
      rw [List.length_append, List.length_append, List.length_map]
      omega
    · refine .inr ⟨isMadeOf_append hne hplain hplain', ?_⟩
      rw [List.map_append]
      exact Language.append_mem_mul hword hword'

theorem hasShortWord_of_single {S : Set Char} (hL : ∃ word, word ∈ single S)
    (hlength : 1 < text.length) : HasShortWord first text (single S) := by
  obtain ⟨word, hword⟩ := hL
  obtain ⟨c, -, rfl⟩ := mem_single_iff.mp hword
  exact .inl ⟨[c], hword, hlength⟩

theorem veiled_of_isOpening (hc : isOpening c = false) : veiled c = c := by
  rw [veiled, if_neg]
  rintro rfl
  cases hc

/-- Whatever a part stands for, it has a word that is not longer than its text: all that is written
in it but ordinary characters and dots goes without a character of the word. -/
theorem Denotes.hasShortWord (h : Denotes part first text L) (hL : ∃ word, word ∈ L) :
    HasShortWord first text L := by
  induction h with
  | @any first =>
      refine .inr ⟨?_, mem_single_iff.mpr ⟨'x', Set.mem_univ _, rfl⟩⟩
      cases first <;> decide
  | @letter first c hopening hfollowing =>
      refine .inr ⟨isMadeOf_cons.mpr ⟨by simp [isPlain, isOrdinary, hopening], hfollowing, rfl⟩, ?_⟩
      exact mem_single_iff.mpr ⟨c, rfl, by rw [List.map_singleton, veiled_of_isOpening hopening]⟩
  | escaped => exact hasShortWord_of_single hL (by simp)
  | oneOf => exact hasShortWord_of_single hL (by simp)
  | noneOf => exact hasShortWord_of_single hL (by simp)
  | nothing => exact .inl ⟨[], rfl, by simp⟩
  | grouped h hhead ih =>
      obtain ⟨word, hword, hle⟩ := (ih hL).exists_le
      exact .inl ⟨word, hword, by simp; omega⟩
  | once h ih => exact ih hL
  | anyTimes h ih => exact .inl ⟨[], Language.nil_mem_kstar _, by simp⟩
  | someTimes h ih =>
      obtain ⟨-, word, hword, -⟩ := hL
      obtain ⟨word, hword, hle⟩ := (ih ⟨word, hword⟩).exists_le
      refine .inl ⟨word ++ [], Language.append_mem_mul hword (Language.nil_mem_kstar _), ?_⟩
      simp only [List.append_nil, List.length_append, List.length_singleton]
      omega
  | atMostOnce h ih => exact .inl ⟨[], .inl rfl, by simp⟩
  | last h ih => exact ih hL
  | next h hrest ih ihrest =>
      obtain ⟨-, word, hword, word', hword', -⟩ := hL
      exact (ih ⟨word, hword⟩).next h.ne_nil (ihrest ⟨word', hword'⟩)
  | only h ih => exact ih hL
  | either h hrest ih ihrest =>
      obtain ⟨word, hword | hword⟩ := hL
      · obtain ⟨word, hword, hle⟩ := (ih ⟨word, hword⟩).exists_le
        exact .inl ⟨word, .inl hword, by simp; omega⟩
      · obtain ⟨word, hword, hle⟩ := (ihrest ⟨word, hword⟩).exists_le
        exact .inl ⟨word, .inr hword, by simp; omega⟩

/-- If a pattern ends with the sign of anything, the same holds of the text before it. -/
theorem Denotes.hasShortWord_thenAnything (h : Denotes part first text L) (hL : ∃ word, word ∈ L)
    {before : List Char} (htext : text = thenAnything before) : HasShortWord first before L := by
  induction h generalizing before with
  | any | letter => exact absurd (congrArg List.length htext) (by simp [thenAnything])
  | escaped c =>
      obtain ⟨hescape, -⟩ := eq_of_append_eq_thenAnything (show ['\\'] ++ [c] = _ from htext)
      obtain ⟨-, hdot⟩ | ⟨-, hnil⟩ := List.append_eq_singleton_iff.mp hescape.symm
      · cases hdot
      · cases hnil
  | oneOf | noneOf | grouped => cases (eq_of_append_eq_thenAnything htext).2
  | nothing => cases (eq_of_append_eq_thenAnything (show ['('] ++ [')'] = _ from htext)).2
  | someTimes | atMostOnce => cases (eq_of_append_eq_thenAnything htext).2
  | once h ih => exact ih hL htext
  | anyTimes h ih =>
      cases before with
      | nil => exact .inr ⟨rfl, Language.nil_mem_kstar _⟩
      | cons c before => exact .inl ⟨[], Language.nil_mem_kstar _, by simp⟩
  | last h ih => exact ih hL htext
  | next h hrest ih ihrest =>
      obtain ⟨-, word, hword, word', hword', -⟩ := hL
      obtain ⟨before', rfl, hrest'⟩ := hrest.exists_thenAnything htext
      exact (h.hasShortWord ⟨word, hword⟩).next h.ne_nil (ihrest ⟨word', hword'⟩ hrest')
  | only h ih => exact ih hL htext
  | @either text rest L M h hrest ih ihrest =>
      obtain ⟨bar, rfl, hbar⟩ := exists_of_append_eq_thenAnything htext (by simp) (by simp)
      obtain ⟨before', rfl⟩ : ∃ before', bar = '|' :: before' := by
        cases bar with
        | nil => cases hbar
        | cons c before' => exact ⟨before', by rw [(List.cons.inj hbar).1]⟩
      have hrest' : rest = thenAnything before' := (List.cons.inj hbar).2
      obtain ⟨word, hword | hword⟩ := hL
      · obtain ⟨word, hword, hle⟩ := (h.hasShortWord ⟨word, hword⟩).exists_le
        exact .inl ⟨word, .inl hword, by simp; omega⟩
      · obtain ⟨word, hword, hle⟩ := (ihrest ⟨word, hword⟩ hrest').exists_le
        exact .inl ⟨word, .inr hword, by simp; omega⟩

/-- A plain text without dots to veil is made of ordinary characters. -/
theorem isMadeOf_isOrdinary {first : Bool} {text : List Char}
    (hplain : isMadeOf isPlain first text = true) (hveiled : text.map veiled = text) :
    isMadeOf isOrdinary first text = true := by
  induction text generalizing first with
  | nil => rfl
  | cons c text ih =>
      obtain ⟨hc, hfollowing, hrest⟩ := isMadeOf_cons.mp hplain
      obtain ⟨hletter, htext⟩ := List.cons.inj hveiled
      refine isMadeOf_cons.mpr ⟨?_, hfollowing, ih hrest htext⟩
      have hdot : (c == '.') = false := by
        rw [beq_eq_false_iff_ne]
        rintro rfl
        exact absurd hletter (by decide)
      rwa [isPlain, hdot, Bool.or_false] at hc

/-- The pattern of a text and anything after it accepts what starts with the text, exactly where the
text stands for itself. -/
theorem accepts_thenAnything_iff {text : String} :
    (∀ term, Accepts (text ++ ".*") term ↔ text.toList <+: term.toList) ↔ IsVerbatim text := by
  have hpattern : (text ++ ".*").toList = thenAnything text.toList := by
    rw [String.toList_append]
    rfl
  constructor
  · intro h
    obtain ⟨L, hL, hself⟩ := (h text).mpr List.prefix_rfl
    rw [hpattern] at hL
    have starts : ∀ word ∈ L, text.toList <+: word := by
      intro word hword
      have haccepts : Accepts (text ++ ".*") (String.ofList word) :=
        ⟨L, by rwa [hpattern], by rwa [String.toList_ofList]⟩
      simpa using (h _).mp haccepts
    rcases hL.hasShortWord_thenAnything ⟨_, hself⟩ rfl with ⟨word, hword, hlt⟩ | ⟨hplain, hword⟩
    · have hle := (starts word hword).length_le
      omega
    · have heq := (starts _ hword).eq_of_length (List.length_map _).symm
      exact isMadeOf_isOrdinary hplain heq.symm
  · intro htext term
    constructor
    · rintro ⟨L, hL, hterm⟩
      rw [hpattern] at hL
      rwa [hL.eq_startingWith htext] at hterm
    · intro hterm
      exact ⟨_, by rw [hpattern]; exact .only (denotes_thenAnything htext), hterm⟩

end

end FacetedSearch.TermPattern
