import FacetedSearch.Proofs.WrittenIntegers
import FacetedSearch.Store.DeclaredType

/-!
Types as they are written: names, forms with their arguments in brackets, and alternatives between
bars, inside each other to any depth. The reader cuts a text only at separators outside all
brackets, so that it finds the parts from which the text was put together, and reads every type as
the declared type of its form.
-/

namespace FacetedSearch

/-- The forms of types that take other types in brackets. -/
inductive TypeForm where
  | list
  | tuple
  | dict
deriving DecidableEq, Repr

def TypeForm.word : TypeForm → String
  | .list => "list"
  | .tuple => "tuple"
  | .dict => "dict"

inductive WrittenType where
  | named (name : String)
  | applied (form : TypeForm) (arguments : List WrittenType)
  | union (members : List WrittenType)
deriving Repr

namespace WrittenType

/-- The arguments of a form between its brackets. -/
def joinedArguments : List (List Char) → List Char
  | [] => ['(', ')']
  | parts => [','].intercalate parts

mutual

def chars : WrittenType → List Char
  | .named name => name.toList
  | .applied form arguments =>
    form.word.toList ++ '[' :: (joinedArguments (charsOf arguments) ++ [']'])
  | .union members => ['|'].intercalate (charsOf members)

def charsOf : List WrittenType → List (List Char)
  | [] => []
  | type :: rest => type.chars :: charsOf rest

end

def text (type : WrittenType) : String := String.ofList type.chars

mutual

/-- What conversion looks at: of a list or a tuple the first argument, of a dictionary nothing. -/
def declared : WrittenType → DeclaredType
  | .named name => .ofName name
  | .applied .dict _ => .plain
  | .applied _ [] => .sequence .plain
  | .applied _ (element :: _) => .sequence element.declared
  | .union members => .union (declaredOf members)

def declaredOf : List WrittenType → List DeclaredType
  | [] => []
  | type :: rest => type.declared :: declaredOf rest

end

def isUnion : WrittenType → Bool
  | .union _ => true
  | _ => false

/-- The characters of names: all but blanks, brackets and separators. -/
def isNameChar (c : Char) : Bool :=
  !Text.isBlank c && c != '[' && c != ']' && c != ',' && c != '|'

/-- A type whose text has no second reading. A union has several members, no two alike, and a union
inside a union is none of its own. -/
inductive IsProper : WrittenType → Prop
  | named {name : String} (h : name.toList.all isNameChar = true) : IsProper (.named name)
  | applied (form : TypeForm) {arguments : List WrittenType}
      (h : ∀ type ∈ arguments, IsProper type) : IsProper (.applied form arguments)
  | union {members : List WrittenType} (hseveral : 2 ≤ members.length) (hdistinct : members.Nodup)
      (hflat : ∀ type ∈ members, type.isUnion = false) (h : ∀ type ∈ members, IsProper type) :
      IsProper (.union members)

theorem charsOf_eq_map (types : List WrittenType) : charsOf types = types.map chars := by
  induction types with
  | nil => rfl
  | cons type rest ih => rw [charsOf, ih, List.map_cons]

theorem declaredOf_eq_map (types : List WrittenType) : declaredOf types = types.map declared := by
  induction types with
  | nil => rfl
  | cons type rest ih => rw [declaredOf, ih, List.map_cons]

end WrittenType

namespace DeclaredType

variable {separator : Char} {depth : Nat} {chars : List Char}

/-- A text that a cut leaves whole wherever it stands at a depth. -/
def IsUncut (separator : Char) (depth : Nat) (chars : List Char) : Prop :=
  ∀ part rest, partsOf separator depth part (chars ++ rest) =
    partsOf separator depth (chars.reverse ++ part) rest

theorem IsUncut.append {others : List Char} (h : IsUncut separator depth chars)
    (hothers : IsUncut separator depth others) : IsUncut separator depth (chars ++ others) := by
  intro part rest
  rw [List.append_assoc, h, hothers, List.reverse_append, List.append_assoc]

/-- What is neither a bracket nor, outside all brackets, the separator is passed over. -/
theorem isUncut_singleton {c : Char} (hopen : c ≠ '[') (hclose : c ≠ ']')
    (hseparator : c = separator → depth ≠ 0) : IsUncut separator depth [c] := by
  intro part rest
  have hkept : (c == separator && depth == 0) = false := by
    by_cases h : c = separator
    · simp [hseparator h]
    · simp [h]
  have hdepth : depthAfter depth c = depth := by
    simp [depthAfter, hopen, hclose]
  rw [List.singleton_append, partsOf, hkept, if_neg Bool.false_ne_true, hdepth]
  rfl

theorem isUncut_of_forall (h : ∀ c ∈ chars, c ≠ '[' ∧ c ≠ ']' ∧ c ≠ separator) :
    IsUncut separator depth chars := by
  induction chars with
  | nil => exact fun _ _ => rfl
  | cons c rest ih =>
      obtain ⟨⟨hopen, hclose, hseparator⟩, hrest⟩ := List.forall_mem_cons.mp h
      exact (isUncut_singleton hopen hclose fun h => absurd h hseparator).append (ih hrest)

/-- Brackets that match are passed over with all that stands between them. -/
theorem IsUncut.bracketed (h : IsUncut separator (depth + 1) chars) (hopen : separator ≠ '[') :
    IsUncut separator depth ('[' :: (chars ++ [']'])) := by
  intro part rest
  have hleft : partsOf separator depth part ('[' :: (chars ++ ']' :: rest)) =
      partsOf separator (depth + 1) ('[' :: part) (chars ++ ']' :: rest) := by
    rw [partsOf, if_neg (by simp [hopen.symm])]
    rfl
  have hright : ∀ kept, partsOf separator (depth + 1) kept (']' :: rest) =
      partsOf separator depth (']' :: kept) rest := by
    intro kept
    rw [partsOf, if_neg (by simp)]
    rfl
  simp only [List.cons_append, List.append_assoc, List.nil_append]
  rw [hleft, h, hright]
  simp

theorem isUncut_intercalate {parts : List (List Char)} {between : Char}
    (h : ∀ part ∈ parts, IsUncut separator depth part)
    (hbetween : IsUncut separator depth [between]) :
    IsUncut separator depth ([between].intercalate parts) := by
  induction parts with
  | nil => exact fun _ _ => rfl
  | cons part parts ih =>
      obtain ⟨hpart, hparts⟩ := List.forall_mem_cons.mp h
      cases parts with
      | nil => simpa using hpart
      | cons next others =>
          rw [List.intercalate_cons_of_ne_nil (List.cons_ne_nil _ _)]
          exact (hpart.append hbetween).append (ih hparts)

theorem partsOf_ne_nil (separator : Char) (depth : Nat) (part chars : List Char) :
    partsOf separator depth part chars ≠ [] := by
  fun_induction partsOf separator depth part chars with
  | case1 => exact List.cons_ne_nil _ _
  | case2 => exact List.cons_ne_nil _ _
  | case3 _ _ _ _ _ ih => exact ih

theorem partsOf_of_isUncut (h : IsUncut separator 0 chars) :
    partsOf separator 0 [] chars = [chars] := by
  have hwhole := h [] []
  rw [List.append_nil, List.append_nil] at hwhole
  rw [hwhole, partsOf, List.reverse_reverse]

/-- The first part ends where the separator stands outside all brackets. -/
theorem partsOf_cons (h : IsUncut separator 0 chars) (rest : List Char) :
    partsOf separator 0 [] (chars ++ separator :: rest) =
      chars :: partsOf separator 0 [] rest := by
  rw [h, partsOf, if_pos (by simp), List.append_nil, List.reverse_reverse]

/-- Parts that are left whole are found again between the separators. -/
theorem partsOf_intercalate {parts : List (List Char)} (hne : parts ≠ [])
    (h : ∀ part ∈ parts, IsUncut separator 0 part) :
    partsOf separator 0 [] ([separator].intercalate parts) = parts := by
  induction parts with
  | nil => exact absurd rfl hne
  | cons part parts ih =>
      obtain ⟨hpart, hparts⟩ := List.forall_mem_cons.mp h
      cases parts with
      | nil => rw [List.intercalate_singleton, partsOf_of_isUncut hpart]
      | cons next others =>
          rw [List.intercalate_cons_of_ne_nil (List.cons_ne_nil _ _), List.append_assoc,
            List.singleton_append, partsOf_cons hpart, ih (List.cons_ne_nil _ _) hparts]

end DeclaredType

section Joined

variable (between : Char) {parts : List (List Char)}

theorem forall_mem_intercalate {p : Char → Prop} {between : Char} (hbetween : p between)
    (h : ∀ part ∈ parts, ∀ c ∈ part, p c) : ∀ c ∈ [between].intercalate parts, p c := by
  induction parts with
  | nil => simp
  | cons part parts ih =>
      obtain ⟨hpart, hparts⟩ := List.forall_mem_cons.mp h
      cases parts with
      | nil => rwa [List.intercalate_singleton]
      | cons next others =>
          rw [List.intercalate_cons_of_ne_nil (List.cons_ne_nil _ _)]
          simp only [List.forall_mem_append, List.forall_mem_singleton]
          exact ⟨⟨hpart, hbetween⟩, ih hparts⟩

theorem length_le_intercalate {part : List Char} (h : part ∈ parts) :
    part.length ≤ ([between].intercalate parts).length := by
  induction parts with
  | nil => cases h
  | cons first parts ih =>
      cases parts with
      | nil =>
          obtain rfl := List.mem_singleton.mp h
          rw [List.intercalate_singleton]
      | cons next others =>
          rw [List.intercalate_cons_of_ne_nil (List.cons_ne_nil _ _)]
          simp only [List.length_append]
          rcases List.mem_cons.mp h with rfl | hrest
          · omega
          · have hlength := ih hrest
            omega

/-- One of several parts is shorter than all of them together. -/
theorem length_lt_intercalate (hseveral : 2 ≤ parts.length) {part : List Char} (h : part ∈ parts) :
    part.length < ([between].intercalate parts).length := by
  match parts, hseveral with
  | first :: next :: others, _ =>
      rw [List.intercalate_cons_of_ne_nil (List.cons_ne_nil _ _)]
      simp only [List.length_append, List.length_singleton]
      rcases List.mem_cons.mp h with rfl | hrest
      · omega
      · have hlength := length_le_intercalate between hrest
        omega

end Joined

namespace WrittenType

open DeclaredType

theorem isNameChar_iff {c : Char} :
    isNameChar c = true ↔ Text.isBlank c = false ∧ c ≠ '[' ∧ c ≠ ']' ∧ c ≠ ',' ∧ c ≠ '|' := by
  simp [isNameChar, and_assoc]

theorem isNameChar_word (form : TypeForm) : form.word.toList.all isNameChar = true := by
  cases form <;> rfl

theorem isBlank_of_isNameChar {chars : List Char} (h : chars.all isNameChar = true) :
    ∀ c ∈ chars, Text.isBlank c = false :=
  fun c hc => (isNameChar_iff.mp (List.all_eq_true.mp h c hc)).1

theorem isNoBracket_of_isNameChar {chars : List Char} (h : chars.all isNameChar = true) :
    ∀ c ∈ chars, isNoBracket c = true := by
  intro c hc
  simpa [isNoBracket] using (isNameChar_iff.mp (List.all_eq_true.mp h c hc)).2.1

theorem isUncut_of_isNameChar {separator : Char} (hseparator : separator = ',' ∨ separator = '|')
    {chars : List Char} (h : chars.all isNameChar = true) (depth : Nat) :
    IsUncut separator depth chars := by
  apply isUncut_of_forall
  intro c hc
  obtain ⟨-, hopen, hclose, hcomma, hbar⟩ := isNameChar_iff.mp (List.all_eq_true.mp h c hc)
  rcases hseparator with rfl | rfl
  · exact ⟨hopen, hclose, hcomma⟩
  · exact ⟨hopen, hclose, hbar⟩

theorem isUncut_joinedArguments {separator : Char} {depth : Nat} {parts : List (List Char)}
    (hdepth : depth ≠ 0) (h : ∀ part ∈ parts, IsUncut separator depth part) :
    IsUncut separator depth (joinedArguments parts) := by
  have hsingle : ∀ c, c ≠ '[' → c ≠ ']' → IsUncut separator depth [c] :=
    fun c hopen hclose => isUncut_singleton hopen hclose fun _ => hdepth
  cases parts with
  | nil => exact (hsingle '(' (by decide) (by decide)).append (hsingle ')' (by decide) (by decide))
  | cons part parts => exact isUncut_intercalate h (hsingle ',' (by decide) (by decide))

variable {type : WrittenType}

/-- A type is left whole between brackets, and outside of them unless it is a union that is cut at
its bars. -/
theorem IsProper.isUncut (h : type.IsProper) {separator : Char}
    (hseparator : separator = ',' ∨ separator = '|') {depth : Nat}
    (hoverall : depth = 0 → separator = '|' → type.isUnion = false) :
    IsUncut separator depth type.chars := by
  have hopen : separator ≠ '[' := by
    rcases hseparator with rfl | rfl <;> decide
  induction h generalizing depth with
  | named hname => exact isUncut_of_isNameChar hseparator hname depth
  | @applied form arguments harguments ih =>
      have hparts : ∀ part ∈ charsOf arguments, IsUncut separator (depth + 1) part := by
        rw [charsOf_eq_map, List.forall_mem_map]
        intro argument hargument
        exact ih argument hargument fun hzero => absurd hzero (Nat.succ_ne_zero depth)
      have hinside := isUncut_joinedArguments (Nat.succ_ne_zero depth) hparts
      have hword := isUncut_of_isNameChar hseparator (isNameChar_word form) depth
      exact hword.append (hinside.bracketed hopen)
  | union hseveral hdistinct hflat hmembers ih =>
      rw [chars, charsOf_eq_map]
      apply isUncut_intercalate
      · rw [List.forall_mem_map]
        intro member hmember
        exact ih member hmember fun _ _ => hflat member hmember
      · refine isUncut_singleton (by decide) (by decide) ?_
        rintro hbar rfl
        cases hoverall rfl hbar.symm

/-- There are no blanks in a type, so that nothing of it is trimmed. -/
theorem IsProper.isBlank_eq_false (h : type.IsProper) :
    ∀ c ∈ type.chars, Text.isBlank c = false := by
  induction h with
  | named hname => exact isBlank_of_isNameChar hname
  | @applied form arguments harguments ih =>
      have hword := isBlank_of_isNameChar (isNameChar_word form)
      have hinside : ∀ c ∈ joinedArguments (charsOf arguments), Text.isBlank c = false := by
        cases arguments with
        | nil => exact List.forall_mem_cons.mpr ⟨rfl, List.forall_mem_singleton.mpr rfl⟩
        | cons first rest =>
            refine forall_mem_intercalate rfl ?_
            rwa [charsOf_eq_map, List.forall_mem_map]
      simp only [chars, List.forall_mem_append, List.forall_mem_cons]
      exact ⟨hword, rfl, hinside, rfl, List.forall_mem_nil _⟩
  | union hseveral hdistinct hflat hmembers ih =>
      rw [chars]
      refine forall_mem_intercalate rfl ?_
      rwa [charsOf_eq_map, List.forall_mem_map]

/-- Outside all brackets there is no bar in a type that is no union. -/
theorem IsProper.read_alone (h : type.IsProper) (hunion : type.isUnion = false) (fuel : Nat) :
    DeclaredType.read (fuel + 1) type.chars = readAlone (DeclaredType.read fuel) type.chars := by
  rw [DeclaredType.read, partsOf_of_isUncut (h.isUncut (.inr rfl) fun _ _ => hunion)]

theorem readAlone_named {name : String} (h : IsProper (.named name))
    (read : List Char → DeclaredType) :
    readAlone read (chars (.named name)) = .ofName name := by
  cases h with
  | named hname =>
      have hno := isNoBracket_of_isNameChar hname
      have hblank := (IsProper.named hname).isBlank_eq_false
      rw [readAlone, Text.trimBy_of_forall hblank, chars, List.takeWhile_eq_self_iff.mpr hno,
        List.dropWhile_eq_nil_iff.mpr hno, String.ofList_toList]

/-- The first argument is the first part between the brackets. -/
theorem firstArgument_joinedArguments {arguments : List WrittenType}
    (h : ∀ type ∈ arguments, IsProper type) :
    firstArgument (joinedArguments (charsOf arguments) ++ [']']) =
      (charsOf arguments).headD ['(', ')'] := by
  have huncut : ∀ element ∈ arguments, IsUncut ',' 0 element.chars :=
    fun element helement => (h element helement).isUncut (.inl rfl) (by simp)
  match arguments with
  | [] => decide
  | [element] =>
      have hclosed : partsOf ',' 0 [] (element.chars ++ [']']) = [element.chars ++ [']']] := by
        rw [huncut element List.mem_cons_self]
        simp [partsOf]
      rw [firstArgument]
      simp [charsOf, joinedArguments, hclosed]
  | element :: next :: rest =>
      let behind := [','].intercalate (charsOf (next :: rest)) ++ [']']
      have hjoined : joinedArguments (charsOf (element :: next :: rest)) ++ [']'] =
          element.chars ++ ',' :: behind := by
        simp [charsOf, joinedArguments, behind, List.intercalate_cons_cons]
      obtain ⟨second, others, hothers⟩ :=
        List.exists_cons_of_ne_nil (partsOf_ne_nil ',' 0 [] behind)
      rw [firstArgument, hjoined, partsOf_cons (huncut element List.mem_cons_self), hothers]
      rfl

theorem readAlone_applied {form : TypeForm} {arguments : List WrittenType}
    (h : IsProper (.applied form arguments)) (read : List Char → DeclaredType) :
    readAlone read (chars (.applied form arguments)) =
      if form = .dict then .plain
      else .sequence (read ((charsOf arguments).headD ['(', ')'])) := by
  have hword := isNoBracket_of_isNameChar (isNameChar_word form)
  have hname : (chars (.applied form arguments)).takeWhile isNoBracket = form.word.toList := by
    rw [chars, List.takeWhile_append_of_pos hword, List.takeWhile_cons_of_neg (by decide),
      List.append_nil]
  have hrest : (chars (.applied form arguments)).dropWhile isNoBracket =
      '[' :: (joinedArguments (charsOf arguments) ++ [']']) := by
    rw [chars, List.dropWhile_append_of_pos hword, List.dropWhile_cons_of_neg (by decide)]
  rw [readAlone, Text.trimBy_of_forall h.isBlank_eq_false, hname, hrest, String.ofList_toList]
  cases h with
  | applied form harguments =>
      dsimp only
      rw [firstArgument_joinedArguments harguments]
      cases form <;> rfl

theorem read_noArguments (fuel : Nat) : DeclaredType.read fuel ['(', ')'] = .plain := by
  cases fuel <;> rfl

/-- A type is read as what it declares. -/
theorem IsProper.read_chars (h : type.IsProper) {fuel : Nat} (hfuel : type.chars.length < fuel) :
    DeclaredType.read fuel type.chars = type.declared := by
  induction h generalizing fuel with
  | @named name hname =>
      obtain ⟨fuel, rfl⟩ := Nat.exists_eq_succ_of_ne_zero (Nat.ne_zero_of_lt hfuel)
      rw [(IsProper.named hname).read_alone rfl, readAlone_named (.named hname)]
      rfl
  | @applied form arguments harguments ih =>
      obtain ⟨fuel, rfl⟩ := Nat.exists_eq_succ_of_ne_zero (Nat.ne_zero_of_lt hfuel)
      have hproper := IsProper.applied form harguments
      rw [hproper.read_alone rfl, readAlone_applied hproper]
      cases arguments with
      | nil => cases form <;> simp [charsOf, read_noArguments, declared]
      | cons element rest =>
          have hinside : element.chars.length ≤
              (joinedArguments (charsOf (element :: rest))).length :=
            length_le_intercalate ',' List.mem_cons_self
          have hfits : element.chars.length < fuel := by
            simp only [chars, List.length_append, List.length_cons] at hfuel
            omega
          have hread := ih element List.mem_cons_self hfits
          cases form <;> simp [charsOf, hread, declared]
  | @union members hseveral hdistinct hflat hmembers ih =>
      obtain ⟨fuel, rfl⟩ := Nat.exists_eq_succ_of_ne_zero (Nat.ne_zero_of_lt hfuel)
      rw [chars, charsOf_eq_map] at hfuel ⊢
      have huncut : ∀ part ∈ members.map chars, IsUncut '|' 0 part := by
        rw [List.forall_mem_map]
        intro member hmember
        exact (hmembers member hmember).isUncut (.inr rfl) fun _ _ => hflat member hmember
      have hread : ∀ member ∈ members, DeclaredType.read fuel member.chars = member.declared := by
        intro member hmember
        have hshorter : member.chars.length < (['|'].intercalate (members.map chars)).length :=
          length_lt_intercalate '|' (by simpa using hseveral) (List.mem_map_of_mem hmember)
        exact ih member hmember (by omega)
      have hne : members.map chars ≠ [] := by
        intro hnone
        simp [List.map_eq_nil_iff.mp hnone] at hseveral
      have hparts := partsOf_intercalate hne huncut
      have hunion : (members.map chars).map (DeclaredType.read fuel) = declaredOf members := by
        rw [declaredOf_eq_map, List.map_map]
        exact List.map_congr_left hread
      rw [DeclaredType.read, hparts, declared, ← hunion]
      match members, hseveral with
      | first :: second :: others, _ => rfl

/-- Every type is read as what it declares, however deep its forms and alternatives are nested. -/
theorem IsProper.ofText_text (h : type.IsProper) :
    DeclaredType.ofText type.text = type.declared := by
  rw [ofText, text, String.toList_ofList, String.length_ofList]
  exact h.read_chars (Nat.lt_succ_self _)

end WrittenType

end FacetedSearch
