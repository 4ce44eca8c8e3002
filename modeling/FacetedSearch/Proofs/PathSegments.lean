import FacetedSearch.Proofs.JoinedNames
import Mathlib.Data.List.TakeWhile

/-!
The dotted path of an id, segment by segment. The separators of an id are found from the left, and
in its path a dot takes the place of each of them. The path is then its own dotted path, it begins
with the first segment of the id, and it ends with the last one.
-/

namespace FacetedSearch.FieldPath

/-- Names that are found in an id from the left: a separator written after a name is met there
first, and none is left in the last name. -/
inductive AreFoundFirst : List String → Prop
  | last {name : String} (h : IsResolved name) : AreFoundFirst [name]
  | cons {name : String} {names : List String} (h : IsResolved (name ++ "_"))
      (hnames : AreFoundFirst names) : AreFoundFirst (name :: names)

/-- The segments that dots part in a path. -/
def dotSegments (path : String) : List String := (path.toList.splitOn '.').map String.ofList

/-- What the dotted path of an id is like. -/
structure IsPathOf (id path : String) : Prop where
  /-- A dot takes the place of each separator, from the left. -/
  translated : ∃ names, id = separator.intercalate names ∧ path = ".".intercalate names ∧
    AreFoundFirst names
  resolved : IsResolved path
  dotted_eq : dotted path = path
  root_eq : root path = root id
  baseName_eq : baseName path = baseName id
  dot_not_mem_root : '.' ∉ (root id).toList
  /-- The first segment is also the last one, or the path ends with that beyond the first. -/
  ends : path = root id ∧ baseName id = root id ∨
    ∃ rest, path = root id ++ "." ++ rest ∧ (dotSegments rest).getLast? = some (baseName id)

theorem splitChars_ne_nil (chars : List Char) : splitChars chars ≠ [] := by
  fun_induction splitChars chars with
  | case1 rest ih => exact List.cons_ne_nil _ _
  | case2 c rest hpair ih => simpa [List.modifyHead_eq_nil_iff] using ih
  | case3 => exact List.cons_ne_nil _ _

theorem intercalate_modifyHead_cons {parts : List (List Char)} (h : parts ≠ [])
    (between : List Char) (c : Char) :
    between.intercalate (parts.modifyHead (c :: ·)) = c :: between.intercalate parts := by
  cases parts with
  | nil => exact absurd rfl h
  | cons part others => rw [List.modifyHead_cons, List.intercalate_cons_cons_left]

/-- An id is its segments with separators between them. -/
theorem intercalate_splitChars (chars : List Char) :
    ['_', '_'].intercalate (splitChars chars) = chars := by
  fun_induction splitChars chars with
  | case1 rest ih =>
      rw [List.intercalate_cons_of_ne_nil (splitChars_ne_nil rest), ih]
      rfl
  | case2 c rest hpair ih => rw [intercalate_modifyHead_cons (splitChars_ne_nil rest), ih]
  | case3 => rfl

/-- The path of an id is its segments with dots between them. -/
theorem dotChars_eq_intercalate (chars : List Char) :
    dotChars chars = ['.'].intercalate (splitChars chars) := by
  fun_induction splitChars chars with
  | case1 rest ih =>
      rw [List.intercalate_cons_of_ne_nil (splitChars_ne_nil rest), ← ih]
      rfl
  | case2 c rest hpair ih =>
      rw [intercalate_modifyHead_cons (splitChars_ne_nil rest), ← ih, dotChars]
      exact hpair
  | case3 => rfl

theorem isChain_prepend {c : Char} {rest chars : List Char}
    (hpair : ∀ others, c = '_' → rest = '_' :: others → False) (hchars : chars.IsChain Apart)
    (hhead : chars.head? = rest.head?) : (c :: chars).IsChain Apart := by
  refine List.isChain_cons.mpr ⟨?_, hchars⟩
  rintro d hd ⟨rfl, rfl⟩
  rw [hhead] at hd
  obtain ⟨others, rfl⟩ := List.head?_eq_some_iff.mp hd
  exact hpair others rfl rfl

theorem areFoundFirst_cons_iff {name : String} {names : List String} :
    AreFoundFirst (name :: names) ↔
      names = [] ∧ IsResolved name ∨ IsResolved (name ++ "_") ∧ AreFoundFirst names := by
  constructor
  · rintro (h | ⟨h, hnames⟩)
    · exact .inl ⟨rfl, h⟩
    · exact .inr ⟨h, hnames⟩
  · rintro (⟨rfl, h⟩ | ⟨h, hnames⟩)
    · exact .last h
    · exact .cons h hnames

theorem areFoundFirst_splitChars (chars : List Char) :
    AreFoundFirst ((splitChars chars).map String.ofList) := by
  fun_induction splitChars chars with
  | case1 rest ih => exact .cons (by decide) ih
  | case2 c rest hpair ih =>
      -- The character joins the first segment, where only the beginning of the rest can follow it.
      have hrest := intercalate_splitChars rest
      cases hsplit : splitChars rest with
      | nil => exact absurd hsplit (splitChars_ne_nil rest)
      | cons name others =>
          rw [hsplit] at ih hrest
          rcases areFoundFirst_cons_iff.mp ih with ⟨hnone, h⟩ | ⟨h, hothers⟩
          · obtain rfl := List.map_eq_nil_iff.mp hnone
            refine .last ?_
            rw [isResolved_iff, String.toList_ofList] at h ⊢
            rw [List.intercalate_singleton] at hrest
            exact isChain_prepend hpair h (congrArg List.head? hrest)
          · refine .cons ?_ hothers
            have hne : others ≠ [] := by
              rintro rfl
              cases hothers
            rw [isResolved_iff, String.toList_append, String.toList_ofList] at h ⊢
            rw [List.intercalate_cons_of_ne_nil hne] at hrest
            refine isChain_prepend hpair h ?_
            rw [← hrest]
            cases name <;> rfl
  | case3 => exact .last (by decide)

theorem toList_intercalate_segments (between id : String) :
    (between.intercalate (segments id)).toList =
      between.toList.intercalate (splitChars id.toList) := by
  simp [segments, String.toList_intercalate, Function.comp_def]

/-- The segments of an id are its own with separators between them, and its path with dots. -/
theorem intercalate_segments (id : String) :
    separator.intercalate (segments id) = id ∧ ".".intercalate (segments id) = dotted id := by
  constructor
  · rw [← String.toList_inj, toList_intercalate_segments]
    exact intercalate_splitChars id.toList
  · have hpath : (dotted id).toList = ['.'].intercalate (splitChars id.toList) := by
      rw [dotted, String.toList_ofList, dotChars_eq_intercalate]
    rw [← String.toList_inj, toList_intercalate_segments, hpath]
    rfl

theorem takeWhile_isNoDot {chars : List Char} (h : '.' ∉ chars) :
    chars.takeWhile isNoDot = chars := by
  rw [List.takeWhile_eq_self_iff]
  intro c hc
  rw [isNoDot, bne_iff_ne]
  rintro rfl
  exact h hc

/-- The last of the parts of a list is what stands behind its last dot. -/
theorem getLast?_splitOn (chars : List Char) :
    (chars.splitOn '.').getLast? = some (chars.reverse.takeWhile isNoDot).reverse := by
  by_cases hdot : '.' ∈ chars
  · obtain ⟨last, before, heq, hlast⟩ :=
      List.eq_append_cons_of_mem (List.mem_reverse.mpr hdot)
    obtain rfl : chars = before.reverse ++ '.' :: last.reverse := by
      simpa using congrArg List.reverse heq
    have hparts := List.splitOn_eq_singleton (mt List.mem_reverse.mp hlast)
    rw [heq, List.splitOn_append_cons_self, hparts, List.getLast?_concat]
    have hbehind : (last ++ '.' :: before).takeWhile isNoDot = last := by
      rw [List.takeWhile_append, takeWhile_isNoDot hlast, if_pos rfl]
      simp [isNoDot]
    rw [hbehind]
  · rw [List.splitOn_eq_singleton hdot, takeWhile_isNoDot (by simpa using hdot)]
    simp

theorem dot_not_mem_root (id : String) : '.' ∉ (root id).toList := by
  rw [root, String.toList_ofList]
  intro hdot
  have hall := List.all_eq_true.mp List.all_takeWhile _ hdot
  exact absurd hall (by decide)

theorem getLast?_dotSegments (id : String) :
    (dotSegments (dotted id)).getLast? = some (baseName id) := by
  rw [dotSegments, dotted, String.toList_ofList, List.getLast?_map, getLast?_splitOn]
  rfl

theorem dotSegments_of_not_mem {name : String} (h : '.' ∉ name.toList) :
    dotSegments name = [name] := by
  rw [dotSegments, List.splitOn_eq_singleton h, List.map_singleton, String.ofList_toList]

theorem dotSegments_append {name : String} (h : '.' ∉ name.toList) (rest : String) :
    dotSegments (name ++ "." ++ rest) = name :: dotSegments rest := by
  have hchars : (name ++ "." ++ rest).toList = name.toList ++ '.' :: rest.toList := by simp
  rw [dotSegments, hchars, List.splitOn_append_cons_self_of_not_mem h, List.map_cons,
    String.ofList_toList]
  rfl

/-- The dotted path of every id is in the form of paths, and has its first and last segment. -/
theorem dotted_isPathOf (id : String) : IsPathOf id (dotted id) where
  translated :=
    ⟨segments id, (intercalate_segments id).1.symm, (intercalate_segments id).2.symm,
      areFoundFirst_splitChars id.toList⟩
  resolved := isResolved_dotted id
  dotted_eq := dotted_dotted id
  root_eq := root_dotted id
  baseName_eq := baseName_dotted id
  dot_not_mem_root := dot_not_mem_root id
  ends := by
    have hlast := getLast?_dotSegments id
    have hroot := dot_not_mem_root id
    rcases isAt_root_dotted id with heq | ⟨rest, heq⟩
    · rw [heq, dotSegments_of_not_mem hroot, List.getLast?_singleton] at hlast
      exact .inl ⟨heq, (Option.some.inj hlast).symm⟩
    · have hne : dotSegments rest ≠ [] := by simp [dotSegments]
      rw [heq, dotSegments_append hroot, List.getLast?_cons_of_ne_nil hne] at hlast
      exact .inr ⟨rest, heq, hlast⟩

example : segments "a___b" = ["a", "_b"] ∧ dotted "a___b" = "a._b" := by decide

end FacetedSearch.FieldPath
