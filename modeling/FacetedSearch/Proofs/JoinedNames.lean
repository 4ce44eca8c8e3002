import FacetedSearch.Proofs.FieldPaths

/-!
Names joined to a path and split off it again. A path is split where the separator stands first. Names
that are not empty, have no separator in them and do not end with a part of it are found again, so
that different names have different paths.
-/

namespace FacetedSearch.FieldPath

/-- The path of names that stand inside each other. -/
def joined (names : List String) : String := names.foldl (extend separator) ""

/-- A name whose end is the first place where a separator can stand, if one is written after it. -/
structure IsPlainName (name : String) : Prop where
  nonempty : name ≠ ""
  resolved : IsResolved name
  last : name.toList.getLast? ≠ some '_'

instance : DecidablePred IsPlainName := fun name =>
  decidable_of_iff (name ≠ "" ∧ IsResolved name ∧ name.toList.getLast? ≠ some '_')
    ⟨fun h => ⟨h.1, h.2.1, h.2.2⟩, fun h => ⟨h.nonempty, h.resolved, h.last⟩⟩

def splitChars : List Char → List (List Char)
  | '_' :: '_' :: rest => [] :: splitChars rest
  | c :: rest => (splitChars rest).modifyHead (c :: ·)
  | [] => [[]]

/-- The names that separators part in a path. -/
def segments (path : String) : List String := (splitChars path.toList).map String.ofList

theorem splitChars_cons {c : Char} {rest : List Char} (h : c = '_' → rest.head? ≠ some '_') :
    splitChars (c :: rest) = (splitChars rest).modifyHead (c :: ·) := by
  rw [splitChars]
  rintro others rfl rfl
  exact h rfl rfl

theorem splitChars_of_isChain {name : List Char} (h : name.IsChain Apart) :
    splitChars name = [name] := by
  induction name with
  | nil => rfl
  | cons c name ih =>
      obtain ⟨happart, hchain⟩ := List.isChain_cons.mp h
      rw [splitChars_cons, ih hchain, List.modifyHead_cons]
      rintro rfl hhead
      exact happart _ hhead ⟨rfl, rfl⟩

theorem splitChars_append {name : List Char} (h : name.IsChain Apart)
    (hlast : name.getLast? ≠ some '_') (rest : List Char) :
    splitChars (name ++ '_' :: '_' :: rest) = name :: splitChars rest := by
  induction name with
  | nil => rfl
  | cons c name ih =>
      obtain ⟨happart, hchain⟩ := List.isChain_cons.mp h
      cases name with
      | nil =>
          have hc : c ≠ '_' := fun hc => hlast (by simp [hc])
          show splitChars (c :: '_' :: '_' :: rest) = _
          rw [splitChars_cons fun h => absurd h hc]
          rfl
      | cons d name =>
          rw [List.cons_append, splitChars_cons, ih hchain (by simpa using hlast),
            List.modifyHead_cons]
          rintro rfl hhead
          exact happart d (by simp) ⟨rfl, by simpa using hhead⟩

/-- What stands behind the first name of a path. -/
def behind (names : List String) : List Char :=
  names.flatMap fun name => separator.toList ++ name.toList

theorem toList_foldl_extend {path : String} (hpath : path ≠ "") (names : List String) :
    (names.foldl (extend separator) path).toList = path.toList ++ behind names := by
  induction names generalizing path with
  | nil => simp [behind]
  | cons name names ih =>
      have hextend : extend separator path name = path ++ separator ++ name := by
        rw [extend, if_neg]
        simpa using hpath
      have hne : extend separator path name ≠ "" := by
        rw [hextend]
        simp [separator]
      rw [List.foldl_cons, ih hne, hextend]
      simp [behind]

theorem toList_joined {name : String} (hname : name ≠ "") (names : List String) :
    (joined (name :: names)).toList = name.toList ++ behind names :=
  toList_foldl_extend hname names

theorem splitChars_behind {name : String} {names : List String}
    (h : ∀ other ∈ name :: names, IsPlainName other) :
    splitChars (name.toList ++ behind names) = (name :: names).map String.toList := by
  induction names generalizing name with
  | nil =>
      have hname := h name List.mem_cons_self
      simpa [behind] using splitChars_of_isChain (isResolved_iff.mp hname.resolved)
  | cons next names ih =>
      obtain ⟨hname, hnames⟩ := List.forall_mem_cons.mp h
      show splitChars (name.toList ++ '_' :: '_' :: (next.toList ++ behind names)) = _
      rw [splitChars_append (isResolved_iff.mp hname.resolved) hname.last, ih hnames]
      rfl

/-- Plain names are the segments of their path. -/
theorem segments_joined {names : List String} (hne : names ≠ [])
    (h : ∀ name ∈ names, IsPlainName name) : segments (joined names) = names := by
  cases names with
  | nil => exact absurd rfl hne
  | cons name names =>
      have hname := (h name List.mem_cons_self).nonempty
      calc
        segments (joined (name :: names))
          = (splitChars (name.toList ++ behind names)).map String.ofList := by
            rw [segments, toList_joined hname]
        _ = ((name :: names).map String.toList).map String.ofList := by rw [splitChars_behind h]
        _ = name :: names := by simp [Function.comp_def]

end FacetedSearch.FieldPath
