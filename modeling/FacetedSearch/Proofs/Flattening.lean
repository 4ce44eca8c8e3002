import FacetedSearch.Proofs.Entries
import FacetedSearch.Proofs.JoinedNames

/-!
Flattened objects. A flattened object has the paths of the leaves of an object, each with the last leaf
that has it, whether the leaves are set one by one or the flattened objects below a name are merged
into the one above. Where names are plain no two leaves share a path, and the object can be built
again from its leaves, but for the objects that have none.
-/

namespace FacetedSearch.FieldPath

/-- A value that is no object, with the names that lead to it through objects. -/
structure Leaf where
  names : List String
  value : Value

namespace Leaf

/-- The leaf of an object that stands under a name. -/
def under (name : String) (leaf : Leaf) : Leaf := { leaf with names := name :: leaf.names }

def path (leaf : Leaf) : String := joined leaf.names

def entry (leaf : Leaf) : String × Value := (leaf.path, leaf.value)

end Leaf

mutual

/-- The leaves of a value in depth-first order. -/
def leaves : Value → List Leaf
  | .object entries => leavesIn entries
  | value => [{ names := [], value }]

def leavesIn : List (String × Value) → List Leaf
  | [] => []
  | (name, value) :: rest => (leaves value).map (Leaf.under name) ++ leavesIn rest

end

mutual

/-- What holds of a value if it is an object, and of every object reached through it. -/
def EveryObject (p : Entries Value → Prop) : Value → Prop
  | .object entries => p entries ∧ EveryObjectIn p entries
  | _ => True

def EveryObjectIn (p : Entries Value → Prop) : List (String × Value) → Prop
  | [] => True
  | (_, value) :: rest => EveryObject p value ∧ EveryObjectIn p rest

end

/-- At every depth, the names of an object are distinct. -/
def HasDistinctNames (source : Entries Value) : Prop :=
  EveryObject (fun entries => entries.names.Nodup) (.object source)

/-- At every depth, the names of an object are plain. -/
def HasPlainNames (source : Entries Value) : Prop :=
  EveryObject (fun entries => ∀ name ∈ entries.names, IsPlainName name) (.object source)

mutual

/-- A value without the objects that have no leaf. -/
def pruned : Value → Value
  | .object entries => .object (prunedIn entries)
  | value => value

def prunedIn : List (String × Value) → List (String × Value)
  | [] => []
  | (name, value) :: rest =>
    if pruned value = .object [] then prunedIn rest else (name, pruned value) :: prunedIn rest

end

/-- What stands under a name, if it is an object. -/
def inner (entries : Entries Value) (name : String) : Entries Value :=
  ((entries.find? name).bind Value.entries?).getD []

/-- Sets a value under names, in objects that are made where there are none. -/
def insertAt (entries : Entries Value) : List String → Value → Entries Value
  | [], _ => entries
  | [name], value => entries.put name value
  | name :: names, value => entries.put name (.object (insertAt (inner entries name) names value))

def insertLeaf (entries : Entries Value) (leaf : Leaf) : Entries Value :=
  insertAt entries leaf.names leaf.value

/-- The object whose leaves have the given paths. -/
def rebuilt (flattened : Entries Value) : Entries Value :=
  flattened.foldl (fun entries leaf => insertAt entries (segments leaf.1) leaf.2) []

/-- Adds a named value to what is flattened under a path: an object is flattened by itself and its
leaves are merged, any other value is a leaf. -/
def mergeEntry (separator path : String) (flattened : Entries Value) (entry : String × Value) :
    Entries Value :=
  match entry.2 with
  | .object entries =>
    flattened.putAll (flatten entries separator (extend separator path entry.1))
  | value => flattened.put (extend separator path entry.1) value

/-- An object flattened into one level: the paths of its leaves with the last leaf of each, and where
names are plain one entry for each leaf, from which the object can be built again. -/
structure FlattensLosslessly (source : Entries Value) : Prop where
  merged : flatten source = source.foldl (mergeEntry separator "") []
  names : ∀ path, path ∈ (flatten source).names ↔ ∃ leaf ∈ leavesIn source, leaf.path = path
  distinct : (flatten source).names.Nodup
  values : ∀ path, (flatten source).find? path =
    ((leavesIn source).filter (·.path = path)).getLast?.map (·.value)
  paths : HasDistinctNames source → HasPlainNames source →
    ((leavesIn source).map Leaf.path).Nodup
  entries : HasDistinctNames source → HasPlainNames source →
    flatten source = (leavesIn source).map Leaf.entry
  rebuilt : HasDistinctNames source → HasPlainNames source →
    rebuilt (flatten source) = prunedIn source

mutual

theorem leavesUnder_eq (separator path : String) : ∀ value : Value,
    leavesUnder separator path value =
      (leaves value).map fun leaf => (leaf.names.foldl (extend separator) path, leaf.value)
  | .object entries => by rw [leavesUnder, leaves, leavesOf_eq separator path entries]
  | .null | .bool _ | .int _ | .float _ | .str _ | .list _ | .tuple _ | .set _ => rfl

theorem leavesOf_eq (separator path : String) : ∀ entries : List (String × Value),
    leavesOf separator path entries =
      (leavesIn entries).map fun leaf => (leaf.names.foldl (extend separator) path, leaf.value)
  | [] => rfl
  | (name, value) :: rest => by
      rw [leavesOf, leavesIn, leavesUnder_eq separator (extend separator path name) value,
        leavesOf_eq separator path rest, List.map_append, List.map_map]
      rfl

end

theorem flatten_eq_ofList (source : Entries Value) :
    flatten source = Entries.ofList ((leavesIn source).map Leaf.entry) := by
  rw [flatten, leavesOf_eq]
  rfl

/-- The leaves of an object can be merged as a whole. -/
theorem putAll_leavesUnder (separator path : String) (flattened : Entries Value) (value : Value)
    (name : String) :
    flattened.putAll (leavesUnder separator (extend separator path name) value) =
      mergeEntry separator path flattened (name, value) := by
  cases value with
  | object entries =>
      show _ = flattened.putAll (flatten entries separator (extend separator path name))
      rw [leavesUnder, flatten, Entries.putAll_ofList]
  | _ => rfl

theorem flatten_eq_foldl (source : Entries Value) (separator path : String) :
    flatten source separator path = source.foldl (mergeEntry separator path) [] := by
  have hmerge : ∀ (source : List (String × Value)) (flattened : Entries Value),
      flattened.putAll (leavesOf separator path source) =
        source.foldl (mergeEntry separator path) flattened := by
    intro source
    induction source with
    | nil => exact fun _ => rfl
    | cons entry rest ih =>
        intro flattened
        rw [leavesOf, Entries.putAll_append, putAll_leavesUnder, ih, List.foldl_cons]
  exact hmerge source []

theorem names_entries (source : Entries Value) :
    Entries.names ((leavesIn source).map Leaf.entry) = (leavesIn source).map Leaf.path := by
  rw [Entries.names, List.map_map]
  rfl

theorem mem_names_flatten_iff {source : Entries Value} {path : String} :
    path ∈ (flatten source).names ↔ ∃ leaf ∈ leavesIn source, leaf.path = path := by
  rw [flatten_eq_ofList, Entries.ofList, Entries.mem_names_putAll, names_entries, List.mem_map]
  simp [Entries.names]

theorem find?_flatten (source : Entries Value) (path : String) :
    (flatten source).find? path =
      ((leavesIn source).filter (·.path = path)).getLast?.map (·.value) := by
  rw [flatten_eq_ofList, Entries.find?_ofList, List.filter_map, List.getLast?_map, Option.map_map]
  rfl

mutual

theorem forall_mem_leaves {p : String → Prop} : ∀ value : Value,
    EveryObject (fun entries => ∀ name ∈ entries.names, p name) value →
      ∀ leaf ∈ leaves value, ∀ name ∈ leaf.names, p name
  | .object entries => fun h => forall_mem_leavesIn entries h.1 h.2
  | .null | .bool _ | .int _ | .float _ | .str _ | .list _ | .tuple _ | .set _ => fun _ => by
      simp [leaves]

theorem forall_mem_leavesIn {p : String → Prop} : ∀ entries : List (String × Value),
    (∀ name ∈ Entries.names entries, p name) →
      EveryObjectIn (fun entries => ∀ name ∈ entries.names, p name) entries →
      ∀ leaf ∈ leavesIn entries, ∀ name ∈ leaf.names, p name
  | [], _, _ => by simp [leavesIn]
  | (name, value) :: rest, hnames, h => by
      obtain ⟨hname, hrest⟩ := List.forall_mem_cons.mp hnames
      rw [leavesIn, List.forall_mem_append]
      refine ⟨?_, forall_mem_leavesIn rest hrest h.2⟩
      rw [List.forall_mem_map]
      intro leaf hleaf
      exact List.forall_mem_cons.mpr ⟨hname, forall_mem_leaves value h.1 leaf hleaf⟩

end

theorem exists_names_of_mem_leavesIn {entries : List (String × Value)} {leaf : Leaf}
    (h : leaf ∈ leavesIn entries) :
    ∃ name names, leaf.names = name :: names ∧ name ∈ Entries.names entries := by
  induction entries with
  | nil => simp [leavesIn] at h
  | cons entry rest ih =>
      rcases List.mem_append.mp h with hunder | hrest
      · obtain ⟨below, -, rfl⟩ := List.mem_map.mp hunder
        exact ⟨entry.1, below.names, rfl, List.mem_cons_self⟩
      · obtain ⟨name, names, hnames, hmem⟩ := ih hrest
        exact ⟨name, names, hnames, List.mem_cons_of_mem _ hmem⟩

mutual

/-- Where the names of each object are distinct, no two leaves stand under the same names. -/
theorem nodup_names_leaves : ∀ value : Value,
    EveryObject (fun entries => entries.names.Nodup) value →
      ((leaves value).map Leaf.names).Nodup
  | .object entries => fun h => nodup_names_leavesIn entries h.1 h.2
  | .null | .bool _ | .int _ | .float _ | .str _ | .list _ | .tuple _ | .set _ => fun _ => by
      simp [leaves]

theorem nodup_names_leavesIn : ∀ entries : List (String × Value),
    (Entries.names entries).Nodup → EveryObjectIn (fun entries => entries.names.Nodup) entries →
      ((leavesIn entries).map Leaf.names).Nodup
  | [], _, _ => .nil
  | (name, value) :: rest, hnames, h => by
      obtain ⟨hname, hrest⟩ := List.nodup_cons.mp hnames
      have hunder : (((leaves value).map (Leaf.under name)).map Leaf.names) =
          ((leaves value).map Leaf.names).map (name :: ·) := by
        rw [List.map_map, List.map_map]
        rfl
      rw [leavesIn, List.map_append, hunder]
      refine List.Nodup.append ((nodup_names_leaves value h.1).map fun _ _ => List.tail_eq_of_cons_eq)
        (nodup_names_leavesIn rest hrest h.2) ?_
      -- the first names tell the leaves under this name from those under others
      intro names hbelow hothers
      obtain ⟨below, -, rfl⟩ := List.mem_map.mp hbelow
      obtain ⟨leaf, hleaf, heq⟩ := List.mem_map.mp hothers
      obtain ⟨other, names, hother, hmem⟩ := exists_names_of_mem_leavesIn hleaf
      obtain ⟨rfl, -⟩ := List.cons.inj (hother.symm.trans heq)
      exact hname hmem

end

section

variable {source : Entries Value}

theorem segments_path (hplain : HasPlainNames source) {leaf : Leaf} (h : leaf ∈ leavesIn source) :
    segments leaf.path = leaf.names := by
  obtain ⟨name, names, hnames, -⟩ := exists_names_of_mem_leavesIn h
  exact segments_joined (by simp [hnames]) (forall_mem_leavesIn source hplain.1 hplain.2 leaf h)

/-- Different leaves have different paths, for their names are found in these again. -/
theorem nodup_paths (hdistinct : HasDistinctNames source) (hplain : HasPlainNames source) :
    ((leavesIn source).map Leaf.path).Nodup := by
  have hsegments : ((leavesIn source).map Leaf.path).map segments =
      (leavesIn source).map Leaf.names := by
    rw [List.map_map]
    exact List.map_congr_left fun leaf hleaf => segments_path hplain hleaf
  apply List.Nodup.of_map segments
  rw [hsegments]
  exact nodup_names_leavesIn source hdistinct.1 hdistinct.2

theorem flatten_eq_map (hdistinct : HasDistinctNames source) (hplain : HasPlainNames source) :
    flatten source = (leavesIn source).map Leaf.entry := by
  rw [flatten_eq_ofList, Entries.ofList_of_nodup]
  rw [names_entries]
  exact nodup_paths hdistinct hplain

end

theorem insertAt_cons (entries : Entries Value) (name : String) {names : List String}
    (hne : names ≠ []) (value : Value) :
    insertAt entries (name :: names) value =
      entries.put name (.object (insertAt (inner entries name) names value)) := by
  cases names with
  | nil => exact absurd rfl hne
  | cons => rfl

theorem inner_put (entries : Entries Value) (name : String) (below : Entries Value) :
    inner (entries.put name (.object below)) name = below := by
  rw [inner, Entries.find?_put_self]
  rfl

theorem inner_of_not_mem {entries : Entries Value} {name : String} (h : name ∉ entries.names) :
    inner entries name = [] := by
  rw [inner, Entries.find?_eq_none_of_not_mem h]
  rfl

/-- Leaves that all stand under one name are set in the object under this name. -/
theorem foldl_insertLeaf_under (entries : Entries Value) (name : String) {leaf : Leaf}
    {others : List Leaf} (h : ∀ below ∈ leaf :: others, below.names ≠ []) :
    ((leaf :: others).map (Leaf.under name)).foldl insertLeaf entries =
      entries.put name (.object ((leaf :: others).foldl insertLeaf (inner entries name))) := by
  induction others generalizing leaf entries with
  | nil => exact insertAt_cons entries name (h leaf List.mem_cons_self) leaf.value
  | cons next others ih =>
      obtain ⟨hleaf, hothers⟩ := List.forall_mem_cons.mp h
      have hinsert : insertLeaf entries (leaf.under name) =
          entries.put name (.object (insertLeaf (inner entries name) leaf)) :=
        insertAt_cons entries name hleaf leaf.value
      rw [List.map_cons, List.foldl_cons, hinsert, ih _ hothers, inner_put, Entries.put_put]
      rfl

mutual

theorem pruned_eq_empty_iff : ∀ value : Value, pruned value = .object [] ↔ leaves value = []
  | .object entries => by
      rw [pruned, leaves, Value.object.injEq]
      exact prunedIn_eq_nil_iff entries
  | .null | .bool _ | .int _ | .float _ | .str _ | .list _ | .tuple _ | .set _ => by
      simp [pruned, leaves]

theorem prunedIn_eq_nil_iff : ∀ entries : List (String × Value),
    prunedIn entries = [] ↔ leavesIn entries = []
  | [] => by simp [prunedIn, leavesIn]
  | (name, value) :: rest => by
      rw [prunedIn, leavesIn, List.append_eq_nil_iff, List.map_eq_nil_iff,
        ← pruned_eq_empty_iff value, ← prunedIn_eq_nil_iff rest]
      by_cases h : pruned value = .object []
      · rw [if_pos h, and_iff_right h]
      · rw [if_neg h]
        simp [h]

end

/-- What setting the leaves of a value under a new name adds to an object. -/
theorem foldl_insertLeaf_leaves_of_build {entries : Entries Value} {name : String} {value : Value}
    (hname : name ∉ entries.names)
    (hbuild : ∀ inner, value = .object inner →
      (leavesIn inner).foldl insertLeaf [] = prunedIn inner) :
    ((leaves value).map (Leaf.under name)).foldl insertLeaf entries =
      if pruned value = .object [] then entries else entries ++ [(name, pruned value)] := by
  cases value with
  | object below =>
      cases hleaves : leaves (.object below) with
      | nil => rw [if_pos ((pruned_eq_empty_iff _).mpr hleaves)]; rfl
      | cons leaf others =>
          have hnames : ∀ below ∈ leaf :: others, below.names ≠ [] := by
            intro leaf hleaf
            rw [← hleaves] at hleaf
            obtain ⟨name, names, hnames, -⟩ := exists_names_of_mem_leavesIn hleaf
            simp [hnames]
          have hne : pruned (.object below) ≠ .object [] := by
            rw [Ne, pruned_eq_empty_iff, hleaves]
            exact List.cons_ne_nil _ _
          rw [if_neg hne, foldl_insertLeaf_under entries name hnames, inner_of_not_mem hname,
            ← hleaves, leaves, hbuild below rfl, Entries.put_of_not_mem hname, pruned]
  | _ =>
      rw [if_neg (by simp [pruned])]
      exact Entries.put_of_not_mem hname _

mutual

theorem foldl_insertLeaf_below : ∀ value : Value,
    EveryObject (fun entries => entries.names.Nodup) value →
      ∀ entries, value = .object entries → (leavesIn entries).foldl insertLeaf [] = prunedIn entries
  | .object below, h, _, rfl => foldl_insertLeaf_leavesIn below [] h.1 h.2

/-- Setting the leaves of an object one by one builds the object without what has no leaf. -/
theorem foldl_insertLeaf_leavesIn : ∀ (source : List (String × Value)) (entries : Entries Value),
    (entries.names ++ Entries.names source).Nodup →
      EveryObjectIn (fun entries => entries.names.Nodup) source →
      (leavesIn source).foldl insertLeaf entries = entries ++ prunedIn source
  | [], entries, _, _ => by simp [leavesIn, prunedIn]
  | (name, value) :: rest, entries, hnames, h => by
      obtain ⟨hname, hrest⟩ := List.nodup_cons.mp (List.nodup_middle.mp hnames)
      have hnew : name ∉ entries.names := fun hmem => hname (List.mem_append_left _ hmem)
      rw [leavesIn, List.foldl_append,
        foldl_insertLeaf_leaves_of_build hnew (foldl_insertLeaf_below value h.1), prunedIn]
      split_ifs
      · exact foldl_insertLeaf_leavesIn rest entries hrest h.2
      · have hadded : (Entries.names (entries ++ [(name, pruned value)]) ++
            Entries.names rest).Nodup := by
          simpa [Entries.names] using hnames
        rw [foldl_insertLeaf_leavesIn rest _ hadded h.2, List.append_assoc, List.singleton_append]

end

/-- An object can be built from its flattened form, but for the objects in it that have no leaf. -/
theorem rebuilt_flatten {source : Entries Value} (hdistinct : HasDistinctNames source)
    (hplain : HasPlainNames source) : rebuilt (flatten source) = prunedIn source := by
  have hinsert : ∀ leaf ∈ leavesIn source, ∀ entries : Entries Value,
      insertAt entries (segments leaf.path) leaf.value = insertLeaf entries leaf := by
    intro leaf hleaf entries
    rw [segments_path hplain hleaf, insertLeaf]
  calc
    rebuilt (flatten source)
      = (leavesIn source).foldl
          (fun entries leaf => insertAt entries (segments leaf.path) leaf.value) [] := by
        rw [rebuilt, flatten_eq_map hdistinct hplain, List.foldl_map]
        rfl
    _ = (leavesIn source).foldl insertLeaf [] := by
        apply List.foldl_ext
        intro entries leaf hleaf
        exact hinsert leaf hleaf entries
    _ = prunedIn source := by
        have hnames : (Entries.names ([] : Entries Value) ++ Entries.names source).Nodup := hdistinct.1
        exact foldl_insertLeaf_leavesIn source [] hnames hdistinct.2

theorem flatten_lossless (source : Entries Value) : FlattensLosslessly source where
  merged := flatten_eq_foldl source separator ""
  names _ := mem_names_flatten_iff
  distinct := Entries.nodup_names_putAll (show (Entries.names ([] : Entries Value)).Nodup from .nil) _
  values := find?_flatten source
  paths := nodup_paths
  entries := flatten_eq_map
  rebuilt := rebuilt_flatten

/-- A book with its author and an empty note. -/
def bookSource : Entries Value :=
  [("title", .str "Emma"), ("note", .object []),
    ("author", .object [("name", .object [("first", .str "Jane")]), ("_born", .int 1775)])]

theorem bookSource_flattened :
    HasDistinctNames bookSource ∧ HasPlainNames bookSource ∧
      flatten bookSource =
        [("title", .str "Emma"), ("author__name__first", .str "Jane"),
          ("author___born", .int 1775)] ∧
      rebuilt (flatten bookSource) =
        [("title", .str "Emma"),
          ("author", .object [("name", .object [("first", .str "Jane")]), ("_born", .int 1775)])] := by
  have hdistinct : HasDistinctNames bookSource := by
    simp only [HasDistinctNames, EveryObject, EveryObjectIn, bookSource]
    decide
  have hplain : HasPlainNames bookSource := by
    simp only [HasPlainNames, EveryObject, EveryObjectIn, bookSource]
    decide +kernel
  have hlossless := flatten_lossless bookSource
  exact ⟨hdistinct, hplain, hlossless.entries hdistinct hplain, hlossless.rebuilt hdistinct hplain⟩

end FacetedSearch.FieldPath
