import FacetedSearch.Query.Facet
import FacetedSearch.Query.Search

/-!
Reading back. What a reader makes of a value it makes again of the document of what it made: one
reading settles a field, whatever form it was given in. Readers of lists, dictionaries and optional
values settle what the readers of their elements settle, and a record is read back from its document
where each of its fields is.
-/

namespace FacetedSearch

namespace Decode

variable {α : Type} {decode : Decoder α} {encode : α → Value}

/-- The document of a value is read as this value. -/
abbrev ReadsBack (decode : Decoder α) (encode : α → Value) (a : α) : Prop :=
  decode (encode a) = some a

/-- All that is read is read back. -/
def Settles (decode : Decoder α) (encode : α → Value) : Prop :=
  ∀ value a, decode value = some a → ReadsBack decode encode a

/-- A reader that reads every document back settles. -/
theorem Settles.of_forall (h : ∀ a, ReadsBack decode encode a) : Settles decode encode :=
  fun _ a _ => h a

theorem text_readsBack (text : String) : ReadsBack Decode.text .str text := rfl

theorem whole_readsBack (i : Int) : ReadsBack whole .int i := rfl

theorem flag_readsBack (b : Bool) : ReadsBack flag .bool b := rfl

theorem anything_readsBack (value : Value) : ReadsBack anything id value := rfl

theorem optional_of_ne_null {value : Value} (h : value ≠ .null) :
    optional decode value = (decode value).map some := by
  cases value with
  | null => exact absurd rfl h
  | _ => rfl

theorem Settles.optional (h : Settles decode encode) (hnull : ∀ a, encode a ≠ .null) :
    Settles (optional decode) (Value.nullable encode) := by
  intro value result hread
  cases result with
  | none => rfl
  | some a =>
      have hvalue : value ≠ .null := by
        rintro rfl
        cases hread
      rw [optional_of_ne_null hvalue] at hread
      obtain ⟨_, ha, hsome⟩ := Option.map_eq_some_iff.mp hread
      cases hsome
      rw [ReadsBack, Value.nullable, optional_of_ne_null (hnull a), h value a ha, Option.map_some]

theorem mapM_readsBack {results : List α} (h : ∀ a ∈ results, ReadsBack decode encode a) :
    (results.map encode).mapM decode = some results := by
  induction results with
  | nil => rfl
  | cons a rest ih =>
      obtain ⟨ha, hrest⟩ := List.forall_mem_cons.mp h
      rw [List.map_cons, List.mapM_cons, ha, ih hrest]
      rfl

theorem readsBack_of_mapM (h : Settles decode encode) {values : List Value} {results : List α}
    (hread : values.mapM decode = some results) : ∀ a ∈ results, ReadsBack decode encode a := by
  induction values generalizing results with
  | nil =>
      cases hread
      simp
  | cons value rest ih =>
      rw [List.mapM_cons] at hread
      obtain ⟨a, ha, hread⟩ := Option.bind_eq_some_iff.mp hread
      obtain ⟨others, hothers, hread⟩ := Option.bind_eq_some_iff.mp hread
      cases hread
      exact List.forall_mem_cons.mpr ⟨h value a ha, ih hothers⟩

theorem Settles.items (h : Settles decode encode) :
    Settles (items decode) fun results => .list (results.map encode) := by
  intro value results hread
  obtain ⟨values, -, hread⟩ := Option.bind_eq_some_iff.mp hread
  exact mapM_readsBack (readsBack_of_mapM h hread)

theorem entriesOf_readsBack {results : Entries α}
    (h : ∀ entry ∈ results, ReadsBack decode encode entry.2) :
    entriesOf decode (results.mapValues encode) = some results := by
  induction results with
  | nil => rfl
  | cons entry rest ih =>
      obtain ⟨name, a⟩ := entry
      obtain ⟨ha, hrest⟩ := List.forall_mem_cons.mp h
      have hothers : entriesOf decode (rest.map fun entry => (entry.1, encode entry.2)) =
          some rest := ih hrest
      simp [Entries.mapValues, entriesOf, ha, hothers]

theorem readsBack_of_entriesOf (h : Settles decode encode) {entries : List (String × Value)}
    {results : Entries α} (hread : entriesOf decode entries = some results) :
    ∀ entry ∈ results, ReadsBack decode encode entry.2 := by
  induction entries generalizing results with
  | nil =>
      cases hread
      simp
  | cons entry rest ih =>
      obtain ⟨name, value⟩ := entry
      obtain ⟨a, ha, hread⟩ := Option.bind_eq_some_iff.mp hread
      obtain ⟨others, hothers, hread⟩ := Option.bind_eq_some_iff.mp hread
      cases hread
      exact List.forall_mem_cons.mpr ⟨h value a ha, ih hothers⟩

theorem Settles.dictionary (h : Settles decode encode) :
    Settles (dictionary decode) fun results => .object (results.mapValues encode) := by
  intro value results hread
  obtain ⟨entries, -, hread⟩ := Option.bind_eq_some_iff.mp hread
  exact entriesOf_readsBack (readsBack_of_entriesOf h hread)

theorem Settles.required (h : Settles decode encode) {entries : Entries Value} {name : String}
    {a : α} (hread : required entries name decode = some a) : ReadsBack decode encode a := by
  obtain ⟨value, -, hread⟩ := Option.bind_eq_some_iff.mp hread
  exact h value a hread

theorem Settles.defaulted (h : Settles decode encode) {entries : Entries Value} {name : String}
    {default a : α} (hdefault : ReadsBack decode encode default)
    (hread : defaulted entries name default decode = some a) : ReadsBack decode encode a := by
  unfold Decode.defaulted at hread
  cases hfind : entries.find? name with
  | none =>
      rw [hfind] at hread
      cases hread
      exact hdefault
  | some value =>
      rw [hfind] at hread
      exact h value a hread

end Decode

end FacetedSearch
