import FacetedSearch.Proofs.Compile

/-!
Queries in random order. A sort by chance takes the seed of the query, or draws one of its own where
that is none or zero, and the last one that is drawn is the seed of the request. So a given seed
other than zero makes the order of a query one and the same in all requests, and zero does not.
-/

namespace FacetedSearch.Lowering

variable {setting : Setting} {drawn : Value} {query : SearchQuery}

/-- The seeds that can be drawn. -/
abbrev DrawnSeed := { seed : Int // 1 ≤ seed ∧ seed ≤ 2147483647 }

/-- A seed as the value that is drawn. -/
def DrawnSeed.value (seed : DrawnSeed) : Value := .int seed.val

/-- The sorts from a place on, where a sort by chance draws what there is to draw at its place. -/
def lowerSortsFrom (setting : Setting) (draws : Nat → Value) (query : SearchQuery) :
    Nat → List SortSpec → SortParts → Outcome SortParts
  | _, [], parts => .ok parts
  | place, spec :: rest, parts => do
    let next ← lowerSort setting (draws place) query parts spec
    lowerSortsFrom setting draws query (place + 1) rest next

/-- Sorts by chance are among the sorts. -/
def HasRandom (sorts : List SortSpec) : Prop := ∃ spec ∈ sorts, spec.field = "$random"

instance (sorts : List SortSpec) : Decidable (HasRandom sorts) :=
  inferInstanceAs (Decidable (∃ spec ∈ sorts, spec.field = "$random"))

theorem hasRandom_cons {spec : SortSpec} {rest : List SortSpec} :
    HasRandom (spec :: rest) ↔ spec.field = "$random" ∨ HasRandom rest := by
  simp [HasRandom]

/-- What is drawn last by the sorts from a place on. -/
def lastDrawn (draws : Nat → Value) : Nat → List SortSpec → Value
  | place, [] => draws place
  | place, _ :: rest => if HasRandom rest then lastDrawn draws (place + 1) rest else draws place

/-- A sort by chance gives the seed. -/
theorem lowerSort_of_random {spec : SortSpec} (hspec : spec.field = "$random") (parts : SortParts) :
    lowerSort setting drawn query parts spec = do
      return { parts with seed := some (← randomSeed setting.hooks drawn query.randomSeed) } := by
  rw [lowerSort, sortKey_eq_random_iff.mpr hspec]
  rfl

/-- Any other sort is added, whatever the seed is and whatever is drawn. -/
theorem lowerSort_of_named {spec : SortSpec} (hspec : spec.field ≠ "$random") (drawn' : Value)
    (parts : SortParts) (seed : Option Value) :
    lowerSort setting drawn query { parts with seed } spec = do
      return { ← lowerSort setting drawn' query parts spec with seed } := by
  unfold lowerSort
  cases hkey : sortKey setting.catalog spec with
  | error fault => rfl
  | ok key =>
      cases key with
      | random => exact absurd (sortKey_eq_random_iff.mp hkey) hspec
      | field name direction => rfl

/-- The seed at the beginning is lost where there are sorts by chance. -/
theorem foldlM_lowerSort_seed {sorts : List SortSpec} (hrandom : HasRandom sorts)
    (parts : SortParts) (seed seed' : Option Value) :
    sorts.foldlM (lowerSort setting drawn query) { parts with seed } =
      sorts.foldlM (lowerSort setting drawn query) { parts with seed := seed' } := by
  induction sorts generalizing parts with
  | nil => simp [HasRandom] at hrandom
  | cons spec rest ih =>
      rw [List.foldlM_cons, List.foldlM_cons]
      by_cases hspec : spec.field = "$random"
      · rw [lowerSort_of_random hspec, lowerSort_of_random hspec]
      · have hrest : HasRandom rest := (hasRandom_cons.mp hrandom).resolve_left hspec
        rw [lowerSort_of_named hspec drawn parts seed, lowerSort_of_named hspec drawn parts seed']
        simp only [bind_assoc, pure_bind]
        exact bind_congr fun next => ih hrest next

/-- The seed of the last sort by chance is the seed of the query: the sorts that each draw one of
their own are lowered like sorts that all draw that one. -/
theorem lowerSortsFrom_eq (hhooks : setting.hooks = {}) (draws : Nat → Value)
    (sorts : List SortSpec) (place : Nat) (parts : SortParts) :
    lowerSortsFrom setting draws query place sorts parts =
      sorts.foldlM (lowerSort setting (lastDrawn draws place sorts) query) parts := by
  induction sorts generalizing place parts with
  | nil => rfl
  | cons spec rest ih =>
      rw [lowerSortsFrom, List.foldlM_cons, lastDrawn]
      by_cases hrest : HasRandom rest
      · rw [if_pos hrest]
        by_cases hspec : spec.field = "$random"
        · -- what is drawn here is lost to a later sort by chance
          rw [lowerSort_of_random hspec, lowerSort_of_random hspec, hhooks]
          simp only [randomSeed_default, Outcome.bind_ok, Outcome.pure_eq, ih]
          exact foldlM_lowerSort_seed hrest parts _ _
        · rw [lowerSort_drawn hhooks (.inl hspec) (lastDrawn draws (place + 1) rest)]
          exact bind_congr fun next => ih (place + 1) next
      · rw [if_neg hrest]
        refine bind_congr fun next => ?_
        have hfixed : ∀ spec ∈ rest, spec.field ≠ "$random" ∨
            ∃ seed, query.randomSeed = some seed ∧ seed ≠ 0 :=
          fun spec hspec => .inl fun hfield => hrest ⟨spec, hspec, hfield⟩
        rw [ih, foldlM_lowerSort_drawn hhooks hfixed]

/-- A query is sorted by chance where a sort of it is; a query for completions never is. -/
def SortedByChance (query : SearchQuery) : Prop :=
  query.autocomplete = none ∧ HasRandom query.sorts

/-- Something is drawn last at one of the places. -/
theorem exists_lastDrawn (draws : Nat → Value) (sorts : List SortSpec) (place : Nat) :
    ∃ last, lastDrawn draws place sorts = draws last := by
  induction sorts generalizing place with
  | nil => exact ⟨place, rfl⟩
  | cons spec rest ih =>
      rw [lastDrawn]
      split_ifs
      · exact ih (place + 1)
      · exact ⟨place, rfl⟩

/-- The request of a query, where each sort by chance draws what there is to draw at its place. -/
def compileDrawing (setting : Setting) (draws : Nat → DrawnSeed) (query : SearchQuery) :
    Outcome SearchRequest :=
  compile setting (lastDrawn (fun place => (draws place).value) 0 query.sorts) query

/-- To draw once what is drawn last is to draw at every place. -/
theorem lowerSorts_lastDrawn (hhooks : setting.hooks = {})
    (hautocomplete : query.autocomplete = none) (draws : Nat → Value) :
    lowerSorts setting (lastDrawn draws 0 query.sorts) query =
      lowerSortsFrom setting draws query 0 query.sorts {} := by
  rw [lowerSortsFrom_eq hhooks, lowerSorts, hautocomplete]

theorem seed_of_random {sorts : List SortSpec} {seed : Value} {start result : SortParts}
    (hseed : randomSeed setting.hooks drawn query.randomSeed = .ok seed)
    (hrandom : HasRandom sorts)
    (h : sorts.foldlM (lowerSort setting drawn query) start = .ok result) :
    result.seed = some seed := by
  induction sorts generalizing start with
  | nil => simp [HasRandom] at hrandom
  | cons spec rest ih =>
      rw [List.foldlM_cons] at h
      obtain ⟨next, hnext, h⟩ := Outcome.bind_eq_ok.mp h
      by_cases hrest : HasRandom rest
      · exact ih hrest h
      · have hspec := (hasRandom_cons.mp hrandom).resolve_right hrest
        rw [lowerSort_of_random hspec, hseed] at hnext
        cases hnext
        exact seed_of_foldlM (fun spec hspec hfield => hrest ⟨spec, hspec, hfield⟩) h

/-- The seed in the request of a query that is sorted by chance. -/
theorem path_seed (hhooks : setting.hooks = {}) {request : SearchRequest}
    (hsorted : SortedByChance query) (h : compile setting drawn query = .ok request) :
    request.query.path ["function_score", "random_score", "seed"] =
      (Value.nullable .int query.randomSeed).orElse drawn := by
  obtain ⟨parts, hparts, hrequest⟩ := (compile_eq_ok_iff hhooks).mp h
  have hsorts := hparts.sorts
  rw [lowerSorts, hsorted.1] at hsorts
  have hdrawn : randomSeed setting.hooks drawn query.randomSeed =
      .ok ((Value.nullable .int query.randomSeed).orElse drawn) := by
    rw [hhooks, randomSeed_default]
  have hseed := seed_of_random hdrawn hsorted.2 hsorts
  obtain ⟨_, -, rfl⟩ := toRequest_eq_ok_iff.mp hrequest
  simp only [CompiledQuery.renderRoot, QueryParts.assemble, hseed]
  simp [Value.path, Value.member, Entries.find?]

/-- A query for completions is not sorted by chance, and nothing is drawn for it. -/
theorem compile_drawn_of_fixed (hhooks : setting.hooks = {}) (hfixed : ¬SortedByChance query)
    (drawn' : Value) : compile setting drawn query = compile setting drawn' query := by
  rcases Option.eq_none_or_eq_some query.autocomplete with hnone | ⟨request, hsome⟩
  · refine compile_drawn hhooks (.inl fun spec hspec hfield => ?_) drawn'
    exact hfixed ⟨hnone, spec, hspec, hfield⟩
  · rw [compile, compile, compileQuery, compileQuery, lowerSorts, lowerSorts, hsome]

theorem compileDrawing_eq {seed : Int} (hhooks : setting.hooks = {})
    (hseed : query.randomSeed = some seed) (hnonzero : SortedByChance query → seed ≠ 0)
    (draws draws' : Nat → DrawnSeed) :
    compileDrawing setting draws query = compileDrawing setting draws' query := by
  by_cases hsorted : SortedByChance query
  · exact compile_drawn hhooks (.inr ⟨seed, hseed, hnonzero hsorted⟩) _
  · exact compile_drawn_of_fixed hhooks hsorted _

/-- With zero as its seed a query has a seed that was drawn. -/
theorem path_seed_of_zero (hhooks : setting.hooks = {}) (hseed : query.randomSeed = some 0)
    (hsorted : SortedByChance query) {draws : Nat → DrawnSeed} {request : SearchRequest}
    (h : compileDrawing setting draws query = .ok request) :
    ∃ place, request.query.path ["function_score", "random_score", "seed"] =
      (draws place).value := by
  obtain ⟨place, hplace⟩ := exists_lastDrawn (fun place => (draws place).value) query.sorts 0
  refine ⟨place, ?_⟩
  rw [path_seed hhooks hsorted h, hseed, hplace]
  rfl

/-- A given seed makes the order of a query reproducible, and it is the seed that is written,
exactly where it is not zero or nothing is sorted by chance. -/
theorem seed_reproducible_iff {seed : Int} (hhooks : setting.hooks = {})
    (hseed : query.randomSeed = some seed)
    (hcompiles : ∃ draws request, compileDrawing setting draws query = .ok request) :
    ((∀ draws draws', compileDrawing setting draws query = compileDrawing setting draws' query) ↔
      (SortedByChance query → seed ≠ 0)) ∧
    ((∀ draws request, compileDrawing setting draws query = .ok request → SortedByChance query →
        request.query.path ["function_score", "random_score", "seed"] = .int seed) ↔
      (SortedByChance query → seed ≠ 0)) := by
  obtain ⟨draws, request, hrequest⟩ := hcompiles
  refine ⟨⟨?_, compileDrawing_eq hhooks hseed⟩, ⟨?_, ?_⟩⟩
  · -- of two requests for zero, one has the seed one and the other the seed two
    rintro hequal hsorted rfl
    have hone := (hequal (fun _ => ⟨1, by decide⟩) draws).trans hrequest
    have htwo := (hequal (fun _ => ⟨2, by decide⟩) draws).trans hrequest
    obtain ⟨_, hpath⟩ := path_seed_of_zero hhooks hseed hsorted hone
    obtain ⟨_, hpath'⟩ := path_seed_of_zero hhooks hseed hsorted htwo
    exact absurd (hpath.symm.trans hpath') (by decide)
  · rintro hwritten hsorted rfl
    obtain ⟨place, hpath⟩ := path_seed_of_zero hhooks hseed hsorted hrequest
    have hzero := hpath.symm.trans (hwritten draws request hrequest hsorted)
    have hpositive := (draws place).property.1
    rw [Value.int.inj hzero] at hpositive
    exact absurd hpositive (by decide)
  · intro hnonzero draws request hrequest hsorted
    rw [path_seed hhooks hsorted hrequest, hseed]
    have htruthy : (Value.int seed).isTruthy = true := by simp [Value.isTruthy, hnonzero hsorted]
    rw [Value.nullable, Value.orElse, htruthy]
    rfl

/-- Two sorts by chance with a sort by score between them. -/
def shuffled (seed : Int) : SearchQuery where
  randomSeed := some seed
  sorts := [{ field := "$random" }, { field := "$score" }, { field := "$random" }]

theorem shuffled_isSorted (seed : Int) : SortedByChance (shuffled seed) :=
  ⟨rfl, _, List.mem_cons_self, rfl⟩

/-- A negative seed is as good as any other. -/
theorem shuffled_reproducible :
    (∃ draws request, compileDrawing { collection := .null, catalog := {} } draws (shuffled (-7)) =
      .ok request) ∧
    (∀ draws draws', compileDrawing { collection := .null, catalog := {} } draws (shuffled (-7)) =
      compileDrawing { collection := .null, catalog := {} } draws' (shuffled (-7))) ∧
    ∀ draws request,
      compileDrawing { collection := .null, catalog := {} } draws (shuffled (-7)) = .ok request →
      request.query.path ["function_score", "random_score", "seed"] = .int (-7) := by
  have hcompiles : ∃ draws request,
      compileDrawing { collection := .null, catalog := {} } draws (shuffled (-7)) = .ok request :=
    ⟨fun _ => ⟨1, by decide⟩, _, rfl⟩
  have hnonzero : SortedByChance (shuffled (-7)) → (-7 : Int) ≠ 0 := fun _ => by decide
  obtain ⟨hequal, hwritten⟩ := seed_reproducible_iff rfl rfl hcompiles
  refine ⟨hcompiles, hequal.mpr hnonzero, ?_⟩
  intro draws request hrequest
  exact hwritten.mpr hnonzero draws request hrequest (shuffled_isSorted (-7))

/-- Zero is taken for no seed: two requests of one query have the seeds that were drawn. -/
theorem zeroSeed_not_reproducible :
    ∃ request request',
      compileDrawing { collection := .null, catalog := {} } (fun _ => ⟨1, by decide⟩) (shuffled 0) =
        .ok request ∧
      compileDrawing { collection := .null, catalog := {} } (fun _ => ⟨2, by decide⟩) (shuffled 0) =
        .ok request' ∧
      request.query.path ["function_score", "random_score", "seed"] = .int 1 ∧
      request'.query.path ["function_score", "random_score", "seed"] = .int 2 :=
  ⟨_, _, rfl, rfl, rfl, rfl⟩

end FacetedSearch.Lowering
