import FacetedSearch.Proofs.Compile
import FacetedSearch.Store.Provider

/-!
The settings that a provider keeps, one for each collection that it has met. Each of them is what
the parameters of the provider give for its collection. A call preserves this whatever becomes of
it, and so does a run of calls; to compile with what is kept is therefore to compile afresh.
-/

namespace FacetedSearch

namespace Value

theorem str_sameKey_iff {text : String} {value : Value} :
    (Value.str text).sameKey value = true ↔ value = .str text := by
  cases value with
  | str other =>
      rw [sameKey, beq_iff_eq, str.injEq]
      exact eq_comm
  | _ => simp [sameKey, whole?]

theorem sameKey_str_iff {text : String} {value : Value} :
    value.sameKey (.str text) = true ↔ value = .str text := by
  cases value <;> simp [sameKey, whole?]

end Value

/-- A call with a query, for a collection that is named in the call or not. -/
structure NamedCall where
  query : Argument
  collection : Option String := none
  named : Entries Argument := []

namespace NamedCall

def toQueryCall (call : NamedCall) : SearchProvider.QueryCall where
  query := call.query
  collection := Value.nullable .str call.collection
  named := call.named

/-- What is given as a query is ordered without a drawn seed, unless it is no query at all. -/
def DrawsNoSeed (call : NamedCall) : Prop :=
  ∀ query, givenQuery call.query = .ok (some query) → Lowering.DrawsNoSeed query

end NamedCall

/-- A call on a provider, with the seed that is drawn and the reply of the client meanwhile. -/
inductive ProviderCall where
  | compile (drawn : Value) (call : NamedCall)
  | query (kind : ClientKind) (drawn : Value) (reply : ClientReply) (call : NamedCall)
  | close (kind : ClientKind)

namespace SearchProvider

section

variable (provider : SearchProvider) (component : Value)

def perform (state : ProviderState) : ProviderCall → Step StoreResponse
  | .compile drawn call =>
    provider.compile { collection := component, drawn } call.toQueryCall state
  | .query kind drawn reply call =>
    provider.query { collection := component, drawn } kind call.toQueryCall reply state
  | .close kind => close kind state

/-- The state after a run of calls. -/
def performAll (state : ProviderState) (calls : List ProviderCall) : ProviderState :=
  calls.foldl (fun state call => (provider.perform component state call).state) state

/-- The names of collections: texts, and what the provider and its component fall back on. -/
def IsName (name : Value) : Prop :=
  (∃ text, name = .str text) ∨ name = provider.index.orElse component

/-- Every setting that is kept is what the parameters give for its collection. -/
def Keeps (state : ProviderState) : Prop :=
  ∀ setting ∈ state.settings,
    provider.IsName component setting.collection ∧
      provider.buildSetting setting.collection = .ok setting

end

variable {provider : SearchProvider} {component name drawn : Value} {state after : ProviderState}
  {setting : Lowering.Setting}

/-- Names that are one key are the same. -/
theorem eq_of_sameKey {other : Value} (hname : provider.IsName component name)
    (hother : provider.IsName component other) (h : name.sameKey other = true) : name = other := by
  rcases hname with ⟨text, rfl⟩ | rfl
  · exact (Value.str_sameKey_iff.mp h).symm
  · rcases hother with ⟨text, rfl⟩ | rfl
    · exact Value.sameKey_str_iff.mp h
    · rfl

theorem isName_of_collectionName {collection : Option String} {query : GivenQuery}
    (h : provider.collectionName component (Value.nullable .str collection) query = .ok name) :
    provider.IsName component name := by
  have hgiven : ∃ given : Option String,
      name = ((Value.nullable .str given).orElse provider.index).orElse component := by
    simp only [collectionName] at h
    split at h
    · simp only [pure_bind] at h
      split_ifs at h
      exact ⟨collection, (Outcome.pure_eq_ok.mp h).symm⟩
    · cases query with
      | none => cases h
      | some query =>
          simp only [pure_bind] at h
          split_ifs at h
          exact ⟨query.collection, (Outcome.pure_eq_ok.mp h).symm⟩
  obtain ⟨given, rfl⟩ := hgiven
  cases given with
  | none => exact .inr rfl
  | some text =>
      by_cases htext : (Value.str text).isTruthy = true
      · exact .inl ⟨text, by simp [Value.nullable, Value.orElse, htext]⟩
      · exact .inr (by simp [Value.nullable, Value.orElse, htext])

theorem buildSetting_eq_ok (h : provider.buildSetting name = .ok setting) :
    setting.collection = name ∧ setting.hooks = provider.hooks := by
  obtain ⟨source, -, h⟩ := Outcome.bind_eq_ok.mp h
  obtain ⟨catalog, -, h⟩ := Outcome.bind_eq_ok.mp h
  obtain ⟨field, -, h⟩ := Outcome.bind_eq_ok.mp h
  obtain rfl := Outcome.pure_eq_ok.mp h
  exact ⟨rfl, rfl⟩

theorem keeps_empty : provider.Keeps component {} := by
  intro setting hsetting
  cases hsetting

theorem Keeps.setting? (hkeeps : provider.Keeps component state)
    (hname : provider.IsName component name) (h : state.setting? name = some setting) :
    setting.collection = name ∧ provider.buildSetting name = .ok setting := by
  obtain ⟨hcollection, hbuilt⟩ := hkeeps setting (List.mem_of_find?_eq_some h)
  have heq := eq_of_sameKey hcollection hname (by simpa using List.find?_some h)
  exact ⟨heq, heq ▸ hbuilt⟩

/-- A setting is one that is kept, or it is built and then kept. -/
theorem settingOf_cases (h : provider.settingOf state name = .ok (setting, after)) :
    (state.setting? name = some setting ∧ after = state) ∨
      (provider.buildSetting name = .ok setting ∧
        after = { state with settings := state.settings ++ [setting] }) := by
  unfold SearchProvider.settingOf at h
  split_ifs at h
  · cases h
  · cases hkept : state.setting? name with
    | some kept =>
        rw [hkept] at h
        cases h
        exact .inl ⟨rfl, rfl⟩
    | none =>
        rw [hkept] at h
        obtain ⟨built, hbuilt, h⟩ := Outcome.bind_eq_ok.mp h
        cases h
        exact .inr ⟨hbuilt, rfl⟩

theorem Keeps.settingOf (hkeeps : provider.Keeps component state)
    (hname : provider.IsName component name)
    (h : provider.settingOf state name = .ok (setting, after)) :
    provider.Keeps component after := by
  rcases settingOf_cases h with ⟨-, rfl⟩ | ⟨hbuilt, rfl⟩
  · exact hkeeps
  · intro other hother
    rcases List.mem_append.mp hother with hother | hother
    · exact hkeeps other hother
    · obtain rfl := List.mem_singleton.mp hother
      rw [(buildSetting_eq_ok hbuilt).1]
      exact ⟨hname, hbuilt⟩

/-- The setting of a collection is the same whatever is kept. -/
theorem settingOf_map_fst (hkeeps : provider.Keeps component state)
    (hname : provider.IsName component name) :
    (provider.settingOf state name).map Prod.fst = (provider.settingOf {} name).map Prod.fst := by
  unfold SearchProvider.settingOf
  split_ifs
  · rfl
  · have hfresh : ({} : ProviderState).setting? name = none := rfl
    rw [hfresh]
    cases hkept : state.setting? name with
    | none => cases provider.buildSetting name <;> rfl
    | some kept =>
        rw [(hkeeps.setting? hname hkept).2]
        rfl

/-- What is compiled depends on the state only through the setting of the collection. -/
theorem prepare_outcome (context : CallContext) (call : QueryCall) (state : ProviderState) :
    (provider.prepare context call state).outcome = (do
      let given ← givenQuery call.query
      let query ← alterGiven provider.hooks given
      let name ← provider.collectionName context.collection call.collection query
      let setting ← (provider.settingOf state name).map Prod.fst
      compileGiven setting context.drawn query) := by
  unfold prepare
  cases givenQuery call.query with
  | error fault => rfl
  | ok given =>
      simp only [Outcome.bind_ok]
      cases alterGiven provider.hooks given with
      | error fault => rfl
      | ok query =>
          simp only [Outcome.bind_ok]
          cases provider.collectionName context.collection call.collection query with
          | error fault => rfl
          | ok name =>
              simp only [Outcome.bind_ok]
              cases provider.settingOf state name with
              | error fault => rfl
              | ok found => rfl

theorem alterGiven_default (given : GivenQuery) : alterGiven {} given = .ok given := by
  cases given <;> rfl

/-- Preparing a call gives the same whatever is kept. -/
theorem prepare_outcome_eq_fresh (hkeeps : provider.Keeps component state) (drawn : Value)
    (call : NamedCall) :
    (provider.prepare { collection := component, drawn } call.toQueryCall state).outcome =
      (provider.prepare { collection := component, drawn } call.toQueryCall {}).outcome := by
  rw [prepare_outcome, prepare_outcome]
  refine bind_congr fun given => bind_congr fun query => ?_
  cases hname : provider.collectionName component call.toQueryCall.collection query with
  | error fault => rw [Outcome.bind_error, Outcome.bind_error]
  | ok name =>
      rw [Outcome.bind_ok, Outcome.bind_ok,
        settingOf_map_fst hkeeps (isName_of_collectionName hname)]

theorem hooks_settingOf (hhooks : provider.hooks = {})
    (hcached : ∀ setting ∈ state.settings, setting.hooks = {})
    (h : provider.settingOf state name = .ok (setting, after)) : setting.hooks = {} := by
  rcases settingOf_cases h with ⟨hkept, -⟩ | ⟨hbuilt, -⟩
  · exact hcached setting (List.mem_of_find?_eq_some hkept)
  · exact (buildSetting_eq_ok hbuilt).2.trans hhooks

/-- Preparing a call whose query draws no seed gives the same whatever is drawn. -/
theorem prepare_outcome_drawn (hhooks : provider.hooks = {})
    (hcached : ∀ setting ∈ state.settings, setting.hooks = {}) {call : QueryCall}
    (hseed : ∀ query, givenQuery call.query = .ok (some query) → Lowering.DrawsNoSeed query)
    (drawn drawn' : Value) :
    (provider.prepare { collection := component, drawn } call state).outcome =
      (provider.prepare { collection := component, drawn := drawn' } call state).outcome := by
  rw [prepare_outcome, prepare_outcome, hhooks]
  cases hgiven : givenQuery call.query with
  | error fault => rw [Outcome.bind_error, Outcome.bind_error]
  | ok given =>
      simp only [Outcome.bind_ok, alterGiven_default]
      refine bind_congr fun name => ?_
      cases hsetting : provider.settingOf state name with
      | error fault => simp only [Except.map, Outcome.bind_error]
      | ok found =>
          cases given with
          | none => simp only [Except.map, Outcome.bind_ok, compileGiven]
          | some query =>
              simp only [Except.map, Outcome.bind_ok, compileGiven]
              rw [Lowering.compile_drawn (hooks_settingOf hhooks hcached hsetting)
                (hseed query hgiven) drawn']

/-- Preparing a call does nothing with clients, and it may add the setting of a collection. -/
theorem prepare_cases (context : CallContext) (call : QueryCall) (state : ProviderState) :
    (provider.prepare context call state).events = [] ∧
      ((provider.prepare context call state).state = state ∨
        ∃ query name setting after,
          provider.collectionName context.collection call.collection query = .ok name ∧
          provider.settingOf state name = .ok (setting, after) ∧
          (provider.prepare context call state).state = after) := by
  unfold SearchProvider.prepare
  cases givenQuery call.query with
  | error fault => exact ⟨rfl, .inl rfl⟩
  | ok given =>
      dsimp only
      cases alterGiven provider.hooks given with
      | error fault => exact ⟨rfl, .inl rfl⟩
      | ok query =>
          dsimp only
          cases hname : provider.collectionName context.collection call.collection query with
          | error fault => exact ⟨rfl, .inl rfl⟩
          | ok name =>
              rw [Outcome.bind_ok]
              cases hsetting : provider.settingOf state name with
              | error fault => exact ⟨rfl, .inl rfl⟩
              | ok found =>
                  exact ⟨rfl, .inr ⟨query, name, found.1, found.2, hname, hsetting, rfl⟩⟩

/-- A call that is prepared leaves only settings behind that the parameters give. -/
theorem Keeps.prepare (hkeeps : provider.Keeps component state) (drawn : Value) (call : NamedCall) :
    provider.Keeps component
      (provider.prepare { collection := component, drawn } call.toQueryCall state).state := by
  obtain ⟨-, hstate | ⟨query, name, setting, after, hname, hsetting, hstate⟩⟩ :=
    @prepare_cases provider { collection := component, drawn } call.toQueryCall state
  · rwa [hstate]
  · rw [hstate]
    exact hkeeps.settingOf (isName_of_collectionName hname) hsetting

-- The rest of a query and closing work on clients alone.

theorem settings_setOpen (state : ProviderState) (kind : ClientKind) (flag : Bool) :
    (state.setOpen kind flag).settings = state.settings := by
  cases kind <;> rfl

theorem settings_openClient (kind : ClientKind) (state : ProviderState) :
    (provider.openClient kind state).state.settings = state.settings := by
  unfold openClient
  split
  · rfl
  · split
    · rfl
    · exact settings_setOpen state kind true

theorem state_send (kind : ClientKind) (reply : ClientReply) (prepared : Prepared)
    (pairs : List (Value × Value)) (state : ProviderState) :
    (send kind reply prepared pairs state).state = state := by
  unfold send
  split <;> rfl

theorem settings_close (kind : ClientKind) (state : ProviderState) :
    (close kind state).state.settings = state.settings := by
  unfold close
  split
  · exact settings_setOpen state kind false
  · rfl

/-- The settings that are kept are no matter of clients. -/
theorem settings_query (context : CallContext) (kind : ClientKind) (call : QueryCall)
    (reply : ClientReply) (state : ProviderState) :
    (provider.query context kind call reply state).state.settings =
      (provider.prepare context call state).state.settings := by
  unfold query
  dsimp only
  split
  · rfl
  · split
    · rfl
    · rw [state_send, settings_openClient]

/-- Any call preserves that what is kept is what the parameters give, whatever becomes of it. -/
theorem Keeps.perform (hkeeps : provider.Keeps component state) (call : ProviderCall) :
    provider.Keeps component (provider.perform component state call).state := by
  cases call with
  | compile drawn call => exact hkeeps.prepare drawn call
  | query kind drawn reply call =>
      intro setting hsetting
      rw [SearchProvider.perform, settings_query] at hsetting
      exact hkeeps.prepare drawn call setting hsetting
  | close kind =>
      intro setting hsetting
      rw [SearchProvider.perform, settings_close] at hsetting
      exact hkeeps setting hsetting

/-- So does a run of any length, by induction on its calls. -/
theorem Keeps.performAll (hkeeps : provider.Keeps component state) (calls : List ProviderCall) :
    provider.Keeps component (provider.performAll component state calls) := by
  induction calls generalizing state with
  | nil => exact hkeeps
  | cons call rest ih => exact ih (hkeeps.perform call)

theorem compile_eq_fresh (hhooks : provider.hooks = {}) (hkeeps : provider.Keeps component state)
    {call : NamedCall} (hseed : call.DrawsNoSeed) (drawn fresh : Value) :
    (provider.perform component state (.compile drawn call)).outcome =
      (provider.perform component {} (.compile fresh call)).outcome := by
  have hcached : ∀ setting ∈ ({} : ProviderState).settings, setting.hooks = {} := by
    intro setting hsetting
    cases hsetting
  simp only [SearchProvider.perform, compile]
  rw [prepare_outcome_eq_fresh hkeeps drawn call,
    @prepare_outcome_drawn provider component {} hhooks hcached call.toQueryCall hseed drawn fresh]

/-- A provider without hooks keeps no setting with hooks. -/
theorem Keeps.hooks (hkeeps : provider.Keeps component state) (hhooks : provider.hooks = {}) :
    ∀ setting ∈ state.settings, setting.hooks = {} :=
  fun setting hsetting => (buildSetting_eq_ok (hkeeps setting hsetting).2).2.trans hhooks

/-- To compile after any run of calls is to compile with a new provider. A setting that cannot be
built is not kept, and no call changes what is compiled after it. -/
theorem compile_performAll (hhooks : provider.hooks = {}) (calls : List ProviderCall)
    {call : NamedCall} (hseed : call.DrawsNoSeed) (drawn fresh : Value) :
    (provider.perform component (provider.performAll component {} calls)
          (.compile drawn call)).outcome =
        (provider.perform component {} (.compile fresh call)).outcome ∧
      (∀ collection fault, provider.buildSetting (.str collection) = .error fault →
        (provider.performAll component {} calls).setting? (.str collection) = none) ∧
      ∀ other,
        (provider.perform component
            (provider.perform component (provider.performAll component {} calls) other).state
            (.compile drawn call)).outcome =
          (provider.perform component (provider.performAll component {} calls)
            (.compile drawn call)).outcome := by
  have hkeeps : provider.Keeps component (provider.performAll component {} calls) :=
    keeps_empty.performAll calls
  refine ⟨compile_eq_fresh hhooks hkeeps hseed drawn fresh, ?_, ?_⟩
  · intro collection fault hfault
    cases hkept : (provider.performAll component {} calls).setting? (.str collection) with
    | none => rfl
    | some setting =>
        have hbuilt := (hkeeps.setting? (.inl ⟨collection, rfl⟩) hkept).2
        rw [hfault] at hbuilt
        cases hbuilt
  · intro other
    rw [compile_eq_fresh hhooks (hkeeps.perform other) hseed drawn fresh,
      compile_eq_fresh hhooks hkeeps hseed drawn fresh]

/-- A provider with a catalog of its own for books, and a malformed one for films. -/
def shelves : SearchProvider where
  connection := [("hosts", .list [.str "http://localhost:9200"])]
  catalog := .table
    [("books", .value (.object [("fields", .object [("title", .str "text")])])),
      ("films", .value (.object [("fields", .int 5)]))]

/-- Any book, by chance but always in the same order. -/
def anyBook : NamedCall where
  query := .model (.searchQuery { sorts := [{ field := "$random" }], randomSeed := some 7 })
  collection := some "books"

def anyFilm : NamedCall := { anyBook with collection := some "films" }

def shelfCalls : List ProviderCall :=
  [.compile .null anyFilm, .query .sync .null .transportFailure anyBook,
    .query .async .null .transportFailure anyFilm, .close .sync]

theorem anyBook_drawsNoSeed : anyBook.DrawsNoSeed := by
  intro query hquery
  cases hquery
  exact .inr ⟨7, rfl, by decide⟩

theorem shelves_compile_performAll :
    (shelves.perform .null (shelves.performAll .null {} shelfCalls)
          (.compile (.int 3) anyBook)).outcome =
        (shelves.perform .null {} (.compile (.int 5) anyBook)).outcome ∧
      (shelves.performAll .null {} shelfCalls).setting? (.str "films") = none :=
  have h := compile_performAll rfl shelfCalls anyBook_drawsNoSeed (.int 3) (.int 5)
  ⟨h.1, h.2.1 "films" .wrongKind rfl⟩

end SearchProvider

end FacetedSearch
