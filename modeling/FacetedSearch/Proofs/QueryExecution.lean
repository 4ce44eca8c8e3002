import FacetedSearch.Proofs.CollectionCache
import FacetedSearch.Proofs.Entries
import FacetedSearch.Store.Component

/-!
A query sends the request that compiling it shows. What cannot be compiled is not sent, and nothing
is opened for it; what can be compiled is sent once, with the arguments that the call gives for the
backend laid over those of the request.
-/

namespace FacetedSearch

/-- An entry as a pair whose key is a text. -/
def namedPair (entry : String × Value) : Value × Value := (.str entry.1, entry.2)

namespace Operation

variable {entries rest : Entries Value} {name : String} {old value : Value}

theorem insertPair_cons_self (hname : name ∉ rest.names) :
    insertPair (namedPair (name, old) :: rest.map namedPair) (.str name, value) =
      namedPair (name, value) :: rest.map namedPair := by
  have hrest : ∀ entry ∈ rest, entry.1 ≠ name := by
    intro entry hentry heq
    exact hname (heq ▸ List.mem_map_of_mem hentry)
  simp only [insertPair, namedPair, List.any_cons, Value.sameKey, beq_self_eq_true, Bool.true_or,
    if_true, List.map_cons, List.map_map, List.cons.injEq, true_and, List.map_inj_left]
  intro entry hentry
  have hkey : (namedPair entry).1.sameKey (.str name) = false :=
    beq_false_of_ne (hrest entry hentry)
  rw [Function.comp_apply, hkey]
  rfl

theorem insertPair_cons_of_ne {other : String} (hother : other ≠ name)
    (pairs : List (Value × Value)) :
    insertPair (namedPair (other, old) :: pairs) (.str name, value) =
      namedPair (other, old) :: insertPair pairs (.str name, value) := by
  simp only [insertPair, namedPair, List.any_cons, Value.sameKey, beq_false_of_ne hother,
    Bool.false_or, List.map_cons, List.cons_append]
  split <;> rfl

theorem insertPair_map_namedPair (hnames : entries.names.Nodup) (name : String) (value : Value) :
    insertPair (entries.map namedPair) (.str name, value) =
      (entries.put name value).map namedPair := by
  induction entries with
  | nil => rfl
  | cons entry rest ih =>
      obtain ⟨other, old⟩ := entry
      obtain ⟨hother, hrest⟩ := List.nodup_cons.mp hnames
      rw [List.map_cons, Entries.put]
      by_cases h : other = name
      · subst h
        rw [insertPair_cons_self hother, if_pos rfl, List.map_cons]
      · rw [insertPair_cons_of_ne h, ih hrest, if_neg h, List.map_cons]

/-- Pairs with texts as keys are laid over others as entries are. -/
theorem foldl_insertPair_map_namedPair (hnames : entries.names.Nodup) (news : Entries Value) :
    (news.map namedPair).foldl insertPair (entries.map namedPair) =
      (entries.putAll news).map namedPair := by
  induction news generalizing entries with
  | nil => rfl
  | cons entry rest ih =>
      rw [List.map_cons, List.foldl_cons, namedPair, insertPair_map_namedPair hnames,
        ih (Entries.nodup_names_put hnames entry.1 entry.2), Entries.putAll_cons]

theorem namedPairs?_map_namedPair (entries : Entries Value) :
    Value.namedPairs? (entries.map namedPair) = some entries := by
  induction entries with
  | nil => rfl
  | cons entry rest ih =>
      rw [Value.namedPairs?, List.map_cons, List.mapM_cons]
      rw [Value.namedPairs?] at ih
      rw [ih]
      rfl

end Operation

namespace SearchRequest

/-- All names that the arguments of a request can have. -/
def argumentNames : List String :=
  ["query", "size", "from_", "sort", "post_filter", "source", "aggs", "suggest"]

theorem names_entryIf_sublist (condition : Bool) (name : String) (value : Value) :
    ((entryIf condition name value).map Prod.fst).Sublist [name] := by
  unfold entryIf
  split
  · exact List.Sublist.refl _
  · exact List.nil_sublist _

theorem names_toArgs_sublist (request : SearchRequest) :
    request.toArgs.names.Sublist argumentNames := by
  have hsort := names_entryIf_sublist request.sort.isTruthy "sort" request.sort
  have hfilter := names_entryIf_sublist (request.postFilter != .null) "post_filter"
    request.postFilter
  have hsource := names_entryIf_sublist (request.source != .null) "source" request.source
  have haggs := names_entryIf_sublist request.aggs.isTruthy "aggs" request.aggs
  have hsuggest := names_entryIf_sublist request.suggest.isTruthy "suggest" request.suggest
  simp only [Entries.names, toArgs, List.map_append]
  exact (((((List.Sublist.refl ["query", "size", "from_"]).append hsort).append hfilter).append
    hsource).append haggs).append hsuggest

theorem nodup_names_toArgs (request : SearchRequest) : request.toArgs.names.Nodup :=
  (names_toArgs_sublist request).nodup (by decide)

theorem index_not_mem_names_toArgs (request : SearchRequest) :
    "index" ∉ request.toArgs.names := by
  intro hindex
  have hlisted := (names_toArgs_sublist request).subset hindex
  revert hlisted
  decide

end SearchRequest

namespace SearchProvider

variable {provider : SearchProvider} {context : CallContext} {call : QueryCall}
  {state : ProviderState} {kind : ClientKind} {reply : ClientReply}

theorem searchArguments_map_namedPair {arguments : Entries Value}
    (hindex : "index" ∉ arguments.names) :
    searchArguments (arguments.map namedPair) = .ok arguments := by
  have hcontains : arguments.contains "index" = false := by
    rw [Entries.contains, Entries.find?_eq_none_of_not_mem hindex]
    rfl
  simp [searchArguments, Operation.namedPairs?_map_namedPair, hcontains]

/-- Preparing a call opens and closes nothing. -/
theorem isOpen_prepare (other : ClientKind) :
    (provider.prepare context call state).state.isOpen other = state.isOpen other := by
  obtain ⟨-, hstate | ⟨query, name, setting, after, -, hsetting, hstate⟩⟩ :=
    @prepare_cases provider context call state
  · rw [hstate]
  · rw [hstate]
    rcases settingOf_cases hsetting with ⟨-, rfl⟩ | ⟨-, rfl⟩
    · rfl
    · cases other <;> rfl

/-- The setting of a collection bears its name, or another value that is the same key. -/
theorem collection_settingOf {name : Value} {setting : Lowering.Setting} {after : ProviderState}
    (h : provider.settingOf state name = .ok (setting, after)) :
    setting.collection = name ∨ setting.collection.sameKey name = true := by
  rcases settingOf_cases h with ⟨hkept, -⟩ | ⟨hbuilt, -⟩
  · exact .inr (by simpa using List.find?_some hkept)
  · exact .inl (buildSetting_eq_ok hbuilt).1

/-- What is not prepared is not sent. -/
theorem query_of_prepare_error {fault : Fault}
    (h : (provider.prepare context call state).outcome = .error fault) :
    (provider.query context kind call reply state).outcome = .error fault ∧
      (provider.query context kind call reply state).events = [] ∧
      ∀ other, (provider.query context kind call reply state).state.isOpen other =
        state.isOpen other := by
  simp only [query, h]
  exact ⟨rfl, (prepare_cases context call state).1, isOpen_prepare⟩

/-- A call that is prepared has a query, whose collection has a name. -/
theorem exists_name_of_prepare (hhooks : provider.hooks = {}) {prepared : Prepared}
    (h : (provider.prepare context call state).outcome = .ok prepared) :
    ∃ query name, givenQuery call.query = .ok (some query) ∧
      provider.collectionName context.collection call.collection (some query) = .ok name ∧
      (prepared.setting.collection = name ∨
        prepared.setting.collection.sameKey name = true) := by
  rw [prepare_outcome, hhooks] at h
  obtain ⟨given, hgiven, h⟩ := Outcome.bind_eq_ok.mp h
  rw [alterGiven_default, Outcome.bind_ok] at h
  obtain ⟨name, hname, h⟩ := Outcome.bind_eq_ok.mp h
  obtain ⟨setting, hsetting, h⟩ := Outcome.bind_eq_ok.mp h
  cases hfound : provider.settingOf state name with
  | error fault =>
      rw [hfound] at hsetting
      cases hsetting
  | ok found =>
      rw [hfound] at hsetting
      cases hsetting
      cases given with
      | none => cases h
      | some query =>
          obtain ⟨request, -, h⟩ := Outcome.bind_eq_ok.mp h
          cases h
          exact ⟨query, name, hgiven, hname, collection_settingOf hfound⟩

/-- The client of a kind is open after it was opened, for which it is created unless it is there. -/
theorem openClient_eq {parameters : Entries Value}
    (hparameters : provider.clientParameters = .ok parameters) :
    (provider.openClient kind state).outcome = .ok () ∧
      (provider.openClient kind state).events =
        if state.isOpen kind then [] else [.created kind parameters] := by
  unfold openClient
  rw [hparameters]
  split_ifs <;> exact ⟨rfl, rfl⟩

/-- What is prepared is sent once, whatever the reply. -/
theorem query_of_prepare_ok {prepared : Prepared} {parameters arguments : Entries Value}
    (h : (provider.prepare context call state).outcome = .ok prepared)
    (hpairs : requestPairs prepared.request call.named = .ok (arguments.map namedPair))
    (hindex : "index" ∉ arguments.names)
    (hparameters : provider.clientParameters = .ok parameters) :
    (provider.query context kind call reply state).outcome = respond prepared arguments reply ∧
      (provider.query context kind call reply state).events =
        (if state.isOpen kind then [] else [.created kind parameters]) ++
          [.searched kind (("index", prepared.setting.collection) :: arguments)] := by
  obtain ⟨hopened, hevents⟩ := @openClient_eq provider
    (provider.prepare context call state).state kind parameters hparameters
  rw [isOpen_prepare kind] at hevents
  have hsent : ∀ state, send kind reply prepared (arguments.map namedPair) state =
      { outcome := respond prepared arguments reply
        state
        events := [.searched kind (("index", prepared.setting.collection) :: arguments)] } := by
    intro state
    rw [send, searchArguments_map_namedPair hindex]
  constructor
  · simp only [query, h, hpairs, Outcome.bind_ok, Outcome.pure_eq, hopened, hsent]
  · simp only [query, h, hpairs, Outcome.bind_ok, Outcome.pure_eq, hopened, hsent, hevents]

end SearchProvider

theorem Argument.eq_null_of_isNull {argument : Argument} (h : argument.isNull = true) :
    argument = .value .null := by
  unfold Argument.isNull at h
  split at h
  · rfl
  · cases h

namespace SearchStore

/-- The arguments for the backend that a call may give by name. -/
def nativeArguments : Option (Entries Value) → Entries Argument
  | none => []
  | some native => [("nargs", .value (.object native))]

def collectionArguments : Value → Entries Argument
  | .null => []
  | collection => [("collection", .value collection)]

/-- The named arguments of a call with a query. -/
def queryArguments (query : Argument) (collection : Value) (native : Option (Entries Value)) :
    Entries Argument :=
  [("query", query), ("collection", .value collection)] ++ nativeArguments native

theorem requestPairs_nativeArguments (request : SearchRequest) (native : Option (Entries Value)) :
    SearchProvider.requestPairs request (nativeArguments native) =
      .ok ((request.toArgs.putAll (native.getD [])).map namedPair) := by
  have hnames := SearchRequest.nodup_names_toArgs request
  rw [← Operation.foldl_insertPair_map_namedPair hnames]
  cases native <;> rfl

/-- The query that an argument of a store is taken for. -/
def queryOf (argument : Argument) : Outcome GivenQuery := do
  givenQuery (← SearchProvider.queryType.convert argument)

/-- The answer of a store to a step of its provider. -/
def answer (store : SearchStore) (step : Step StoreResponse) : Step StoreAnswer :=
  { step with
    outcome :=
      (step.outcome.map fun response => store.finalize (.response response)).mapError methodFault }

variable {store : SearchStore} {provider : SearchProvider} {query : Argument} {collection : Value}
  {native : Option (Entries Value)} {state : ProviderState}

/-- The arguments of a call as its provider receives them. -/
def passedArguments (query : Argument) (collection : Value) (native : Option (Entries Value)) :
    Entries Argument :=
  operationArguments
    { values := [("query", query), ("collection", .value collection)],
      named := nativeArguments native }

/-- A collection that is null is not passed on. -/
theorem passedArguments_eq (hquery : query.isNull = false) :
    passedArguments query collection native =
      ("query", query) :: (collectionArguments collection ++ nativeArguments native) := by
  have hgiven : [("query", query), ("collection", .value collection)].filter
      (fun entry => !entry.2.isNull) = ("query", query) :: collectionArguments collection := by
    rw [List.filter_cons_of_pos (by simp [hquery])]
    cases collection <;> rfl
  rw [passedArguments, operationArguments, hgiven]
  cases collection <;> cases native <;> rfl

/-- The call of a provider that such arguments make; there is none without a query. -/
def boundCall (query : Argument) (collection : Value) (native : Option (Entries Value)) :
    Outcome SearchProvider.QueryCall :=
  if query.isNull then .error .wrongKind
  else
    (SearchProvider.queryType.convert query).map fun converted =>
      { query := converted, collection, named := nativeArguments native }

/-- The provider converts the query and binds the arguments to this call. -/
theorem convert_bindQuery (query : Argument) (collection : Value)
    (native : Option (Entries Value)) :
    (SearchProvider.convertArguments (passedArguments query collection native)).bind
        SearchProvider.bindQuery =
      boundCall query collection native := by
  unfold boundCall
  cases hquery : query.isNull with
  | true =>
      obtain rfl := Argument.eq_null_of_isNull hquery
      cases collection <;> cases native <;> rfl
  | false =>
      rw [passedArguments_eq hquery, SearchProvider.convertArguments, Entries.find?_cons,
        if_pos rfl]
      dsimp only
      cases SearchProvider.queryType.convert query with
      | error fault => rfl
      | ok converted => cases collection <;> cases native <;> rfl

/-- What a store answers is what its provider does with the arguments that it is handed. -/
theorem answer_run {method : StoreMethod} (hmethod : ∀ kind, method ≠ .close kind)
    (surroundings : Surroundings) (arguments : Entries Argument) :
    let run := (Provider.search provider).run method.kind (store.callContext surroundings)
      surroundings.reply { name := some method.operationName, args := some arguments } state
    { run with outcome := (run.outcome.map store.finalize).mapError methodFault } =
      store.answer
        (provider.invokeConverted method (store.callContext surroundings) surroundings.reply
          arguments state) := by
  have hrun : (Provider.search provider).run method.kind (store.callContext surroundings)
      surroundings.reply { name := some method.operationName, args := some arguments } state =
        (provider.invokeConverted method (store.callContext surroundings) surroundings.reply
          arguments state).map .response := by
    cases method with
    | close kind => exact absurd rfl (hmethod kind)
    | compile => rfl
    | query kind => rfl
  simp only [hrun, answer, Step.map]
  congr 1
  generalize (provider.invokeConverted method _ _ _ state).outcome = outcome
  cases outcome <;> rfl

/-- A store passes a call with a query on and answers what its provider does. -/
theorem call_eq_answer (hbound : store.provider = some (.search provider))
    {method : StoreMethod} (hmethod : ∀ kind, method ≠ .close kind) (surroundings : Surroundings) :
    store.call surroundings method (queryArguments query collection native) state =
      store.answer
        (provider.invokeConverted method (store.callContext surroundings) surroundings.reply
          (passedArguments query collection native) state) := by
  have hcontext : (queryArguments query collection native).find? "__context__" = none := by
    cases native <;> rfl
  have hbind : SearchProvider.bindMethod method.signature
      ((queryArguments query collection native).erase "__context__") =
        .ok { values := [("query", query), ("collection", .value collection)],
              named := nativeArguments native } := by
    cases method with
    | close kind => exact absurd rfl (hmethod kind)
    | compile => cases native <;> rfl
    | query kind => cases native <;> rfl
  unfold call
  rw [hcontext, hbind, hbound]
  dsimp only [Option.getD_none, checkContext]
  exact answer_run hmethod surroundings _

/-- A step for a call that is bound; without one nothing changes. -/
def stepFor (state : ProviderState) (call : Outcome SearchProvider.QueryCall)
    (step : SearchProvider.QueryCall → Step StoreResponse) : Step StoreResponse :=
  match call with
  | .error fault => .still state (.error fault)
  | .ok call => step call

theorem invokeConverted_eq_stepFor {method : StoreMethod} (hmethod : ∀ kind, method ≠ .close kind)
    {context : SearchProvider.CallContext} {reply : ClientReply}
    {step : SearchProvider.QueryCall → Step StoreResponse}
    (hstep : ∀ arguments, provider.invoke method context reply arguments state =
      stepFor state (SearchProvider.bindQuery arguments) step) (arguments : Entries Argument) :
    provider.invokeConverted method context reply arguments state =
      stepFor state ((SearchProvider.convertArguments arguments).bind SearchProvider.bindQuery)
        step := by
  have hconverted : provider.invokeConverted method context reply arguments state =
      match SearchProvider.convertArguments arguments with
      | .error fault => .still state (.error fault)
      | .ok arguments => provider.invoke method context reply arguments state := by
    cases method with
    | close kind => exact absurd rfl (hmethod kind)
    | compile => rfl
    | query kind => rfl
  rw [hconverted]
  cases SearchProvider.convertArguments arguments with
  | error fault => rfl
  | ok converted => exact hstep converted

theorem call_compile (hbound : store.provider = some (.search provider))
    (surroundings : Surroundings) :
    store.call surroundings .compile (queryArguments query collection native) state =
      store.answer
        (stepFor state (boundCall query collection native) fun call =>
          provider.compile (store.callContext surroundings) call state) := by
  have hmethod : ∀ kind, StoreMethod.compile ≠ .close kind := nofun
  rw [call_eq_answer hbound hmethod, ← convert_bindQuery]
  refine congrArg store.answer (invokeConverted_eq_stepFor hmethod ?_ _)
  intro arguments
  unfold SearchProvider.invoke
  cases SearchProvider.bindQuery arguments <;> rfl

theorem invoke_query (context : SearchProvider.CallContext) (kind : ClientKind)
    (reply : ClientReply) (arguments : Entries Argument) (state : ProviderState) :
    provider.invoke (.query kind) context reply arguments state =
      stepFor state (SearchProvider.bindQuery arguments) fun call =>
        provider.query context kind call reply state := by
  unfold SearchProvider.invoke
  cases SearchProvider.bindQuery arguments <;> rfl

theorem call_query (hbound : store.provider = some (.search provider))
    (surroundings : Surroundings) (kind : ClientKind) :
    store.call surroundings (.query kind) (queryArguments query collection native) state =
      store.answer
        (stepFor state (boundCall query collection native) fun call =>
          provider.query (store.callContext surroundings) kind call surroundings.reply state) := by
  have hmethod : ∀ other, StoreMethod.query kind ≠ .close other := nofun
  rw [call_eq_answer hbound hmethod, ← convert_bindQuery]
  refine congrArg store.answer (invokeConverted_eq_stepFor hmethod ?_ _)
  intro arguments
  exact invoke_query _ kind _ arguments state

theorem answer_compile_outcome (context : SearchProvider.CallContext)
    (call : SearchProvider.QueryCall) (state : ProviderState) :
    (store.answer (provider.compile context call state)).outcome =
      ((provider.prepare context call state).outcome.map fun prepared =>
        store.finalize (.response { result := .request prepared.request })).mapError
          methodFault := by
  rw [answer, SearchProvider.compile]
  dsimp only
  cases (provider.prepare context call state).outcome <;> rfl

theorem answer_query_error {context : SearchProvider.CallContext} {kind : ClientKind}
    {call : SearchProvider.QueryCall} {reply : ClientReply} {fault : Fault}
    (h : (provider.prepare context call state).outcome = .error fault) :
    (store.answer (provider.query context kind call reply state)).outcome =
        .error (methodFault fault) ∧
      (store.answer (provider.query context kind call reply state)).events = [] ∧
      ∀ other, (store.answer (provider.query context kind call reply state)).state.isOpen other =
        state.isOpen other := by
  obtain ⟨houtcome, hevents, hopen⟩ := SearchProvider.query_of_prepare_error h
  refine ⟨?_, hevents, hopen⟩
  rw [answer, houtcome]
  rfl

theorem answer_query_ok {context : SearchProvider.CallContext} {kind : ClientKind}
    {call : SearchProvider.QueryCall} {reply : ClientReply} {prepared : SearchProvider.Prepared}
    {parameters : Entries Value}
    (h : (provider.prepare context call state).outcome = .ok prepared)
    (hindex : "index" ∉ (prepared.request.toArgs.putAll (native.getD [])).names)
    (hparameters : provider.clientParameters = .ok parameters) :
    let sent := store.answer
      (provider.query context kind { call with named := nativeArguments native } reply state)
    sent.events =
        (if state.isOpen kind then [] else [.created kind parameters]) ++
          [.searched kind
            (("index", prepared.setting.collection) ::
              prepared.request.toArgs.putAll (native.getD []))] ∧
      (reply = .transportFailure → sent.outcome = .error .requestFailed) := by
  intro sent
  have hprepared : (provider.prepare context { call with named := nativeArguments native }
      state).outcome = .ok prepared := h
  obtain ⟨houtcome, hevents⟩ := SearchProvider.query_of_prepare_ok hprepared
    (requestPairs_nativeArguments prepared.request native) hindex hparameters
  refine ⟨hevents, ?_⟩
  rintro rfl
  change ((provider.query context kind { call with named := nativeArguments native }
    .transportFailure state).outcome.map _).mapError methodFault = _
  rw [houtcome]
  rfl

/-- The arguments for the backend are handed on and do not bear on anything else of a call. -/
theorem boundCall_native (query : Argument) (collection : Value)
    (native : Option (Entries Value)) :
    boundCall query collection native =
      (boundCall query collection none).map fun call =>
        { call with named := nativeArguments native } := by
  unfold boundCall
  split
  · rfl
  · cases SearchProvider.queryType.convert query <;> rfl

theorem boundCall_eq_ok {call : SearchProvider.QueryCall}
    (h : boundCall query collection native = .ok call) :
    queryOf query = givenQuery call.query ∧ call.collection = collection := by
  unfold boundCall at h
  split_ifs at h
  cases hconverted : SearchProvider.queryType.convert query with
  | error fault =>
      rw [hconverted] at h
      cases h
  | ok converted =>
      rw [hconverted] at h
      cases h
      rw [queryOf, hconverted, Outcome.bind_ok]
      exact ⟨rfl, rfl⟩

/-- What cannot be compiled is not sent. What can be compiled is sent once, to the collection of the
call and with the arguments for the backend laid over those of the request that compiling shows. -/
theorem query_sends_compiled (hbound : store.provider = some (.search provider))
    (hhooks : provider.hooks = {}) (hcached : ∀ setting ∈ state.settings, setting.hooks = {})
    (hseed : ∀ given, queryOf query = .ok (some given) → Lowering.DrawsNoSeed given)
    (hindex : "index" ∉ (native.getD []).names) (shown sent : Surroundings) (kind : ClientKind) :
    let compiled := store.call shown .compile (queryArguments query collection none) state
    let queried := store.call sent (.query kind) (queryArguments query collection native) state
    (∀ fault, compiled.outcome = .error fault →
        queried.outcome = .error fault ∧ queried.events = [] ∧
          ∀ other, queried.state.isOpen other = state.isOpen other) ∧
      ∀ answer, compiled.outcome = .ok answer →
        ∃ request given name index,
          answer = store.finalize (.response { result := .request request }) ∧
          queryOf query = .ok (some given) ∧
          provider.collectionName store.collection collection (some given) = .ok name ∧
          (index = name ∨ index.sameKey name = true) ∧
          (∀ text, name = .str text → index = name) ∧
          ∀ parameters, provider.clientParameters = .ok parameters →
            queried.events =
                (if state.isOpen kind then [] else [.created kind parameters]) ++
                  [.searched kind
                    (("index", index) :: request.toArgs.putAll (native.getD []))] ∧
              (sent.reply = .transportFailure → queried.outcome = .error .requestFailed) := by
  intro compiled queried
  have hcompiled : compiled = _ := call_compile hbound shown
  have hqueried : queried = _ := call_query hbound sent kind
  rw [hcompiled, hqueried, boundCall_native query collection native]
  cases hcall : boundCall query collection none with
  | error fault =>
      refine ⟨?_, nofun⟩
      intro other hother
      exact ⟨hother, rfl, fun _ => rfl⟩
  | ok call =>
      obtain ⟨hquery, hcollection⟩ := boundCall_eq_ok hcall
      dsimp only [stepFor, Except.map]
      have hseed : ∀ given, givenQuery call.query = .ok (some given) →
          Lowering.DrawsNoSeed given := by
        intro given hgiven
        exact hseed given (hquery.trans hgiven)
      -- Both calls prepare the same query in the same state, so that they fail together.
      have hshown : (provider.prepare (store.callContext shown) call state).outcome =
          (provider.prepare (store.callContext sent) call state).outcome :=
        SearchProvider.prepare_outcome_drawn hhooks hcached hseed shown.drawn sent.drawn
      cases hprepared : (provider.prepare (store.callContext sent) call state).outcome with
      | error fault =>
          rw [answer_compile_outcome, hshown.trans hprepared]
          refine ⟨?_, nofun⟩
          intro other hother
          cases hother
          exact answer_query_error hprepared
      | ok prepared =>
          rw [answer_compile_outcome, hshown.trans hprepared]
          refine ⟨nofun, ?_⟩
          intro shownAnswer hanswer
          cases hanswer
          obtain ⟨given, name, hgiven, hname, hindexed⟩ :=
            SearchProvider.exists_name_of_prepare hhooks hprepared
          rw [hcollection] at hname
          refine ⟨prepared.request, given, name, prepared.setting.collection, rfl,
            hquery.trans hgiven, hname, hindexed, ?_, ?_⟩
          · rintro text rfl
            exact hindexed.elim id Value.sameKey_str_iff.mp
          · intro parameters hparameters
            have harguments :
                "index" ∉ (prepared.request.toArgs.putAll (native.getD [])).names := by
              rw [Entries.mem_names_putAll]
              exact not_or.mpr ⟨SearchRequest.index_not_mem_names_toArgs _, hindex⟩
            exact answer_query_ok hprepared harguments hparameters

def shelfStore : SearchStore where
  provider := some (.search SearchProvider.shelves)

/-- A state that calls lead to: books are known, and no client is open for blocking calls. -/
def shelfState : ProviderState :=
  SearchProvider.shelves.performAll .null {} SearchProvider.shelfCalls

/-- Any book and a page of three, when the backend cannot be reached. -/
theorem shelfStore_query_sends :
    let compiled := shelfStore.call {} .compile
      (queryArguments SearchProvider.anyBook.query (.str "books") none) shelfState
    let queried := shelfStore.call { reply := .transportFailure } (.query .sync)
      (queryArguments SearchProvider.anyBook.query (.str "books") (some [("size", .int 3)]))
      shelfState
    ∃ request : SearchRequest,
      compiled.outcome = .ok (.response { result := .request request }) ∧
      queried.outcome = .error .requestFailed ∧
      queried.events =
        [.created .sync [("hosts", .list [.str "http://localhost:9200"])],
          .searched .sync
            (("index", .str "books") :: request.toArgs.putAll [("size", .int 3)])] := by
  intro compiled queried
  have hcached : ∀ setting ∈ shelfState.settings, setting.hooks = {} :=
    (SearchProvider.keeps_empty.performAll SearchProvider.shelfCalls).hooks rfl
  have hseed : ∀ given, queryOf SearchProvider.anyBook.query = .ok (some given) →
      Lowering.DrawsNoSeed given := SearchProvider.anyBook_drawsNoSeed
  obtain ⟨-, hsent⟩ := @query_sends_compiled shelfStore SearchProvider.shelves
    SearchProvider.anyBook.query (.str "books") (some [("size", .int 3)]) shelfState rfl rfl hcached
    hseed (by decide) {} { reply := .transportFailure } .sync
  obtain ⟨answer, hanswer⟩ : ∃ answer, compiled.outcome = .ok answer := ⟨_, rfl⟩
  obtain ⟨request, given, name, index, rfl, -, hname, -, hindex, hqueried⟩ := hsent answer hanswer
  cases (hname : (.ok (.str "books") : Outcome Value) = .ok name)
  obtain rfl := hindex "books" rfl
  obtain ⟨hevents, houtcome⟩ := hqueried _ rfl
  exact ⟨request, hanswer, houtcome rfl, hevents⟩

end SearchStore

end FacetedSearch
