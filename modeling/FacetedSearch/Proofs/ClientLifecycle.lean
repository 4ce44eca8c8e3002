import FacetedSearch.Proofs.QueryExecution

/-!
The clients of a provider over a run of calls. Whatever becomes of a call, it leaves the clients
alone, or it creates a client where none of its kind is open, or it uses or closes the one that is.
-/

namespace FacetedSearch

namespace ClientEvent

def kind : ClientEvent → ClientKind
  | .created kind _ => kind
  | .searched kind _ => kind
  | .closed kind => kind

def creates (kind : ClientKind) : ClientEvent → Bool
  | .created other _ => other == kind
  | _ => false

def closes (kind : ClientKind) : ClientEvent → Bool
  | .closed other => other == kind
  | _ => false

/-- What an event makes of the clients that are open. A client is created where none of its kind is
open; it is used and closed only while it is. -/
inductive Changes : (ClientKind → Bool) → ClientEvent → (ClientKind → Bool) → Prop
  | created {isOpen : ClientKind → Bool} {kind : ClientKind} (hopen : isOpen kind = false)
      (parameters : Entries Value) :
      Changes isOpen (.created kind parameters) (Function.update isOpen kind true)
  | searched {isOpen : ClientKind → Bool} {kind : ClientKind} (hopen : isOpen kind = true)
      (arguments : Entries Value) : Changes isOpen (.searched kind arguments) isOpen
  | closed {isOpen : ClientKind → Bool} {kind : ClientKind} (hopen : isOpen kind = true) :
      Changes isOpen (.closed kind) (Function.update isOpen kind false)

/-- A client that is created gets open, and one that is closed was. -/
theorem Changes.balance {isOpen after : ClientKind → Bool} {event : ClientEvent}
    (h : event.Changes isOpen after) (kind : ClientKind) :
    (event.creates kind).toNat + (isOpen kind).toNat =
      (event.closes kind).toNat + (after kind).toNat := by
  cases h with
  | @created other hopen parameters =>
      by_cases hkind : other = kind
      · subst hkind
        simp [creates, closes, hopen]
      · simp [creates, closes, hkind, Function.update_of_ne (Ne.symm hkind)]
  | searched hopen arguments => rfl
  | @closed other hopen =>
      by_cases hkind : other = kind
      · subst hkind
        simp [creates, closes, hopen]
      · simp [creates, closes, hkind, Function.update_of_ne (Ne.symm hkind)]

/-- An event bears on the clients of its kind alone. -/
theorem Changes.eq_of_ne {isOpen after : ClientKind → Bool} {event : ClientEvent}
    (h : event.Changes isOpen after) {other : ClientKind} (hother : other ≠ event.kind) :
    after other = isOpen other := by
  cases h with
  | created hopen parameters => exact Function.update_of_ne hother _ _
  | searched hopen arguments => rfl
  | closed hopen => exact Function.update_of_ne hother _ _

end ClientEvent

/-- The number of clients of a kind that are created in a run. -/
def createdClients (kind : ClientKind) (events : List ClientEvent) : Nat :=
  events.countP (ClientEvent.creates kind)

def closedClients (kind : ClientKind) (events : List ClientEvent) : Nat :=
  events.countP (ClientEvent.closes kind)

theorem createdClients_cons (kind : ClientKind) (event : ClientEvent) (events : List ClientEvent) :
    createdClients kind (event :: events) =
      (event.creates kind).toNat + createdClients kind events := by
  rw [createdClients, List.countP_cons, Nat.add_comm]
  cases event.creates kind <;> rfl

theorem closedClients_cons (kind : ClientKind) (event : ClientEvent) (events : List ClientEvent) :
    closedClients kind (event :: events) =
      (event.closes kind).toNat + closedClients kind events := by
  rw [closedClients, List.countP_cons, Nat.add_comm]
  cases event.closes kind <;> rfl

/-- Events that lead from clients that are open to others. -/
inductive Leads : (ClientKind → Bool) → List ClientEvent → (ClientKind → Bool) → Prop
  | nil {isOpen : ClientKind → Bool} : Leads isOpen [] isOpen
  | cons {isOpen between after : ClientKind → Bool} {event : ClientEvent}
      {events : List ClientEvent} (hfirst : event.Changes isOpen between)
      (hrest : Leads between events after) : Leads isOpen (event :: events) after

namespace Leads

variable {isOpen between after : ClientKind → Bool} {events before rest : List ClientEvent}

theorem single {event : ClientEvent} (h : event.Changes isOpen after) :
    Leads isOpen [event] after := .cons h .nil

theorem append (hbefore : Leads isOpen before between) (hrest : Leads between rest after) :
    Leads isOpen (before ++ rest) after := by
  induction hbefore with
  | nil => exact hrest
  | cons hfirst _ ih => exact .cons hfirst (ih hrest)

/-- At every moment of a run there are clients that it leads to. -/
theorem exists_between (h : Leads isOpen (before ++ rest) after) :
    ∃ between, Leads isOpen before between ∧ Leads between rest after := by
  induction before generalizing isOpen with
  | nil => exact ⟨isOpen, .nil, h⟩
  | cons event before ih =>
      cases h with
      | cons hfirst hrest =>
          obtain ⟨between, hbefore, hrest⟩ := ih hrest
          exact ⟨between, .cons hfirst hbefore, hrest⟩

/-- The clients that are created less those that are closed are the ones that get open. -/
theorem balance (h : Leads isOpen events after) (kind : ClientKind) :
    createdClients kind events + (isOpen kind).toNat =
      closedClients kind events + (after kind).toNat := by
  induction h with
  | nil => rfl
  | cons hfirst _ ih =>
      have hevent := hfirst.balance kind
      rw [createdClients_cons, closedClients_cons]
      omega

theorem eq_of_ne (h : Leads isOpen events after) {other : ClientKind}
    (hother : ∀ event ∈ events, other ≠ event.kind) : after other = isOpen other := by
  induction h with
  | nil => rfl
  | cons hfirst _ ih =>
      obtain ⟨hevent, hrest⟩ := List.forall_mem_cons.mp hother
      exact (ih hrest).trans (hfirst.eq_of_ne hevent)

/-- Searches open and close nothing. -/
theorem eq_of_searches {kind : ClientKind} (h : Leads isOpen events after)
    (hsearches : ∀ event ∈ events, ∃ arguments, event = .searched kind arguments) :
    after = isOpen := by
  induction h with
  | nil => rfl
  | cons hfirst _ ih =>
      obtain ⟨⟨arguments, rfl⟩, hrest⟩ := List.forall_mem_cons.mp hsearches
      cases hfirst
      exact ih hrest

/-- A client that is used or closed is open: it is created and not closed yet. -/
theorem created_eq_of_open {isOpen : ClientKind → Bool} (h : Leads (fun _ => false) before isOpen)
    {kind : ClientKind} (hopen : isOpen kind = true) :
    createdClients kind before = closedClients kind before + 1 := by
  have hbalance := h.balance kind
  rw [hopen] at hbalance
  exact hbalance

/-- Where a client gets open that was not, one is created. -/
theorem exists_created (h : Leads isOpen events after) {kind : ClientKind}
    (hclosed : isOpen kind = false) (hopen : after kind = true) :
    ∃ parameters, .created kind parameters ∈ events := by
  have hbalance := h.balance kind
  rw [hclosed, hopen] at hbalance
  have hpos : 0 < createdClients kind events := by
    simp only [Bool.toNat_false, Bool.toNat_true] at hbalance
    omega
  obtain ⟨event, hevent, hcreates⟩ := List.countP_pos_iff.mp hpos
  cases event with
  | created other parameters =>
      obtain rfl : other = kind := by simpa [ClientEvent.creates] using hcreates
      exact ⟨parameters, hevent⟩
  | searched other arguments => cases hcreates
  | closed other => cases hcreates

end Leads

theorem ProviderState.isOpen_setOpen (state : ProviderState) (kind : ClientKind) (flag : Bool) :
    (state.setOpen kind flag).isOpen = Function.update state.isOpen kind flag := by
  funext other
  cases kind <;> cases other <;> simp [setOpen, isOpen, Function.update]

/-- What a call may do about clients of a kind: nothing, or to use or close the one that is open, or
to create one and then, perhaps, to use it. -/
inductive ClientStep (provider : SearchProvider) (kind : ClientKind) (isOpen : ClientKind → Bool) :
    List ClientEvent → (ClientKind → Bool) → Prop
  | still : ClientStep provider kind isOpen [] isOpen
  | sent (hopen : isOpen kind = true) (arguments : Entries Value) :
      ClientStep provider kind isOpen [.searched kind arguments] isOpen
  | opened {parameters : Entries Value} (hopen : isOpen kind = false)
      (hparameters : provider.clientParameters = .ok parameters) :
      ClientStep provider kind isOpen [.created kind parameters] (Function.update isOpen kind true)
  | openedAndSent {parameters : Entries Value} (hopen : isOpen kind = false)
      (hparameters : provider.clientParameters = .ok parameters) (arguments : Entries Value) :
      ClientStep provider kind isOpen [.created kind parameters, .searched kind arguments]
        (Function.update isOpen kind true)
  | closed (hopen : isOpen kind = true) :
      ClientStep provider kind isOpen [.closed kind] (Function.update isOpen kind false)

namespace ClientStep

variable {provider : SearchProvider} {kind : ClientKind} {isOpen after : ClientKind → Bool}
  {events : List ClientEvent}

theorem leads (h : ClientStep provider kind isOpen events after) : Leads isOpen events after := by
  cases h with
  | still => exact .nil
  | sent hopen arguments => exact .single (.searched hopen arguments)
  | opened hopen hparameters => exact .single (.created hopen _)
  | openedAndSent hopen hparameters arguments =>
      have hcreated : Function.update isOpen kind true kind = true := Function.update_self ..
      exact .cons (.created hopen _) (.single (.searched hcreated arguments))
  | closed hopen => exact .single (.closed hopen)

theorem kind_eq (h : ClientStep provider kind isOpen events after) :
    ∀ event ∈ events, event.kind = kind := by
  cases h <;> simp [ClientEvent.kind]

theorem exists_search_of_mem_tail (h : ClientStep provider kind isOpen events after)
    {event : ClientEvent} (hevent : event ∈ events.tail) :
    ∃ arguments, event = .searched kind arguments := by
  cases h <;> simp_all

theorem parameters_of_created (h : ClientStep provider kind isOpen events after)
    {other : ClientKind} {parameters : Entries Value}
    (hcreated : .created other parameters ∈ events) :
    provider.clientParameters = .ok parameters := by
  cases h <;> simp_all

/-- A call changes what is open with its first event, if at all. -/
theorem leads_of_append (h : ClientStep provider kind isOpen events after)
    {before rest : List ClientEvent} (hevents : events = before ++ rest) :
    Leads isOpen before (if before = [] then isOpen else after) := by
  cases before with
  | nil => exact .nil
  | cons first before =>
      subst hevents
      obtain ⟨between, hbefore, hrest⟩ := h.leads.exists_between
      have hsearches : ∀ event ∈ rest, ∃ arguments, event = .searched kind arguments := by
        intro event hevent
        apply h.exists_search_of_mem_tail
        exact List.mem_append_right before hevent
      rw [if_neg (List.cons_ne_nil first before), hrest.eq_of_searches hsearches]
      exact hbefore

end ClientStep

namespace SearchProvider

variable {provider : SearchProvider} {context : CallContext} {call : QueryCall}
  {kind : ClientKind} {state : ProviderState} {reply : ClientReply} {component : Value}

theorem isOpen_prepare_eq (context : CallContext) (call : QueryCall) (state : ProviderState) :
    (provider.prepare context call state).state.isOpen = state.isOpen :=
  funext fun other => isOpen_prepare other

/-- To open a client is to create it unless it is there. -/
theorem openClient_cases (kind : ClientKind) (state : ProviderState) :
    (∃ fault, provider.clientParameters = .error fault ∧ state.isOpen kind = false ∧
        provider.openClient kind state = { outcome := .error fault, state }) ∨
      (state.isOpen kind = true ∧ provider.openClient kind state = { outcome := .ok (), state }) ∨
      ∃ parameters, provider.clientParameters = .ok parameters ∧ state.isOpen kind = false ∧
        provider.openClient kind state =
          { outcome := .ok (), state := state.setOpen kind true,
            events := [.created kind parameters] } := by
  unfold openClient
  cases hopen : state.isOpen kind with
  | true => exact .inr (.inl ⟨rfl, rfl⟩)
  | false =>
      cases hparameters : provider.clientParameters with
      | error fault => exact .inl ⟨fault, rfl, rfl, rfl⟩
      | ok parameters => exact .inr (.inr ⟨parameters, rfl, rfl, rfl⟩)

/-- A request is sent once, unless its arguments are refused. -/
theorem events_send (kind : ClientKind) (reply : ClientReply) (prepared : Prepared)
    (pairs : List (Value × Value)) (state : ProviderState) :
    (send kind reply prepared pairs state).events = [] ∨
      ∃ arguments, (send kind reply prepared pairs state).events = [.searched kind arguments] := by
  unfold send
  cases searchArguments pairs with
  | error fault => exact .inl rfl
  | ok arguments => exact .inr ⟨_, rfl⟩

theorem query_clientStep (context : CallContext) (kind : ClientKind) (call : QueryCall)
    (reply : ClientReply) (state : ProviderState) :
    ClientStep provider kind state.isOpen (provider.query context kind call reply state).events
      (provider.query context kind call reply state).state.isOpen := by
  have hquiet := (@prepare_cases provider context call state).1
  have hprepared := @isOpen_prepare_eq provider context call state
  unfold query
  dsimp only
  split
  · rw [hquiet, hprepared]
    exact .still
  · next compiled pairs _ =>
    rcases @openClient_cases provider kind (provider.prepare context call state).state with
      ⟨fault, -, -, hopened⟩ | ⟨hopen, hopened⟩ | ⟨parameters, hparameters, hopen, hopened⟩
    · rw [hopened]
      dsimp only
      rw [hquiet, hprepared]
      exact .still
    · rw [hopened]
      dsimp only
      rw [hprepared] at hopen
      rw [state_send, hprepared]
      rcases events_send kind reply compiled pairs (provider.prepare context call state).state with
        hsent | ⟨arguments, hsent⟩
      · rw [hsent]
        exact .still
      · rw [hsent]
        exact .sent hopen arguments
    · rw [hopened]
      dsimp only
      rw [hprepared] at hopen
      rw [state_send, ProviderState.isOpen_setOpen, hprepared]
      rcases events_send kind reply compiled pairs
          ((provider.prepare context call state).state.setOpen kind true) with
        hsent | ⟨arguments, hsent⟩
      · rw [hsent]
        exact .opened hopen hparameters
      · rw [hsent]
        exact .openedAndSent hopen hparameters arguments

theorem close_clientStep (kind : ClientKind) (state : ProviderState) :
    ClientStep provider kind state.isOpen (close kind state).events
      (close kind state).state.isOpen := by
  unfold close
  dsimp only
  split_ifs with hopen
  · rw [ProviderState.isOpen_setOpen]
    exact .closed hopen
  · exact .still

end SearchProvider

namespace ProviderCall

/-- The clients that a call is for; compiling is for none. -/
def kind : ProviderCall → ClientKind
  | .compile _ _ => .sync
  | .query kind _ _ _ => kind
  | .close kind => kind

def isCompile : ProviderCall → Bool
  | .compile _ _ => true
  | _ => false

end ProviderCall

namespace SearchProvider

/-- The events at the clients in a run of calls. -/
def eventsAll (provider : SearchProvider) (component : Value) :
    ProviderState → List ProviderCall → List ClientEvent
  | _, [] => []
  | state, call :: rest =>
    (provider.perform component state call).events ++
      provider.eventsAll component (provider.perform component state call).state rest

/-- Clients are open only where the provider has the parameters that they are created with. -/
def OpensValidly (provider : SearchProvider) (state : ProviderState) : Prop :=
  ∀ kind, state.isOpen kind = true → ∃ parameters, provider.clientParameters = .ok parameters

section

variable {provider : SearchProvider} {component : Value}

theorem events_of_isCompile (state : ProviderState) {call : ProviderCall}
    (hcompile : call.isCompile = true) :
    (provider.perform component state call).events = [] := by
  cases call with
  | compile drawn call => exact (prepare_cases _ _ _).1
  | query kind drawn reply call => cases hcompile
  | close kind => cases hcompile

theorem perform_clientStep (state : ProviderState) (call : ProviderCall) :
    ClientStep provider call.kind state.isOpen (provider.perform component state call).events
      (provider.perform component state call).state.isOpen := by
  cases call with
  | compile drawn call =>
      have hopen : (provider.perform component state (.compile drawn call)).state.isOpen =
          state.isOpen := isOpen_prepare_eq _ _ _
      rw [events_of_isCompile state rfl, hopen]
      exact .still
  | query kind drawn reply call => exact query_clientStep _ _ _ _ _
  | close kind => exact close_clientStep _ _

/-- A run of calls leads from the clients open before it to those open after it, by induction on the
calls. -/
theorem performAll_leads (state : ProviderState) (calls : List ProviderCall) :
    Leads state.isOpen (provider.eventsAll component state calls)
      (provider.performAll component state calls).isOpen := by
  induction calls generalizing state with
  | nil => exact .nil
  | cons call rest ih => exact (perform_clientStep state call).leads.append (ih _)

theorem OpensValidly.perform {state : ProviderState} (h : provider.OpensValidly state)
    (call : ProviderCall) :
    provider.OpensValidly (provider.perform component state call).state := by
  intro kind hopen
  cases hbefore : state.isOpen kind with
  | true => exact h kind hbefore
  | false =>
      have hstep := @perform_clientStep provider component state call
      obtain ⟨parameters, hcreated⟩ := hstep.leads.exists_created hbefore hopen
      exact ⟨parameters, hstep.parameters_of_created hcreated⟩

theorem OpensValidly.performAll {state : ProviderState} (h : provider.OpensValidly state)
    (calls : List ProviderCall) :
    provider.OpensValidly (provider.performAll component state calls) := by
  induction calls generalizing state with
  | nil => exact h
  | cons call rest ih => exact ih (h.perform call)

end

/-- The clients of a run of calls on a new provider. At every moment, of the calls and within them,
there is one client of a kind that is created and not closed while its flag is set, and none else;
what is sent goes through it, and what is closed is it. -/
theorem clients_performAll (provider : SearchProvider) (component : Value)
    (calls : List ProviderCall) :
    let state := provider.performAll component {} calls
    let events := provider.eventsAll component {} calls
    (∀ call before rest, (provider.perform component state call).events = before ++ rest →
        ∀ kind, createdClients kind (events ++ before) =
          closedClients kind (events ++ before) +
            ((if before = [] then state
              else (provider.perform component state call).state).isOpen kind).toNat) ∧
      (∀ before kind arguments rest, events = before ++ .searched kind arguments :: rest →
        createdClients kind before = closedClients kind before + 1) ∧
      (∀ before kind rest, events = before ++ .closed kind :: rest →
        createdClients kind before = closedClients kind before + 1) ∧
      (∀ before kind between rest,
        events = before ++ .closed kind :: (between ++ .closed kind :: rest) →
          ∃ parameters, .created kind parameters ∈ between) ∧
      ∀ call, (call.isCompile = true → (provider.perform component state call).events = []) ∧
        (∀ event ∈ (provider.perform component state call).events, event.kind = call.kind) ∧
        ∀ other, other ≠ call.kind →
          (provider.perform component state call).state.isOpen other = state.isOpen other := by
  intro state events
  have hclosed : ({} : ProviderState).isOpen = fun _ => false := by
    funext kind
    cases kind <;> rfl
  have hrun : Leads (fun _ => false) events state.isOpen :=
    hclosed ▸ performAll_leads {} calls
  refine ⟨?_, ?_, ?_, ?_, ?_⟩
  · intro call before rest hevents kind
    have hmoment := (perform_clientStep state call).leads_of_append hevents
    have hbalance := (hrun.append hmoment).balance kind
    rw [apply_ite ProviderState.isOpen]
    simpa using hbalance
  · intro before kind arguments rest hevents
    rw [hevents] at hrun
    obtain ⟨between, hbefore, hrest⟩ := hrun.exists_between
    cases hrest with
    | cons hfirst _ =>
        cases hfirst with
        | searched hopen _ => exact hbefore.created_eq_of_open hopen
  · intro before kind rest hevents
    rw [hevents] at hrun
    obtain ⟨between, hbefore, hrest⟩ := hrun.exists_between
    cases hrest with
    | cons hfirst _ =>
        cases hfirst with
        | closed hopen => exact hbefore.created_eq_of_open hopen
  · intro before kind between rest hevents
    rw [hevents] at hrun
    obtain ⟨first, -, hfirst⟩ := hrun.exists_between
    cases hfirst with
    | cons hclosing hbetween =>
        cases hclosing with
        | closed _ =>
            obtain ⟨second, hbetween, hlast⟩ := hbetween.exists_between
            cases hlast with
            | cons hclosing _ =>
                cases hclosing with
                | closed hopen =>
                    exact hbetween.exists_created (Function.update_self ..) hopen
  · intro call
    have hstep := @perform_clientStep provider component state call
    refine ⟨events_of_isCompile state, hstep.kind_eq, ?_⟩
    intro other hother
    apply hstep.leads.eq_of_ne
    intro event hevent
    rw [hstep.kind_eq event hevent]
    exact hother

/-- A client is closed twice in vain, then another one is created for the next search. -/
def reopeningCalls : List ProviderCall :=
  [.query .sync .null .transportFailure anyBook, .close .sync, .close .sync,
    .query .async .null .transportFailure anyBook, .compile .null anyFilm,
    .query .sync .null (.response (.object [])) anyBook]

theorem shelves_clients_performAll :
    let state := shelves.performAll .null {} reopeningCalls
    let events := shelves.eventsAll .null {} reopeningCalls
    closedClients .sync events = 1 ∧ createdClients .sync events = 2 ∧
      state.isOpen .sync = true ∧ state.isOpen .async = true ∧
      createdClients .async events = closedClients .async events + 1 := by
  intro state events
  have hclients := (clients_performAll shelves .null reopeningCalls).1 (.close .sync) [] _ rfl
  have hclosed : closedClients .sync events = 1 := rfl
  have hopen : ∀ kind, state.isOpen kind = true := by
    intro kind
    cases kind <;> rfl
  have hcreated : ∀ kind, createdClients kind events = closedClients kind events + 1 := by
    intro kind
    have hkind := hclients kind
    rw [List.append_nil, if_pos rfl] at hkind
    rw [hkind, hopen kind]
    rfl
  have htwice : createdClients .sync events = 2 := by rw [hcreated, hclosed]
  exact ⟨hclosed, htwice, hopen .sync, hopen .async, hcreated .async⟩

end SearchProvider

end FacetedSearch
