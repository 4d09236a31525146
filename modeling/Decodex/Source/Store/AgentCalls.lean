import Decodex.Source.Store.AgentDispatch
import Mathlib.Logic.Relation

/-!
# Agent dispatch: the calls as steps

Each call of `AgentDispatch` under one type, as one immediate transaction with the clock it
reads: a call that fails rolls back and leaves the store as it was. Below it stands what every
call is made of, so that what each single statement keeps holds of each call.
-/
namespace Decodex.Source.Store.AgentDispatch

open Decodex.Library Decodex.Source.Core

inductive AgentCall where
  | createAgentWork (item : AgentWorkItem) (manager : Bool)
  | setAgentWorkStatus (id : String) (status : AgentWorkStatus) (nextCheckAtMicros : Option Int)
  | beginAgentThreadCreation (id : String)
  | acknowledgeAgentThreadCreation (id thread : String)
  | beginAgentDispatchWithInput (id : String) (eventIds : List Nat) (instruction : Option String)
      (pending : Bool) (stale : Nat → Bool)
  | acknowledgeAgentDispatch (id turn : String) (execution : Option Observation)
      (deliveries : List Observation)
  | completeAgentTurn (id turn : String)
  | completeAgentTurnWithEvent (id turn : String) (input : EnqueueAgentEvent)
      (partialOutput : List Observation)
  | reconcileAgentDispatch (id turn : String) (deliveries : List Observation)
  | markAgentDispatchUnknown (id : String)
  | rejectAgentDispatch (previous : AgentWorkItem) (owned : Bool) (retryEvent : Option Nat)
      (refusal : AgentDispatchRefusal)
  | observeAgentNativeTurn (thread turn connection payload : String) (account : Option String)
      (owned : String → Bool)
  | beginAgentCapacityRetry (work : String) (event : Nat) (due : Int) (pending : Bool)
  | cancelAgentCapacityRetry (work : String) (event : Nat)
  | cancelRevertedAgentCapacityRetries (thread : String) (owned : String → Bool)
  | enqueueAgentEvent (input : EnqueueAgentEvent) (observation : Bool) (busy : Option StoreError)
  | disposeAgentEvent (id : Nat) (disposition : AgentDisposition) (note : String)
      (nextCheckAtMicros : Option Int)
  | holdAgentUnsentInput (work reason : String)
  | retryAgentInput (work thread : String) (id : Nat) (busy : Option StoreError)

/-- What a call leaves when it commits. -/
def perform (host : PayloadHost) (store : AgentStore) (now : Int) :
    AgentCall → Except AgentFailure AgentStore
  | .createAgentWork item manager => createAgentWork store item manager
  | .setAgentWorkStatus id status next => setAgentWorkStatus host store id status next now
  | .beginAgentThreadCreation id => beginAgentThreadCreation store id now
  | .acknowledgeAgentThreadCreation id thread =>
    acknowledgeAgentThreadCreation store id thread now
  | .beginAgentDispatchWithInput id eventIds instruction pending stale =>
    beginAgentDispatchWithInput host store id eventIds instruction pending stale now
  | .acknowledgeAgentDispatch id turn execution deliveries =>
    acknowledgeAgentDispatch host store id turn execution deliveries now
  | .completeAgentTurn id turn => completeAgentTurn store id turn now
  | .completeAgentTurnWithEvent id turn input partialOutput =>
    completeAgentTurnWithEvent host store id turn input partialOutput now
  | .reconcileAgentDispatch id turn deliveries =>
    reconcileAgentDispatch host store id turn deliveries now
  | .markAgentDispatchUnknown id => markAgentDispatchUnknown store id now
  | .rejectAgentDispatch previous owned retryEvent refusal =>
    rejectAgentDispatch host store previous owned retryEvent refusal now
  | .observeAgentNativeTurn thread turn connection payload account owned =>
    (observeAgentNativeTurn host store thread turn connection payload account owned now).map
      (·.2)
  | .beginAgentCapacityRetry work event due pending =>
    beginAgentCapacityRetry host store work event due pending now
  | .cancelAgentCapacityRetry work event => cancelAgentCapacityRetry host store work event now
  | .cancelRevertedAgentCapacityRetries thread owned =>
    cancelRevertedAgentCapacityRetries host store thread owned now
  | .enqueueAgentEvent input observation busy => insertEvent store input observation busy now
  | .disposeAgentEvent id disposition note next =>
    disposeAgentEvent host store id disposition note next now
  | .holdAgentUnsentInput work reason => holdAgentUnsentInput host store work reason now
  | .retryAgentInput work thread id busy => retryAgentInput host store work thread id busy now

/-- A call and the clock it reads; a call that fails changes nothing. -/
def afterCall (host : PayloadHost) (store : AgentStore) (event : AgentCall × Int) : AgentStore :=
  match perform host store event.2 event.1 with
  | .ok after => after
  | .error _ => store

theorem afterCall_cases (host : PayloadHost) (store : AgentStore) (call : AgentCall) (now : Int) :
    perform host store now call = .ok (afterCall host store (call, now)) ∨
      ((∃ failure, perform host store now call = .error failure) ∧
        afterCall host store (call, now) = store) := by
  unfold afterCall
  split
  · rename_i accepted
    exact .inl accepted
  · rename_i failure refused
    exact .inr ⟨⟨failure, refused⟩, rfl⟩

theorem afterCall_of_ok {host : PayloadHost} {store after : AgentStore} {call : AgentCall}
    {now : Int} (accepted : perform host store now call = .ok after) :
    afterCall host store (call, now) = after := by
  unfold afterCall
  rw [accepted]

/-- The state after a run of calls from an empty store. -/
def stateAfter (host : PayloadHost) (events : List (AgentCall × Int)) : AgentStore :=
  events.foldl (afterCall host) .empty

@[simp] theorem stateAfter_snoc (host : PayloadHost) (events : List (AgentCall × Int))
    (event : AgentCall × Int) :
    stateAfter host (events ++ [event]) = afterCall host (stateAfter host events) event := by
  unfold stateAfter
  rw [List.foldl_append, List.foldl_cons, List.foldl_nil]

/-- What every accepted call that meets `good` keeps, every run of such calls keeps. -/
theorem stateAfter_invariant {host : PayloadHost} {Inv : AgentStore → Prop}
    (good : AgentStore → AgentCall → Prop) (start : Inv .empty)
    (preserved : ∀ store call now after, Inv store → good store call →
      perform host store now call = .ok after → Inv after)
    (events : List (AgentCall × Int))
    (all : ∀ before call now, before ++ [(call, now)] <+: events →
      good (stateAfter host before) call) : Inv (stateAfter host events) := by
  induction events using List.reverseRecOn with
  | nil => exact start
  | append_singleton events event ih =>
    have held : Inv (stateAfter host events) := by
      apply ih
      intro before call now earlier
      exact all before call now (earlier.trans (List.prefix_append _ _))
    rw [stateAfter_snoc]
    obtain ⟨call, now⟩ := event
    rcases afterCall_cases host (stateAfter host events) call now with accepted | ⟨_, same⟩
    · exact preserved _ _ _ _ held (all events call now (List.prefix_refl _)) accepted
    · rwa [same]

/-- What holds of each call of a run and the state it finds, call by call. -/
theorem good_of_earlier {host : PayloadHost} (good : AgentStore → AgentCall → Prop)
    {events : List (AgentCall × Int)}
    (each : ∀ i, (h : i < events.length) →
      good (stateAfter host (events.take i)) (events.get ⟨i, h⟩).1)
    (before : List (AgentCall × Int)) (call : AgentCall) (now : Int)
    (earlier : before ++ [(call, now)] <+: events) : good (stateAfter host before) call := by
  obtain ⟨later, rfl⟩ := earlier
  have here := each before.length (by simp)
  simpa using here

variable {host : PayloadHost} {store after : AgentStore}

theorem updateWork_ok {id : String} {change : AgentWorkItem → AgentWorkItem}
    (done : updateWork store id change = .ok after) :
    ∃ works, store.agentWorkItems.updateKey id change = some works ∧
      after = { store with agentWorkItems := works } := by
  unfold updateWork at done
  obtain ⟨works, updated, done⟩ := bind_ok done
  rw [orElse_eq_ok] at updated
  cases done
  exact ⟨works, updated, rfl⟩

theorem insertRow_ok {input : EnqueueAgentEvent} {now : Int} {disposal : Option Disposal}
    {delivery : Option Delivery} (done : insertRow store input now disposal delivery = .ok after) :
    ∃ events, store.agentInboxEvents.insert
        ⟨store.nextEventId, input.sourceEventId, input.workItemId, input.eventKind, input.payload,
          now, disposal, delivery⟩ = some events ∧
      after = { store with agentInboxEvents := events, nextEventId := store.nextEventId + 1 } := by
  unfold insertRow at done
  obtain ⟨_, _, done⟩ := bind_ok done
  obtain ⟨events, inserted, done⟩ := bind_ok done
  rw [orElse_eq_ok] at inserted
  cases done
  exact ⟨events, inserted, rfl⟩

theorem updateEvents_ok {selected : AgentInboxEvent → Bool}
    {change : AgentInboxEvent → AgentInboxEvent}
    (done : updateEvents store selected change = .ok after) :
    (∀ row ∈ store.agentInboxEvents.rows, selected row = true → row.disposal = none) ∧
    ∃ events, store.agentInboxEvents.updateWhere selected change = some events ∧
      after = { store with agentInboxEvents := events } := by
  unfold updateEvents at done
  obtain ⟨_, undisposed, done⟩ := bind_ok done
  obtain ⟨events, updated, done⟩ := bind_ok done
  rw [require_eq_ok] at undisposed
  rw [orElse_eq_ok] at updated
  cases done
  exact ⟨undisposed, events, updated, rfl⟩

theorem updateRetries_ok {selected : CapacityRetry → Bool}
    {change : CapacityRetry → CapacityRetry}
    (done : updateRetries host store selected change = .ok after) :
    (∀ row ∈ store.agentCapacityRetries.rows, selected row = true →
      capacityTransition host store row (change row) = true) ∧
    ∃ retries, store.agentCapacityRetries.updateWhere selected change = some retries ∧
      after = { store with agentCapacityRetries := retries } := by
  unfold updateRetries at done
  obtain ⟨_, passed, done⟩ := bind_ok done
  obtain ⟨retries, updated, done⟩ := bind_ok done
  rw [require_eq_ok] at passed
  rw [orElse_eq_ok] at updated
  cases done
  exact ⟨passed, retries, updated, rfl⟩

theorem scheduleRetry_ok {event : Nat} {work turn : String} {attempt due : Int}
    (done : scheduleRetry store event work turn attempt due = .ok after) :
    ∃ retries, store.agentCapacityRetries.insert
        ⟨event, work, turn, attempt, due, .pending, none⟩ = some retries ∧
      after = { store with agentCapacityRetries := retries } := by
  unfold scheduleRetry at done
  obtain ⟨retries, inserted, done⟩ := bind_ok done
  rw [orElse_eq_ok] at inserted
  cases done
  exact ⟨retries, inserted, rfl⟩

/-- A disposition with a note of its own is accepted, and so is the cancellation it causes. -/
theorem disposeEvents_accepted (host : PayloadHost) (store : AgentStore)
    (selected : AgentInboxEvent → Bool) (change : AgentInboxEvent → AgentInboxEvent)
    (undisposed : ∀ row, selected row = true → row.disposal = none)
    (checked : ∀ row, inboxEventTable.check row = true → inboxEventTable.check (change row) = true)
    (keeps : ∀ row, (change row).id = row.id ∧ (change row).sourceEventId = row.sourceEventId) :
    ∃ after, disposeEvents host store selected change = .ok after := by
  obtain ⟨events, updated⟩ := Table.updateWhere_of_unread store.agentInboxEvents
    selected change checked (fun row => (keeps row).1)
    (fun a b => by simp only [inboxEventTable, (keeps a).2])
    (fun a b => by simp only [inboxEventTable, (keeps b).2])
  have settled : updateEvents store selected change =
      .ok { store with agentInboxEvents := events } := by
    unfold updateEvents
    rw [require_of fun row _ hit => undisposed row hit, updated]
    rfl
  unfold disposeEvents
  rw [settled, ok_bind]
  generalize hits : (fun retry : CapacityRetry => decide (retry.state = .pending) &&
    store.agentInboxEvents.rows.any fun row => selected row && decide (row.id = retry.eventId)) = hit
  have pending : ∀ retry, hit retry = true → retry.state = .pending := by
    intro retry chosen
    subst hits
    exact of_decide_eq_true (Bool.and_eq_true_iff.mp chosen).1
  obtain ⟨retries, cancelled⟩ := Table.updateWhere_of_apart store.agentCapacityRetries
    hit cancelRetry
    (fun row member chosen => by
      have checked := store.agentCapacityRetries.checked row member
      simp only [capacityRetryTable, pending row chosen] at checked
      simpa [capacityRetryTable, cancelRetry] using checked)
    (fun _ => rfl)
    (fun a b clashes => by
      simp only [capacityRetryTable, Bool.and_eq_true, Bool.or_eq_true, decide_eq_true_eq]
        at clashes ⊢
      split at clashes <;> split at clashes <;> simp_all [cancelRetry])
  refine ⟨{ store with agentInboxEvents := events, agentCapacityRetries := retries }, ?_⟩
  unfold updateRetries
  rw [require_of fun row _ chosen => by
    simp [capacityTransition, pending row chosen, cancelRetry], ok_bind, cancelled]
  rfl

theorem dispose_checked {disposition : AgentDisposition} {note : String} {now : Int}
    (bound : lengthBetween 1 65536 note = true) (row : AgentInboxEvent)
    (checked : inboxEventTable.check row = true) :
    inboxEventTable.check (dispose disposition note now row) = true := by
  simp only [inboxEventTable, Bool.and_eq_true, decide_eq_true_eq] at checked
  obtain ⟨sized, _⟩ := checked
  simp only [inboxEventTable, dispose, Bool.and_eq_true, Option.all_some, decide_eq_true_eq]
  exact ⟨sized, bound, Int.le_max_left _ _⟩

theorem judgeWork_accepted (host : PayloadHost) (store : AgentStore) (id : String) :
    ∃ after, judgeWork host store id = .ok after := by
  unfold judgeWork
  split
  · exact ⟨store, rfl⟩
  · split
    · exact ⟨store, rfl⟩
    · refine disposeEvents_accepted _ _ _ _ (fun row hit => ?_)
        (fun row checked => dispose_checked (by decide +kernel) row checked) fun _ => ⟨rfl, rfl⟩
      simpa [pendingRetryEvent] using (Bool.and_eq_true_iff.mp hit).1

/-- A status that the row check admits is accepted. -/
theorem updateStatus_accepted (host : PayloadHost) (store : AgentStore) (id : String)
    (change : AgentWorkItem → AgentWorkItem)
    (checked : ∀ item, store.agentWorkItems.find? id = some item →
      workItemTable.check (change item) = true)
    (keeps : ∀ item, (change item).id = item.id ∧ (change item).codexThreadId = item.codexThreadId) :
    ∃ after, updateStatus host store id change = .ok after := by
  obtain ⟨works, updated⟩ := Table.updateWhere_of_apart store.agentWorkItems
    (fun row => decide (workItemTable.key row = id)) change
    (fun row member hit => checked row (Table.find?_eq_some_iff.mpr ⟨member, by simpa using hit⟩))
    (fun row => (keeps row).1)
    (fun a b clashes => by
      have thread : ∀ (hit : Bool) (row : AgentWorkItem),
          (if hit then change row else row).codexThreadId = row.codexThreadId := by
        intro hit row
        split
        · exact (keeps row).2
        · rfl
      have reads : ∀ c d : AgentWorkItem, c.codexThreadId = a.codexThreadId →
          d.codexThreadId = b.codexThreadId → workItemTable.clash c d = workItemTable.clash a b := by
        intro c d left right
        simp only [workItemTable, left, right]
      rwa [reads _ _ (thread _ a) (thread _ b)] at clashes)
  unfold updateStatus updateWork Table.updateKey
  rw [updated]
  exact judgeWork_accepted host { store with agentWorkItems := works } id

theorem disposeEvents_works {selected : AgentInboxEvent → Bool}
    {change : AgentInboxEvent → AgentInboxEvent}
    (done : disposeEvents host store selected change = .ok after) :
    after.agentWorkItems = store.agentWorkItems := by
  unfold disposeEvents at done
  obtain ⟨disposed, settled, done⟩ := bind_ok done
  obtain ⟨_, events, _, rfl⟩ := updateEvents_ok settled
  obtain ⟨_, retries, _, rfl⟩ := updateRetries_ok done
  rfl

/-- The columns that trigger `agent_capacity_identity_immutable` protects. -/
def retryIdentity (row : CapacityRetry) : Nat × String × String × Int × Int :=
  (row.eventId, row.workItemId, row.failedTurnId, row.attempt, row.dueAtMicros)

/-- The columns that fence a work item. -/
structure Lane where
  state : Core.AgentDispatchState
  thread : Option String
  turn : Option String
  deriving DecidableEq

def laneOf (item : AgentWorkItem) : Lane :=
  ⟨item.dispatchState, item.codexThreadId, item.activeTurnId⟩

/-- One statement of a call. Only calls with `moves` write lanes and open deliveries, only calls
with `takesBack` clear deliveries, and only calls with `links` name the turns of retries. -/
inductive Statement (host : PayloadHost) (moves takesBack links : Prop) : AgentStore → AgentStore → Prop
  | create {store after : AgentStore} {item : AgentWorkItem} {works : Table workItemTable}
      {managers : List String} (inserted : store.agentWorkItems.insert item = some works)
      (done : after = { store with agentWorkItems := works, agentManagers := managers }) :
      Statement host moves takesBack links store after
  | work {store after : AgentStore} {id : String} {change : AgentWorkItem → AgentWorkItem}
      (done : updateWork store id change = .ok after)
      (keeps : ∀ item, (change item).id = item.id ∧ laneOf (change item) = laneOf item) :
      Statement host moves takesBack links store after
  | lane {store after : AgentStore} {id : String} {change : AgentWorkItem → AgentWorkItem}
      (allowed : moves) (done : updateWork store id change = .ok after)
      (keeps : ∀ item, (change item).id = item.id) : Statement host moves takesBack links store after
  | delegate {store after : AgentStore} {delegations : List (String × Nat)}
      (done : after = { store with agentDelegations := delegations }) :
      Statement host moves takesBack links store after
  | record {store after : AgentStore} {input : EnqueueAgentEvent} {now : Int}
      {disposal : Option Disposal} {delivery : Option Delivery}
      (done : insertRow store input now disposal delivery = .ok after)
      (closed : disposal = none → delivery = none) : Statement host moves takesBack links store after
  | instruct {store after : AgentStore} {input : EnqueueAgentEvent} {now : Int}
      {delivery : Option Delivery} (allowed : moves)
      (done : insertRow store input now none delivery = .ok after) :
      Statement host moves takesBack links store after
  | deliver {store after : AgentStore} {selected : AgentInboxEvent → Bool} {delivery : Delivery}
      (allowed : moves)
      (done : updateEvents store selected (fun row => { row with delivery := some delivery }) =
        .ok after) : Statement host moves takesBack links store after
  | settle {store after : AgentStore} {selected : AgentInboxEvent → Bool}
      {disposition : AgentDisposition} {note : String} {now : Int}
      (done : updateEvents store selected (dispose disposition note now) = .ok after) :
      Statement host moves takesBack links store after
  | takeBack {store after : AgentStore} {id note : String} {now : Int} (allowed : takesBack)
      (done : updateEvents store (isClaim id)
        (fun row => { dispose .userDecision note now row with delivery := none }) = .ok after) :
      Statement host moves takesBack links store after
  | retry {store after : AgentStore} {selected : CapacityRetry → Bool}
      {change : CapacityRetry → CapacityRetry}
      (done : updateRetries host store selected change = .ok after)
      (keeps : ∀ row, retryIdentity (change row) = retryIdentity row ∧
        (change row).retryTurnId = row.retryTurnId) : Statement host moves takesBack links store after
  | submit {store after : AgentStore} {id turn : String} (allowed : links)
      (done : submitRetries host store id turn = .ok after) :
      Statement host moves takesBack links store after
  | schedule {store after : AgentStore} {event : Nat} {work turn : String} {attempt due : Int}
      (allowed : links) (done : scheduleRetry store event work turn attempt due = .ok after)
      (named : turn ≠ "") : Statement host moves takesBack links store after

/-- A chain of statements. -/
abbrev Statements (host : PayloadHost) (moves takesBack links : Prop) : AgentStore → AgentStore → Prop :=
  Relation.ReflTransGen (Statement host moves takesBack links)

variable {moving back linking : Prop} {middle : AgentStore} {now : Int} {id work turn note : String}

theorem Statement.one (step : Statement host moving back linking store after) :
    Statements host moving back linking store after :=
  .single step

theorem disposeEvents_statements {selected : AgentInboxEvent → Bool}
    {disposition : AgentDisposition}
    (done : disposeEvents host store selected (dispose disposition note now) = .ok after) :
    Statements host moving back linking store after := by
  unfold disposeEvents at done
  obtain ⟨disposed, settled, done⟩ := bind_ok done
  exact (Statement.settle settled).one.tail (.retry done fun _ => ⟨rfl, rfl⟩)

theorem judgeWork_statements (done : judgeWork host store id = .ok after) :
    Statements host moving back linking store after := by
  unfold judgeWork at done
  split at done
  · cases done
    exact .refl
  · split at done
    · cases done
      exact .refl
    · exact disposeEvents_statements done

theorem updateStatus_statements {change : AgentWorkItem → AgentWorkItem}
    (done : updateStatus host store id change = .ok after)
    (keeps : ∀ item, (change item).id = item.id ∧ laneOf (change item) = laneOf item) :
    Statements host moving back linking store after := by
  unfold updateStatus at done
  obtain ⟨updated, written, done⟩ := bind_ok done
  exact .head (.work written keeps) (judgeWork_statements done)

/-- A status that goes with a move. -/
theorem judgeLane_statements {change : AgentWorkItem → AgentWorkItem}
    (done : updateStatus host store id change = .ok after)
    (keeps : ∀ item, (change item).id = item.id) : Statements host True back linking store after := by
  unfold updateStatus at done
  obtain ⟨updated, written, done⟩ := bind_ok done
  exact .head (.lane trivial written keeps) (judgeWork_statements done)

/-- A loop of chains is a chain. -/
theorem foldlM_statements {α : Type} {body : AgentStore → α → Except AgentFailure AgentStore}
    (round : ∀ before item after, body before item = .ok after →
      Statements host moving back linking before after) {items : List α}
    (looped : items.foldlM body store = .ok after) : Statements host moving back linking store after :=
  foldlM_ok_prefix (fun _ reached => Statements host moving back linking store reached)
    (fun _ _ _ _ held step => held.trans (round _ _ _ step)) .refl looped

theorem observe_statements {observation : Observation}
    (done : observe store observation now = .ok after) : Statements host moving back linking store after :=
  (Statement.record done nofun).one

theorem observeOnce_statements {observation : Observation}
    (done : observeOnce store observation now = .ok after) :
    Statements host moving back linking store after := by
  unfold observeOnce at done
  split at done
  · cases done
    exact .refl
  · exact observe_statements done

theorem observeEach_statements {observations : List Observation}
    (done : observeEach store observations now = .ok after) :
    Statements host moving back linking store after :=
  foldlM_statements (fun _ _ _ step => observeOnce_statements step) done

theorem cancelPendingWithNote_statements
    (done : cancelPendingWithNote host store work note now = .ok after) :
    Statements host moving back linking store after := by
  unfold cancelPendingWithNote at done
  obtain ⟨disposed, settled, done⟩ := bind_ok done
  exact (disposeEvents_statements settled).tail (.retry done fun _ => ⟨rfl, rfl⟩)

theorem deliverClaims_statements (done : deliverClaims store id turn = .ok after) :
    Statements host True back linking store after :=
  (Statement.deliver trivial done).one

theorem submitRetries_statements (done : submitRetries host store id turn = .ok after) :
    Statements host moving back True store after :=
  (Statement.submit trivial done).one

theorem insertEvent_statements {input : EnqueueAgentEvent} {observation : Bool}
    {busy : Option StoreError} (done : insertEvent store input observation busy now = .ok after) :
    Statements host moving back linking store after := by
  unfold insertEvent at done
  obtain ⟨_, _, done⟩ := bind_ok done
  obtain ⟨_, _, done⟩ := bind_ok done
  split at done
  · obtain ⟨_, _, done⟩ := bind_ok done
    cases done
    exact .refl
  · obtain ⟨_, _, done⟩ := bind_ok done
    split at done
    · cases done
    · exact (Statement.record done fun _ => rfl).one

theorem createAgentWork_statements {item : AgentWorkItem} {manager : Bool}
    (done : createAgentWork store item manager = .ok after) :
    Statements host moving back linking store after := by
  unfold createAgentWork at done
  obtain ⟨_, _, done⟩ := bind_ok done
  obtain ⟨_, _, done⟩ := bind_ok done
  obtain ⟨_, _, done⟩ := bind_ok done
  obtain ⟨_, _, done⟩ := bind_ok done
  obtain ⟨works, inserted, done⟩ := bind_ok done
  obtain ⟨_, _, done⟩ := bind_ok done
  rw [orElse_eq_ok] at inserted
  cases done
  exact (Statement.create inserted rfl).one

theorem beginAgentDispatchWithInput_statements {eventIds : List Nat} {instruction : Option String}
    {pending : Bool} {stale : Nat → Bool}
    (done : beginAgentDispatchWithInput host store id eventIds instruction pending stale now =
      .ok after) : Statements host True back linking store after := by
  unfold beginAgentDispatchWithInput at done
  obtain ⟨_, _, done⟩ := bind_ok done
  obtain ⟨_, _, done⟩ := bind_ok done
  obtain ⟨item, _, done⟩ := bind_ok done
  obtain ⟨_, _, done⟩ := bind_ok done
  obtain ⟨cancelled, cancel, done⟩ := bind_ok done
  obtain ⟨dispatching, fence, done⟩ := bind_ok done
  obtain ⟨_, _, done⟩ := bind_ok done
  obtain ⟨claimed, claim, done⟩ := bind_ok done
  obtain ⟨reopened, reopen, done⟩ := bind_ok done
  have fenced : Statements host True back linking store dispatching :=
    (cancelPendingWithNote_statements cancel).tail (.lane trivial fence fun _ => rfl)
  have claiming : Statements host True back linking store claimed := by
    refine fenced.trans (foldlM_statements (fun before event after step => ?_) claim)
    unfold claimEvent at step
    obtain ⟨_, _, step⟩ := bind_ok step
    exact (Statement.deliver trivial step).one
  have reopening : Statements host True back linking store reopened := by
    unfold reopenWork at reopen
    split at reopen
    · exact claiming.trans (updateStatus_statements reopen fun _ => ⟨rfl, rfl⟩)
    · cases reopen
      exact claiming
  split at done
  · cases done
    exact reopening
  · unfold saveInstruction at done
    obtain ⟨_, _, done⟩ := bind_ok done
    obtain ⟨saved, save, done⟩ := bind_ok done
    cases done
    refine (reopening.tail (.instruct trivial save)).trans ?_
    unfold beginDelegation
    split
    · exact (Statement.delegate rfl).one
    · exact .refl

/-- A confirmed dispatch submits the claimed retries last. -/
theorem acknowledgeAgentDispatch_submits {execution : Option Observation}
    {deliveries : List Observation}
    (done : acknowledgeAgentDispatch host store id turn execution deliveries now = .ok after) :
    ∃ accepted, Statements host True back linking store accepted ∧
      submitRetries host accepted id turn = .ok after := by
  unfold acknowledgeAgentDispatch at done
  obtain ⟨_, _, done⟩ := bind_ok done
  obtain ⟨item, _, done⟩ := bind_ok done
  obtain ⟨_, _, done⟩ := bind_ok done
  obtain ⟨_, _, done⟩ := bind_ok done
  obtain ⟨executed, execute, done⟩ := bind_ok done
  obtain ⟨running, run, done⟩ := bind_ok done
  obtain ⟨observed, observing, done⟩ := bind_ok done
  obtain ⟨delivered, deliver, done⟩ := bind_ok done
  obtain ⟨accepted, accept, done⟩ := bind_ok done
  have started : Statements host True back linking store running :=
    (foldlM_statements (fun _ _ _ step => observe_statements step) execute).tail
      (.lane trivial run fun _ => rfl)
  exact ⟨accepted, ((started.trans (observeEach_statements observing)).trans
    (deliverClaims_statements deliver)).trans (disposeEvents_statements accept), done⟩

theorem acknowledgeAgentDispatch_statements {execution : Option Observation}
    {deliveries : List Observation}
    (done : acknowledgeAgentDispatch host store id turn execution deliveries now = .ok after) :
    Statements host True back True store after := by
  obtain ⟨accepted, before, submit⟩ := acknowledgeAgentDispatch_submits done
  exact before.trans (submitRetries_statements submit)

theorem recordOnce_statements {input : EnqueueAgentEvent} {recorded : AgentStore × AgentInboxEvent}
    (done : recordOnce store input now = .ok recorded) :
    Statements host moving back linking store recorded.1 := by
  unfold recordOnce at done
  split at done
  · obtain ⟨_, _, done⟩ := bind_ok done
    cases done
    exact .refl
  · obtain ⟨inserted, insert, done⟩ := bind_ok done
    obtain ⟨event, _, done⟩ := bind_ok done
    cases done
    exact (Statement.record insert fun _ => rfl).one

theorem activeTurn_named {item : AgentWorkItem} (checked : workItemTable.check item = true)
    (active : item.activeTurnId = some turn) : turn ≠ "" := by
  intro empty
  subst empty
  simp [workItemTable, active, boundedIdentityColumn] at checked

theorem readWork_ok {item : AgentWorkItem} (read : readWork store id = .ok item) :
    store.agentWorkItems.find? id = some item := by
  unfold readWork at read
  rwa [orElse_eq_ok] at read

theorem terminalInput_counts {item : AgentWorkItem} {input terminal : EnqueueAgentEvent}
    {scheduled : Int × Int}
    (done : terminalInput host store item turn input now = .ok (terminal, some scheduled)) :
    nextRetry store item.id turn now = .ok (some scheduled) := by
  unfold terminalInput at done
  split at done
  · obtain ⟨next, counted, done⟩ := bind_ok done
    split at done
    · cases done
    · dsimp only at done
      split at done
      · cases done
        exact counted
      · cases done
  · cases done

/-- A completion schedules its retry last, and the attempt is counted before anything is written. -/
theorem completeAgentTurnWithEvent_schedules {input : EnqueueAgentEvent}
    {partialOutput : List Observation}
    (done : completeAgentTurnWithEvent host store id turn input partialOutput now = .ok after) :
    turn ≠ "" ∧ ∃ handled, Statements host True back linking store handled ∧
      (after = handled ∨ ∃ event attempt due,
        nextRetry store id turn now = .ok (some (attempt, due)) ∧
          scheduleRetry handled event id turn attempt due = .ok after) := by
  unfold completeAgentTurnWithEvent at done
  obtain ⟨_, _, done⟩ := bind_ok done
  obtain ⟨_, _, done⟩ := bind_ok done
  obtain ⟨_, _, done⟩ := bind_ok done
  obtain ⟨item, read, done⟩ := bind_ok done
  obtain ⟨_, active, done⟩ := bind_ok done
  obtain ⟨⟨terminal, retry⟩, prepare, done⟩ := bind_ok done
  obtain ⟨retained, retain, done⟩ := bind_ok done
  obtain ⟨⟨recorded, event⟩, record, done⟩ := bind_ok done
  obtain ⟨idle, idling, done⟩ := bind_ok done
  obtain ⟨resolved, resolve, done⟩ := bind_ok done
  obtain ⟨handled, handle, done⟩ := bind_ok done
  have found := readWork_ok read
  have same : item.id = id := Table.key_of_find? found
  rw [require_eq_ok] at active
  have recording : Statements host True back linking store recorded :=
    (observeEach_statements retain).trans (recordOnce_statements record)
  have handling : Statements host True back linking store handled :=
    ((recording.tail (.lane trivial idling fun _ => rfl)).trans
      (disposeEvents_statements resolve)).trans (disposeEvents_statements handle)
  refine ⟨activeTurn_named (Table.check_of_find? found) active.2, handled, handling, ?_⟩
  cases retry with
  | none =>
    cases done
    exact .inl rfl
  | some scheduled =>
    have counted := terminalInput_counts prepare
    rw [same] at counted
    exact .inr ⟨event.id, scheduled.1, scheduled.2, counted, done⟩

theorem completeAgentTurnWithEvent_statements {input : EnqueueAgentEvent}
    {partialOutput : List Observation}
    (done : completeAgentTurnWithEvent host store id turn input partialOutput now = .ok after) :
    Statements host True back True store after := by
  obtain ⟨named, handled, before, rfl | ⟨event, attempt, due, _, schedule⟩⟩ :=
    completeAgentTurnWithEvent_schedules done
  · exact before
  · exact before.tail (.schedule trivial schedule named)

theorem reconcileAgentDispatch_submits {deliveries : List Observation}
    (done : reconcileAgentDispatch host store id turn deliveries now = .ok after) :
    ∃ delivered, Statements host True back linking store delivered ∧
      submitRetries host delivered id turn = .ok after := by
  unfold reconcileAgentDispatch at done
  obtain ⟨_, _, done⟩ := bind_ok done
  obtain ⟨item, _, done⟩ := bind_ok done
  obtain ⟨_, _, done⟩ := bind_ok done
  obtain ⟨_, _, done⟩ := bind_ok done
  obtain ⟨running, run, done⟩ := bind_ok done
  obtain ⟨observed, observing, done⟩ := bind_ok done
  obtain ⟨delivered, deliver, done⟩ := bind_ok done
  have started : Statements host True back linking store running :=
    (Statement.lane trivial run fun _ => rfl).one
  exact ⟨delivered, (started.trans (observeEach_statements observing)).trans
    (deliverClaims_statements deliver), done⟩

theorem reconcileAgentDispatch_statements {deliveries : List Observation}
    (done : reconcileAgentDispatch host store id turn deliveries now = .ok after) :
    Statements host True back True store after := by
  obtain ⟨delivered, before, submit⟩ := reconcileAgentDispatch_submits done
  exact before.trans (submitRetries_statements submit)

theorem rejectRetry_statements {previous : AgentWorkItem} {event : Nat}
    {refusal : AgentDispatchRefusal}
    (done : rejectRetry host store previous event refusal now = .ok after) :
    Statements host True back linking store after := by
  unfold rejectRetry at done
  obtain ⟨retry, _, done⟩ := bind_ok done
  obtain ⟨recorded, record, done⟩ := bind_ok done
  obtain ⟨cancelled, cancel, done⟩ := bind_ok done
  obtain ⟨restored, restore, done⟩ := bind_ok done
  have restoring : Statements host True back linking store restored :=
    ((observe_statements record).tail (.retry cancel fun _ => ⟨rfl, rfl⟩)).tail (.deliver trivial restore)
  split at done
  · obtain ⟨original, _, done⟩ := bind_ok done
    obtain ⟨payload, _, done⟩ := bind_ok done
    exact restoring.tail (.record done fun _ => rfl)
  · cases done
    exact restoring

theorem rejectClaims_statements {previous : AgentWorkItem} {refusal : AgentDispatchRefusal}
    (allowed : back) (done : rejectClaims host store previous refusal now = .ok after) :
    Statements host moving back linking store after := by
  unfold rejectClaims at done
  obtain ⟨_, _, done⟩ := bind_ok done
  unfold disposeEvents at done
  obtain ⟨taken, take, done⟩ := bind_ok done
  exact (Statement.takeBack allowed take).one.tail (.retry done fun _ => ⟨rfl, rfl⟩)

theorem rejectAgentDispatch_statements {previous : AgentWorkItem} {owned : Bool}
    {retryEvent : Option Nat} {refusal : AgentDispatchRefusal}
    (allowed : retryEvent = none → back)
    (done : rejectAgentDispatch host store previous owned retryEvent refusal now = .ok after) :
    Statements host True back linking store after := by
  unfold rejectAgentDispatch at done
  obtain ⟨_, _, done⟩ := bind_ok done
  obtain ⟨_, _, done⟩ := bind_ok done
  obtain ⟨settled, settle, done⟩ := bind_ok done
  have settling : Statements host True back linking store settled := by
    unfold settleRefusal at settle
    cases retryEvent with
    | some event => exact rejectRetry_statements settle
    | none => exact rejectClaims_statements (allowed rfl) settle
  exact settling.trans (judgeLane_statements done fun _ => rfl)

theorem observeAgentNativeTurn_statements {thread connection payload : String}
    {account : Option String} {owned : String → Bool} {observed : Bool × AgentStore}
    (done : observeAgentNativeTurn host store thread turn connection payload account owned now =
      .ok observed) : Statements host True back linking store observed.2 := by
  unfold observeAgentNativeTurn at done
  obtain ⟨_, _, done⟩ := bind_ok done
  split at done
  · cases done
    exact .refl
  · dsimp only at done
    split at done
    · cases done
      exact .refl
    · obtain ⟨recorded, record, done⟩ := bind_ok done
      split at done
      · obtain ⟨cancelled, cancel, done⟩ := bind_ok done
        obtain ⟨running, run, done⟩ := bind_ok done
        cases done
        exact ((observe_statements record).trans (cancelPendingWithNote_statements cancel)).tail
          (.lane trivial run fun _ => rfl)
      · cases done
        exact observe_statements record

theorem beginAgentCapacityRetry_statements {event : Nat} {due : Int} {pending : Bool}
    (done : beginAgentCapacityRetry host store work event due pending now = .ok after) :
    Statements host True back linking store after := by
  unfold beginAgentCapacityRetry at done
  obtain ⟨item, _, done⟩ := bind_ok done
  obtain ⟨_, _, done⟩ := bind_ok done
  obtain ⟨retry, _, done⟩ := bind_ok done
  obtain ⟨claimed, claim, done⟩ := bind_ok done
  obtain ⟨disposed, settle, done⟩ := bind_ok done
  obtain ⟨dispatching, fence, done⟩ := bind_ok done
  have claiming : Statements host True back linking store claimed :=
    (Statement.retry claim fun _ => ⟨rfl, rfl⟩).one
  exact ((claiming.trans (disposeEvents_statements settle)).tail (.lane trivial fence fun _ => rfl)).tail
    (.deliver trivial done)

theorem cancelAgentCapacityRetry_statements {event : Nat}
    (done : cancelAgentCapacityRetry host store work event now = .ok after) :
    Statements host moving back linking store after := by
  unfold cancelAgentCapacityRetry at done
  obtain ⟨_, _, done⟩ := bind_ok done
  obtain ⟨cancelled, cancel, done⟩ := bind_ok done
  obtain ⟨item, _, done⟩ := bind_ok done
  split at done
  · obtain ⟨original, _, done⟩ := bind_ok done
    obtain ⟨payload, _, done⟩ := bind_ok done
    exact (cancelPendingWithNote_statements cancel).tail (.record done fun _ => rfl)
  · cases done
    exact cancelPendingWithNote_statements cancel

theorem disposeAgentEvent_statements {event : Nat} {disposition : AgentDisposition}
    {next : Option Int}
    (done : disposeAgentEvent host store event disposition note next now = .ok after) :
    Statements host moving back linking store after := by
  unfold disposeAgentEvent at done
  obtain ⟨_, _, done⟩ := bind_ok done
  obtain ⟨_, _, done⟩ := bind_ok done
  obtain ⟨row, _, done⟩ := bind_ok done
  obtain ⟨_, _, done⟩ := bind_ok done
  obtain ⟨disposed, settle, done⟩ := bind_ok done
  obtain ⟨judged, judge, done⟩ := bind_ok done
  have judging : Statements host moving back linking store judged := by
    refine (disposeEvents_statements settle).trans ?_
    unfold judgeDisposed at judge
    split at judge
    · exact updateStatus_statements judge fun _ => ⟨rfl, rfl⟩
    · cases judge
      exact .refl
  split at done
  · cases done
    exact judging.tail (.delegate rfl)
  · cases done
    exact judging

theorem retryAgentInput_statements {thread : String} {event : Nat} {busy : Option StoreError}
    (done : retryAgentInput host store work thread event busy now = .ok after) :
    Statements host moving back linking store after := by
  unfold retryAgentInput at done
  obtain ⟨owner, _, done⟩ := bind_ok done
  obtain ⟨row, _, done⟩ := bind_ok done
  obtain ⟨_, _, done⟩ := bind_ok done
  dsimp only at done
  split at done
  · cases done
    exact .refl
  · obtain ⟨_, _, done⟩ := bind_ok done
    obtain ⟨queued, queue, done⟩ := bind_ok done
    split at done
    · exact (insertEvent_statements queue).trans (updateStatus_statements done fun _ => ⟨rfl, rfl⟩)
    · cases done
      exact insertEvent_statements queue

theorem perform_observe {thread connection payload : String} {account : Option String}
    {owned : String → Bool}
    (done : perform host store now (.observeAgentNativeTurn thread turn connection payload account
      owned) = .ok after) :
    ∃ observed, observeAgentNativeTurn host store thread turn connection payload account owned now =
      .ok observed ∧ observed.2 = after := by
  cases result : observeAgentNativeTurn host store thread turn connection payload account owned
      now with
  | error failure =>
    simp only [perform, result, Except.map] at done
    cases done
  | ok observed =>
    simp only [perform, result, Except.map] at done
    cases done
    exact ⟨observed, rfl, rfl⟩

/-- The calls of the dispatch protocol. -/
def AgentCall.moves : AgentCall → Prop
  | .beginAgentThreadCreation _ | .acknowledgeAgentThreadCreation _ _
  | .beginAgentDispatchWithInput _ _ _ _ _ | .acknowledgeAgentDispatch _ _ _ _
  | .completeAgentTurn _ _ | .completeAgentTurnWithEvent _ _ _ _
  | .reconcileAgentDispatch _ _ _ | .markAgentDispatchUnknown _
  | .rejectAgentDispatch _ _ _ _ | .observeAgentNativeTurn _ _ _ _ _ _
  | .beginAgentCapacityRetry _ _ _ _ => True
  | _ => False

/-- The calls that clear the delivery of what they dispose. -/
def AgentCall.takesBack : AgentCall → Prop
  | .rejectAgentDispatch _ _ retryEvent _ => retryEvent = none
  | _ => False

/-- The calls that record capacity failures and submit retries. -/
def AgentCall.links : AgentCall → Prop
  | .acknowledgeAgentDispatch _ _ _ _ | .reconcileAgentDispatch _ _ _
  | .completeAgentTurnWithEvent _ _ _ _ => True
  | _ => False

/-- Every accepted call is a chain of statements. -/
theorem perform_statements {call : AgentCall} (done : perform host store now call = .ok after) :
    Statements host call.moves call.takesBack call.links store after := by
  cases call with
  | createAgentWork item manager => exact createAgentWork_statements done
  | setAgentWorkStatus id status next =>
    unfold perform setAgentWorkStatus at done
    obtain ⟨_, _, done⟩ := bind_ok done
    obtain ⟨_, _, done⟩ := bind_ok done
    exact updateStatus_statements done fun _ => ⟨rfl, rfl⟩
  | beginAgentThreadCreation id =>
    unfold perform beginAgentThreadCreation at done
    obtain ⟨item, _, done⟩ := bind_ok done
    obtain ⟨_, _, done⟩ := bind_ok done
    exact (Statement.lane trivial done fun _ => rfl).one
  | acknowledgeAgentThreadCreation id thread =>
    unfold perform acknowledgeAgentThreadCreation at done
    obtain ⟨_, _, done⟩ := bind_ok done
    obtain ⟨item, _, done⟩ := bind_ok done
    obtain ⟨_, _, done⟩ := bind_ok done
    exact (Statement.lane trivial done fun _ => rfl).one
  | beginAgentDispatchWithInput id eventIds instruction pending stale =>
    exact beginAgentDispatchWithInput_statements done
  | acknowledgeAgentDispatch id turn execution deliveries =>
    exact acknowledgeAgentDispatch_statements done
  | completeAgentTurn id turn =>
    unfold perform completeAgentTurn at done
    obtain ⟨item, _, done⟩ := bind_ok done
    obtain ⟨_, _, done⟩ := bind_ok done
    exact (Statement.lane trivial done fun _ => rfl).one
  | completeAgentTurnWithEvent id turn input partialOutput =>
    exact completeAgentTurnWithEvent_statements done
  | reconcileAgentDispatch id turn deliveries => exact reconcileAgentDispatch_statements done
  | markAgentDispatchUnknown id =>
    unfold perform markAgentDispatchUnknown at done
    obtain ⟨item, _, done⟩ := bind_ok done
    obtain ⟨_, _, done⟩ := bind_ok done
    exact (Statement.lane trivial done fun _ => rfl).one
  | rejectAgentDispatch previous owned retryEvent refusal =>
    exact rejectAgentDispatch_statements id done
  | observeAgentNativeTurn thread turn connection payload account owned =>
    obtain ⟨result, observed, rfl⟩ := perform_observe done
    exact observeAgentNativeTurn_statements observed
  | beginAgentCapacityRetry work event due pending =>
    exact beginAgentCapacityRetry_statements done
  | cancelAgentCapacityRetry work event => exact cancelAgentCapacityRetry_statements done
  | cancelRevertedAgentCapacityRetries thread owned =>
    unfold perform cancelRevertedAgentCapacityRetries at done
    obtain ⟨_, _, done⟩ := bind_ok done
    exact foldlM_statements (fun _ _ _ step => cancelPendingWithNote_statements step) done
  | enqueueAgentEvent input observation busy => exact insertEvent_statements done
  | disposeAgentEvent id disposition note next => exact disposeAgentEvent_statements done
  | holdAgentUnsentInput work reason =>
    unfold perform holdAgentUnsentInput at done
    obtain ⟨_, _, done⟩ := bind_ok done
    exact disposeEvents_statements done
  | retryAgentInput work thread id busy => exact retryAgentInput_statements done

end Decodex.Source.Store.AgentDispatch
