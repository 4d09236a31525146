import Decodex.Source.Store.AgentMoves

/-!
# No call trips over the capacity triggers

`agent_inbox_disposition_once` and `agent_capacity_transition` abort the statement that fires
them. Every call selects what it updates by the very columns that the triggers read, so neither
of them ever aborts a call. A refused retry is the one case where a trigger reads a payload: the
receipt that the call has just recorded.
-/
namespace Decodex.Guarantees.RetryTriggers

open Decodex.Library Decodex.Source.Core Decodex.Source.Store
open Decodex.Source.Store.AgentDispatch

variable {host : PayloadHost} {store : AgentStore} {now : Int} {id work turn note : String}
  {α β : Type}

/-- `json_extract` reads back what the refusal receipt holds. -/
def ReadsBack (host : PayloadHost) : Prop :=
  ∀ event reason, host.retryEventId (host.rejection event reason) = some event ∧
    host.reason (host.rejection event reason) = some reason

/-- The call is not aborted by a trigger over inbox events or retries. -/
def Unraised (result : Except AgentFailure α) : Prop :=
  ∀ message, result = .error (.raised message) → message = "manager must be a goal"

theorem unraised_ok (value : α) : Unraised (.ok value) := nofun

theorem unraised_bind {first : Except AgentFailure α} {next : α → Except AgentFailure β}
    (here : Unraised first) (rest : ∀ value, first = .ok value → Unraised (next value)) :
    Unraised (first >>= next) := by
  cases first with
  | error failure => exact fun message raised => here message (by cases raised; rfl)
  | ok value => exact rest value rfl

theorem refused_plain (error : StoreError) :
    ∀ message, AgentFailure.refused error ≠ .raised message :=
  nofun

theorem constraint_plain : ∀ message, AgentFailure.constraint ≠ .raised message :=
  nofun

theorem unraised_require {condition : Prop} [Decidable condition] {failure : AgentFailure}
    (plain : ∀ message, failure ≠ .raised message) : Unraised (require condition failure) := by
  intro message raised
  unfold require at raised
  split at raised
  · cases raised
  · exact absurd (Except.error.inj raised) (plain message)

theorem unraised_orElse {failure : AgentFailure} {found : Option α}
    (plain : ∀ message, failure ≠ .raised message) : Unraised (orElse failure found) := by
  intro message raised
  cases found with
  | none => exact absurd (Except.error.inj raised) (plain message)
  | some value => cases raised

theorem unraised_foldlM {body : α → β → Except AgentFailure α} {items : List β} {start : α}
    (round : ∀ before item, Unraised (body before item)) : Unraised (items.foldlM body start) := by
  intro message raised
  exact foldlM_error_prefix (fun failure => ∀ message, failure = .raised message →
    message = "manager must be a goal") (fun _ _ => True) (fun _ _ _ _ _ _ => trivial)
    (fun _ before item error _ failed message same => round before item message
      (by rw [failed, same])) trivial raised message rfl

theorem bounded_unraised (value : String) (max : Nat) : Unraised (bounded value max) :=
  unraised_require (refused_plain _)

theorem readWork_unraised (store : AgentStore) (id : String) : Unraised (readWork store id) :=
  unraised_orElse (refused_plain _)

theorem readEvent_unraised (store : AgentStore) (id : Nat) : Unraised (readEvent store id) :=
  unraised_orElse (refused_plain _)

theorem updateWork_unraised (store : AgentStore) (id : String)
    (change : AgentWorkItem → AgentWorkItem) : Unraised (updateWork store id change) :=
  unraised_bind (unraised_orElse constraint_plain) fun _ _ => unraised_ok _

theorem insertRow_unraised (store : AgentStore) (input : EnqueueAgentEvent) (now : Int)
    (disposal : Option Disposal) (delivery : Option Delivery) :
    Unraised (insertRow store input now disposal delivery) :=
  unraised_bind (unraised_require constraint_plain) fun _ _ =>
    unraised_bind (unraised_orElse constraint_plain) fun _ _ => unraised_ok _

/-- A statement over undisposed events passes `agent_inbox_disposition_once`. -/
theorem updateEvents_unraised {selected : AgentInboxEvent → Bool}
    {change : AgentInboxEvent → AgentInboxEvent}
    (undisposed : ∀ row ∈ store.agentInboxEvents.rows, selected row = true → row.disposal = none) :
    Unraised (updateEvents store selected change) := by
  unfold updateEvents
  rw [require_of undisposed, ok_bind]
  exact unraised_bind (unraised_orElse constraint_plain) fun _ _ => unraised_ok _

/-- A statement over retries that may move passes `agent_capacity_transition`. -/
theorem updateRetries_unraised {selected : CapacityRetry → Bool}
    {change : CapacityRetry → CapacityRetry}
    (passes : ∀ row ∈ store.agentCapacityRetries.rows, selected row = true →
      capacityTransition host store row (change row) = true) :
    Unraised (updateRetries host store selected change) := by
  unfold updateRetries
  rw [require_of passes, ok_bind]
  exact unraised_bind (unraised_orElse constraint_plain) fun _ _ => unraised_ok _

/-- A pending retry may always be cancelled. -/
theorem cancel_passes {row : CapacityRetry} (pending : row.state = .pending) :
    capacityTransition host store row (cancelRetry row) = true := by
  simp [capacityTransition, cancelRetry, pending]

theorem disposeEvents_unraised {selected : AgentInboxEvent → Bool}
    {change : AgentInboxEvent → AgentInboxEvent}
    (undisposed : ∀ row ∈ store.agentInboxEvents.rows, selected row = true → row.disposal = none) :
    Unraised (disposeEvents host store selected change) := by
  apply unraised_bind (updateEvents_unraised undisposed)
  intro disposed _
  apply updateRetries_unraised
  intro row _ chosen
  simp only [Bool.and_eq_true, decide_eq_true_eq] at chosen
  exact cancel_passes chosen.1

theorem judgeWork_unraised (host : PayloadHost) (store : AgentStore) (id : String) :
    Unraised (judgeWork host store id) := by
  unfold judgeWork
  split
  · exact unraised_ok _
  · split
    · exact unraised_ok _
    · apply disposeEvents_unraised
      intro row _ chosen
      simpa [pendingRetryEvent] using (Bool.and_eq_true_iff.mp chosen).1

theorem updateStatus_unraised (host : PayloadHost) (store : AgentStore) (id : String)
    (change : AgentWorkItem → AgentWorkItem) : Unraised (updateStatus host store id change) :=
  unraised_bind (updateWork_unraised store id change) fun _ _ => judgeWork_unraised host _ id

theorem observe_unraised (store : AgentStore) (observation : Observation) (now : Int) :
    Unraised (observe store observation now) :=
  insertRow_unraised store _ now _ _

theorem observeEach_unraised (store : AgentStore) (observations : List Observation) (now : Int) :
    Unraised (observeEach store observations now) := by
  apply unraised_foldlM
  intro before observation
  unfold observeOnce
  split
  · exact unraised_ok _
  · exact observe_unraised before observation now

theorem cancelPendingWithNote_unraised (host : PayloadHost) (store : AgentStore)
    (work note : String) (now : Int) :
    Unraised (cancelPendingWithNote host store work note now) := by
  apply unraised_bind
  · apply disposeEvents_unraised
    intro row _ chosen
    simpa [pendingRetryEvent] using (Bool.and_eq_true_iff.mp chosen).1
  · intro disposed _
    apply updateRetries_unraised
    intro row _ chosen
    simp only [Bool.and_eq_true, decide_eq_true_eq] at chosen
    exact cancel_passes chosen.2

theorem deliverClaims_unraised (store : AgentStore) (id turn : String) :
    Unraised (deliverClaims store id turn) := by
  apply updateEvents_unraised
  intro row _ chosen
  simpa using (Bool.and_eq_true_iff.mp chosen).2

theorem submitRetries_unraised (host : PayloadHost) (store : AgentStore) (id turn : String) :
    Unraised (submitRetries host store id turn) := by
  apply updateRetries_unraised
  intro row _ chosen
  simp only [Bool.and_eq_true, decide_eq_true_eq] at chosen
  simp [capacityTransition, chosen.2]

theorem insertEvent_unraised (store : AgentStore) (input : EnqueueAgentEvent) (observation : Bool)
    (busy : Option StoreError) (now : Int) :
    Unraised (insertEvent store input observation busy now) := by
  apply unraised_bind (bounded_unraised _ _)
  intro _ _
  apply unraised_bind (bounded_unraised _ _)
  intro _ _
  split
  · exact unraised_bind (unraised_require (refused_plain _)) fun _ _ => unraised_ok _
  · apply unraised_bind (unraised_require (refused_plain _))
    intro _ _
    split
    · exact fun _ raised => by cases raised
    · exact insertRow_unraised store _ now _ _

theorem beginAgentDispatchWithInput_unraised (eventIds : List Nat) (instruction : Option String)
    (pending : Bool) (stale : Nat → Bool) :
    Unraised (beginAgentDispatchWithInput host store id eventIds instruction pending stale now) := by
  apply unraised_bind (unraised_require (refused_plain _))
  intro _ _
  apply unraised_bind (unraised_require (refused_plain _))
  intro _ _
  apply unraised_bind (readWork_unraised _ _)
  intro item _
  apply unraised_bind (unraised_require (refused_plain _))
  intro _ _
  apply unraised_bind (cancelPendingWithNote_unraised _ _ _ _ _)
  intro cancelled _
  apply unraised_bind (updateWork_unraised _ _ _)
  intro dispatching _
  apply unraised_bind (unraised_require (refused_plain _))
  intro _ _
  apply unraised_bind
  · apply unraised_foldlM
    intro before event
    apply unraised_bind (unraised_require (refused_plain _))
    intro _ _
    apply updateEvents_unraised
    intro row _ chosen
    simp only [claimable, Bool.and_eq_true, Option.isNone_iff_eq_none] at chosen
    exact chosen.2.1.1.1.1.2
  · intro claimed _
    apply unraised_bind
    · unfold reopenWork
      split
      · exact updateStatus_unraised _ _ _ _
      · exact unraised_ok _
    · intro reopened _
      split
      · exact unraised_ok _
      · apply unraised_bind (unraised_require (refused_plain _))
        intro _ _
        exact unraised_bind (insertRow_unraised _ _ _ _ _) fun _ _ => unraised_ok _

theorem acknowledgeAgentDispatch_unraised (execution : Option Observation)
    (deliveries : List Observation) :
    Unraised (acknowledgeAgentDispatch host store id turn execution deliveries now) := by
  apply unraised_bind (bounded_unraised _ _)
  intro _ _
  apply unraised_bind (readWork_unraised _ _)
  intro item _
  apply unraised_bind (unraised_require (refused_plain _))
  intro _ _
  apply unraised_bind (unraised_require (refused_plain _))
  intro _ _
  apply unraised_bind (unraised_foldlM fun before row => observe_unraised before row now)
  intro executed _
  apply unraised_bind (updateWork_unraised _ _ _)
  intro running _
  apply unraised_bind (observeEach_unraised _ _ _)
  intro observed _
  apply unraised_bind (deliverClaims_unraised _ _ _)
  intro delivered _
  apply unraised_bind
  · apply disposeEvents_unraised
    intro row _ chosen
    simp only [Bool.and_eq_true, Option.isNone_iff_eq_none] at chosen
    exact chosen.1.2
  · intro accepted _
    exact submitRetries_unraised _ _ _ _

theorem nextRetry_unraised (store : AgentStore) (work turn : String) (now : Int) :
    Unraised (nextRetry store work turn now) := by
  have due (attempt delay : Int) : Unraised (if now + delay ≤ i64Max then
      (.ok (some (attempt, now + delay)) : Except AgentFailure (Option (Int × Int)))
      else .error (invalidInput "retry deadline overflow")) := by
    split
    · exact unraised_ok _
    · exact fun _ raised => by cases raised
  unfold nextRetry
  dsimp only
  split
  · exact due _ _
  · split
    · exact due _ _
    · split
      · exact due _ _
      · exact unraised_ok _

theorem completeAgentTurnWithEvent_unraised (input : EnqueueAgentEvent)
    (partialOutput : List Observation) :
    Unraised (completeAgentTurnWithEvent host store id turn input partialOutput now) := by
  apply unraised_bind (bounded_unraised _ _)
  intro _ _
  apply unraised_bind (bounded_unraised _ _)
  intro _ _
  apply unraised_bind (unraised_require (refused_plain _))
  intro _ _
  apply unraised_bind (readWork_unraised _ _)
  intro item _
  apply unraised_bind (unraised_require (refused_plain _))
  intro _ _
  apply unraised_bind
  · unfold terminalInput
    split
    · apply unraised_bind (nextRetry_unraised _ _ _ _)
      intro next _
      split
      · exact unraised_ok _
      · dsimp only
        split <;> exact unraised_ok _
    · exact unraised_ok _
  · rintro ⟨terminal, retry⟩ _
    apply unraised_bind (observeEach_unraised _ _ _)
    intro retained _
    apply unraised_bind
    · unfold recordOnce
      split
      · exact unraised_bind (unraised_require (refused_plain _)) fun _ _ => unraised_ok _
      · apply unraised_bind (insertRow_unraised _ _ _ _ _)
        intro inserted _
        exact unraised_bind (readEvent_unraised _ _) fun _ _ => unraised_ok _
    · rintro ⟨recorded, event⟩ record
      apply unraised_bind (updateWork_unraised _ _ _)
      intro idle idling
      apply unraised_bind
      · -- the receipt is read again by its key: the row with its id is the event itself
        obtain ⟨works, _, rfl⟩ := updateWork_ok idling
        apply disposeEvents_unraised
        intro row member chosen
        simp only [Bool.and_eq_true, decide_eq_true_eq, Option.isNone_iff_eq_none] at chosen
        obtain ⟨event_mem, _, _⟩ := recordOnce_event record
        have equal : row = event := Table.eq_of_key member event_mem chosen.1.1
        exact equal ▸ chosen.2
      · intro resolved _
        apply unraised_bind
        · apply disposeEvents_unraised
          intro row _ chosen
          simp only [Bool.and_eq_true, Option.isNone_iff_eq_none] at chosen
          exact chosen.1.1.2
        · intro handled _
          split
          · exact unraised_ok _
          · exact unraised_bind (unraised_orElse constraint_plain) fun _ _ => unraised_ok _

theorem reconcileAgentDispatch_unraised (deliveries : List Observation) :
    Unraised (reconcileAgentDispatch host store id turn deliveries now) := by
  apply unraised_bind (bounded_unraised _ _)
  intro _ _
  apply unraised_bind (readWork_unraised _ _)
  intro item _
  apply unraised_bind (unraised_require (refused_plain _))
  intro _ _
  apply unraised_bind (unraised_require (refused_plain _))
  intro _ _
  apply unraised_bind (updateWork_unraised _ _ _)
  intro running _
  apply unraised_bind (observeEach_unraised _ _ _)
  intro observed _
  apply unraised_bind (deliverClaims_unraised _ _ _)
  intro delivered _
  exact submitRetries_unraised _ _ _ _

theorem refusalReason_mem (refusal : AgentDispatchRefusal) :
    refusal.reason ∈ refusalReasons := by
  cases refusal <;> decide

/-- The refusal receipt that was just recorded lets the claimed retry be cancelled. -/
theorem refusal_passes {recorded : AgentStore} {previous : AgentWorkItem} {event : Nat}
    {refusal : AgentDispatchRefusal} {retry : CapacityRetry} (readsBack : ReadsBack host)
    (record : observe store ⟨host.sourceKey ["capacity_retry_rejected", toString event],
      previous.id, .capacityRetryRejected, host.rejection event refusal.reason, refusal.note, none⟩
      now = .ok recorded)
    (same : retry.eventId = event) (owner : retry.workItemId = previous.id)
    (claimed : retry.state = .claimed) :
    capacityTransition host recorded retry (cancelRetry retry) = true := by
  obtain ⟨events, inserted, rfl⟩ := insertRow_ok record
  obtain ⟨readEvent, readReason⟩ := readsBack event refusal.reason
  unfold capacityTransition
  rw [Bool.or_eq_true]
  refine .inr ?_
  simp only [claimed, cancelRetry, decide_true, Bool.true_and]
  unfold refusalRecorded
  rw [List.any_eq_true]
  refine ⟨_, Table.mem_insert inserted, ?_⟩
  simp [Observation.input, ObservationKind.text, owner, same, readEvent, readReason,
    refusalReason_mem]

theorem rejectAgentDispatch_unraised (readsBack : ReadsBack host) (previous : AgentWorkItem)
    (owned : Bool) (retryEvent : Option Nat) (refusal : AgentDispatchRefusal) :
    Unraised (rejectAgentDispatch host store previous owned retryEvent refusal now) := by
  apply unraised_bind (unraised_require (refused_plain _))
  intro _ _
  apply unraised_bind (unraised_require (refused_plain _))
  intro _ _
  apply unraised_bind
  · unfold settleRefusal rejectRetry rejectClaims
    cases retryEvent with
    | some event =>
      apply unraised_bind (unraised_orElse constraint_plain)
      intro retry found
      rw [orElse_eq_ok] at found
      have matched := List.find?_some found
      simp only [Bool.and_eq_true, decide_eq_true_eq] at matched
      apply unraised_bind (observe_unraised _ _ _)
      intro recorded record
      apply unraised_bind
      · apply updateRetries_unraised
        intro row member chosen
        have sameRows : recorded.agentCapacityRetries = store.agentCapacityRetries := by
          obtain ⟨events, _, rfl⟩ := insertRow_ok record
          rfl
        rw [sameRows] at member
        have equal : row = retry := Table.eq_of_key member (List.mem_of_find?_eq_some found)
          ((of_decide_eq_true chosen).trans matched.1.1.symm)
        rw [equal]
        exact refusal_passes readsBack record matched.1.1 matched.1.2 matched.2
      · intro cancelled _
        apply unraised_bind
        · apply updateEvents_unraised
          intro row _ chosen
          simpa using (Bool.and_eq_true_iff.mp chosen).2
        · intro restored _
          split
          · apply unraised_bind (readEvent_unraised _ _)
            intro original _
            apply unraised_bind (unraised_orElse (refused_plain _))
            intro payload _
            exact insertRow_unraised _ _ _ _ _
          · exact unraised_ok _
    | none =>
      apply unraised_bind (unraised_require (refused_plain _))
      intro _ _
      apply disposeEvents_unraised
      intro row _ chosen
      simpa using (Bool.and_eq_true_iff.mp chosen).2
  · intro settled _
    exact updateStatus_unraised _ _ _ _

theorem observeAgentNativeTurn_unraised (thread connection payload : String)
    (account : Option String) (owned : String → Bool) :
    Unraised (observeAgentNativeTurn host store thread turn connection payload account owned
      now) := by
  apply unraised_bind (unraised_require (refused_plain _))
  intro _ _
  split
  · exact unraised_ok _
  · dsimp only
    split
    · exact unraised_ok _
    · apply unraised_bind (observe_unraised _ _ _)
      intro recorded _
      split
      · apply unraised_bind (cancelPendingWithNote_unraised _ _ _ _ _)
        intro cancelled _
        exact unraised_bind (updateWork_unraised _ _ _) fun _ _ => unraised_ok _
      · exact unraised_ok _

theorem beginAgentCapacityRetry_unraised (event : Nat) (due : Int) (pending : Bool) :
    Unraised (beginAgentCapacityRetry host store work event due pending now) := by
  apply unraised_bind (readWork_unraised _ _)
  intro item _
  apply unraised_bind (unraised_require (refused_plain _))
  intro _ _
  apply unraised_bind (unraised_orElse (refused_plain _))
  intro retry found
  rw [orElse_eq_ok] at found
  have matched := List.find?_some found
  simp only [Bool.and_eq_true, decide_eq_true_eq] at matched
  apply unraised_bind
  · apply updateRetries_unraised
    intro row member chosen
    have equal : row = retry := Table.eq_of_key member (List.mem_of_find?_eq_some found)
      ((of_decide_eq_true chosen).trans matched.1.1.1.symm)
    simp [capacityTransition, equal, matched.1.2]
  · intro claimed _
    apply unraised_bind
    · apply disposeEvents_unraised
      intro row _ chosen
      simpa using (Bool.and_eq_true_iff.mp chosen).2
    · intro disposed _
      apply unraised_bind (updateWork_unraised _ _ _)
      intro dispatching _
      apply updateEvents_unraised
      intro row _ chosen
      simpa using (Bool.and_eq_true_iff.mp chosen).2

theorem cancelAgentCapacityRetry_unraised (event : Nat) :
    Unraised (cancelAgentCapacityRetry host store work event now) := by
  apply unraised_bind (unraised_require (refused_plain _))
  intro _ _
  apply unraised_bind (cancelPendingWithNote_unraised _ _ _ _ _)
  intro cancelled _
  apply unraised_bind (readWork_unraised _ _)
  intro item _
  split
  · apply unraised_bind (readEvent_unraised _ _)
    intro original _
    apply unraised_bind (unraised_orElse (refused_plain _))
    intro payload _
    exact insertRow_unraised _ _ _ _ _
  · exact unraised_ok _

theorem disposeAgentEvent_unraised (event : Nat) (disposition : AgentDisposition)
    (next : Option Int) :
    Unraised (disposeAgentEvent host store event disposition note next now) := by
  apply unraised_bind (bounded_unraised _ _)
  intro _ _
  apply unraised_bind (unraised_require (refused_plain _))
  intro _ _
  apply unraised_bind (readEvent_unraised _ _)
  intro row _
  apply unraised_bind (unraised_require (refused_plain _))
  intro _ _
  apply unraised_bind
  · apply disposeEvents_unraised
    intro row _ chosen
    simpa using (Bool.and_eq_true_iff.mp chosen).2
  · intro disposed _
    apply unraised_bind
    · unfold judgeDisposed
      split
      · exact updateStatus_unraised _ _ _ _
      · exact unraised_ok _
    · intro judged _
      split <;> exact unraised_ok _

theorem retryAgentInput_unraised (thread : String) (event : Nat) (busy : Option StoreError) :
    Unraised (retryAgentInput host store work thread event busy now) := by
  apply unraised_bind (readWork_unraised _ _)
  intro owner _
  apply unraised_bind (readEvent_unraised _ _)
  intro row _
  apply unraised_bind (unraised_require (refused_plain _))
  intro _ _
  dsimp only
  split
  · exact unraised_ok _
  · apply unraised_bind (unraised_require (refused_plain _))
    intro _ _
    apply unraised_bind (insertEvent_unraised _ _ _ _ _)
    intro queued _
    split
    · exact updateStatus_unraised _ _ _ _
    · exact unraised_ok _

theorem createAgentWork_unraised (item : AgentWorkItem) (manager : Bool) :
    Unraised (createAgentWork store item manager) := by
  apply unraised_bind (bounded_unraised _ _)
  intro _ _
  apply unraised_bind (unraised_require (refused_plain _))
  intro _ _
  apply unraised_bind (unraised_require (refused_plain _))
  intro _ _
  apply unraised_bind (unraised_require (refused_plain _))
  intro _ _
  apply unraised_bind (unraised_orElse constraint_plain)
  intro works _
  apply unraised_bind
  · intro message raised
    unfold require at raised
    split at raised
    · cases raised
    · cases raised
      rfl
  · exact fun _ _ => unraised_ok _

/-- No call is aborted by a trigger over inbox events or retries. -/
theorem perform_unraised (readsBack : ReadsBack host) (call : AgentCall) :
    Unraised (perform host store now call) := by
  cases call with
  | createAgentWork item manager => exact createAgentWork_unraised item manager
  | setAgentWorkStatus id status next =>
    apply unraised_bind (unraised_require (refused_plain _))
    intro _ _
    exact unraised_bind (readWork_unraised _ _) fun _ _ => updateStatus_unraised _ _ _ _
  | beginAgentThreadCreation id =>
    apply unraised_bind (readWork_unraised _ _)
    intro item _
    exact unraised_bind (unraised_require (refused_plain _)) fun _ _ => updateWork_unraised _ _ _
  | acknowledgeAgentThreadCreation id thread =>
    apply unraised_bind (bounded_unraised _ _)
    intro _ _
    apply unraised_bind (readWork_unraised _ _)
    intro item _
    exact unraised_bind (unraised_require (refused_plain _)) fun _ _ => updateWork_unraised _ _ _
  | beginAgentDispatchWithInput id eventIds instruction pending stale =>
    exact beginAgentDispatchWithInput_unraised eventIds instruction pending stale
  | acknowledgeAgentDispatch id turn execution deliveries =>
    exact acknowledgeAgentDispatch_unraised execution deliveries
  | completeAgentTurn id turn =>
    apply unraised_bind (readWork_unraised _ _)
    intro item _
    exact unraised_bind (unraised_require (refused_plain _)) fun _ _ => updateWork_unraised _ _ _
  | completeAgentTurnWithEvent id turn input partialOutput =>
    exact completeAgentTurnWithEvent_unraised input partialOutput
  | reconcileAgentDispatch id turn deliveries => exact reconcileAgentDispatch_unraised deliveries
  | markAgentDispatchUnknown id =>
    apply unraised_bind (readWork_unraised _ _)
    intro item _
    exact unraised_bind (unraised_require (refused_plain _)) fun _ _ => updateWork_unraised _ _ _
  | rejectAgentDispatch previous owned retryEvent refusal =>
    exact rejectAgentDispatch_unraised readsBack previous owned retryEvent refusal
  | observeAgentNativeTurn thread turn connection payload account owned =>
    intro message raised
    cases result : observeAgentNativeTurn host store thread turn connection payload account owned
        now with
    | ok observed =>
      simp only [perform, result, Except.map] at raised
      cases raised
    | error failure =>
      simp only [perform, result, Except.map] at raised
      cases raised
      exact observeAgentNativeTurn_unraised thread connection payload account owned message result
  | beginAgentCapacityRetry work event due pending =>
    exact beginAgentCapacityRetry_unraised event due pending
  | cancelAgentCapacityRetry work event => exact cancelAgentCapacityRetry_unraised event
  | cancelRevertedAgentCapacityRetries thread owned =>
    apply unraised_bind (bounded_unraised _ _)
    intro _ _
    exact unraised_foldlM fun before id => cancelPendingWithNote_unraised _ _ _ _ _
  | enqueueAgentEvent input observation busy => exact insertEvent_unraised _ _ _ _ _
  | disposeAgentEvent id disposition note next => exact disposeAgentEvent_unraised _ _ _
  | holdAgentUnsentInput work reason =>
    apply unraised_bind (bounded_unraised _ _)
    intro _ _
    apply disposeEvents_unraised
    intro row _ chosen
    simp only [Bool.and_eq_true, Option.isNone_iff_eq_none] at chosen
    exact chosen.1.2
  | retryAgentInput work thread id busy => exact retryAgentInput_unraised thread id busy

end Decodex.Guarantees.RetryTriggers
