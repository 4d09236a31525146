import Decodex.Source.Store.AgentMoves

/-!
# Capacity retries and their inbox events stay in step

A retry row is pending exactly while its inbox event is undisposed. Statements and triggers keep
the two tables in step together: no statement does it alone, so the lemmas below follow the
calls.
-/
namespace Decodex.Guarantees.RetriesInStep

open Decodex.Library Decodex.Source.Core Decodex.Source.Store
open Decodex.Source.Store.AgentDispatch

variable {host : PayloadHost} {store after : AgentStore} {now : Int} {id work turn note : String}

/-- A retry row is pending exactly while its event is undisposed. -/
def Matched (store : AgentStore) : Prop :=
  ∀ retry ∈ store.agentCapacityRetries.rows, ∃ row ∈ store.agentInboxEvents.rows,
    row.id = retry.eventId ∧ (retry.state = .pending ↔ row.disposal = none)

/-- Every capacity receipt, but for those that `skip` names, has its retry. -/
def RecordedBut (skip : Nat → Prop) (store : AgentStore) : Prop :=
  ∀ row ∈ store.agentInboxEvents.rows, row.eventKind = "capacity_retry" → ¬skip row.id →
    ∃ retry ∈ store.agentCapacityRetries.rows, retry.eventId = row.id

structure InStep (store : AgentStore) : Prop where
  pending : Matched store
  recorded : RecordedBut (fun _ => False) store

/-- What the callers promise: a terminal event is a turn receipt, and nobody else records
capacity receipts. -/
def Promised : AgentCall → Prop
  | .completeAgentTurnWithEvent _ _ input _ => isTurnReceipt input.eventKind = true
  | .enqueueAgentEvent input _ _ => input.eventKind ≠ "capacity_retry"
  | _ => True

theorem inStep_of_same (inStep : InStep store)
    (events : after.agentInboxEvents = store.agentInboxEvents)
    (retries : after.agentCapacityRetries = store.agentCapacityRetries) : InStep after := by
  obtain ⟨pending, recorded⟩ := inStep
  unfold Matched at pending
  unfold RecordedBut at recorded
  refine ⟨?_, ?_⟩
  · unfold Matched
    rwa [events, retries]
  · unfold RecordedBut
    rwa [events, retries]

theorem updateWork_inStep {change : AgentWorkItem → AgentWorkItem} (inStep : InStep store)
    (done : updateWork store id change = .ok after) : InStep after := by
  obtain ⟨works, _, rfl⟩ := updateWork_ok done
  exact inStep_of_same inStep rfl rfl

theorem insertRow_inStep {input : EnqueueAgentEvent} {disposal : Option Disposal}
    {delivery : Option Delivery} (inStep : InStep store)
    (done : insertRow store input now disposal delivery = .ok after)
    (other : input.eventKind ≠ "capacity_retry") : InStep after := by
  obtain ⟨events, inserted, rfl⟩ := insertRow_ok done
  refine ⟨?_, ?_⟩
  · intro retry member
    obtain ⟨row, row_mem, same, iff⟩ := inStep.pending retry member
    refine ⟨row, ?_, same, iff⟩
    rw [Table.insert_rows inserted]
    exact List.mem_append_left _ row_mem
  · intro row member kind free
    rw [Table.insert_rows inserted, List.mem_append, List.mem_singleton] at member
    rcases member with member | rfl
    · exact inStep.recorded row member kind free
    · exact absurd kind other

/-- Deliveries do not matter. -/
theorem deliver_inStep {selected : AgentInboxEvent → Bool} {delivery : Delivery}
    (inStep : InStep store)
    (done : updateEvents store selected (fun row => { row with delivery := some delivery }) =
      .ok after) : InStep after := by
  obtain ⟨_, events, updated, rfl⟩ := updateEvents_ok done
  refine ⟨?_, ?_⟩
  · intro retry member
    obtain ⟨row, row_mem, same, iff⟩ := inStep.pending retry member
    refine ⟨_, Table.mem_updateWhere updated row_mem, ?_⟩
    split <;> exact ⟨same, iff⟩
  · intro row member kind free
    rw [Table.updateWhere_rows updated] at member
    obtain ⟨old, old_mem, rfl⟩ := List.mem_map.mp member
    split at kind <;> split <;> exact inStep.recorded old old_mem kind free

/-- An update of retries on one side of pending. -/
theorem updateRetries_inStep {selected : CapacityRetry → Bool}
    {change : CapacityRetry → CapacityRetry} (inStep : InStep store)
    (done : updateRetries host store selected change = .ok after)
    (keeps : ∀ row, (change row).eventId = row.eventId)
    (settled : ∀ row ∈ store.agentCapacityRetries.rows, selected row = true →
      row.state ≠ .pending ∧ (change row).state ≠ .pending) : InStep after := by
  obtain ⟨_, retries, updated, rfl⟩ := updateRetries_ok done
  refine ⟨?_, ?_⟩
  · intro retry member
    rw [Table.updateWhere_rows updated] at member
    obtain ⟨old, old_mem, rfl⟩ := List.mem_map.mp member
    obtain ⟨row, row_mem, same, iff⟩ := inStep.pending old old_mem
    split
    · rename_i hit
      obtain ⟨before, later⟩ := settled old old_mem hit
      refine ⟨row, row_mem, same.trans (keeps old).symm, fun now => absurd now later, ?_⟩
      intro undisposed
      exact absurd (iff.mpr undisposed) before
    · exact ⟨row, row_mem, same, iff⟩
  · intro row member kind free
    obtain ⟨retry, retry_mem, same⟩ := inStep.recorded row member kind free
    refine ⟨_, Table.mem_updateWhere updated retry_mem, ?_⟩
    split
    · exact (keeps retry).trans same
    · exact same

theorem disposeEvents_ok {selected : AgentInboxEvent → Bool}
    {change : AgentInboxEvent → AgentInboxEvent}
    (done : disposeEvents host store selected change = .ok after) :
    (∀ row ∈ store.agentInboxEvents.rows, selected row = true → row.disposal = none) ∧
    ∃ events retries, store.agentInboxEvents.updateWhere selected change = some events ∧
      store.agentCapacityRetries.updateWhere (fun retry => retry.state = .pending &&
        store.agentInboxEvents.rows.any fun row => selected row && row.id = retry.eventId)
        cancelRetry = some retries ∧
      after = { store with agentInboxEvents := events, agentCapacityRetries := retries } := by
  unfold disposeEvents at done
  obtain ⟨disposed, settled, done⟩ := bind_ok done
  obtain ⟨undisposed, events, updated, rfl⟩ := updateEvents_ok settled
  obtain ⟨_, retries, cancelled, rfl⟩ := updateRetries_ok done
  exact ⟨undisposed, events, retries, updated, cancelled, rfl⟩

/-- A disposition cancels the pending retry of what it disposes. -/
theorem disposeEvents_matched {selected : AgentInboxEvent → Bool}
    {change : AgentInboxEvent → AgentInboxEvent} (pending : Matched store)
    (done : disposeEvents host store selected change = .ok after)
    (keeps : ∀ row, (change row).id = row.id) (disposes : ∀ row, (change row).disposal ≠ none) :
    Matched after := by
  obtain ⟨undisposed, events, retries, updated, cancelled, rfl⟩ := disposeEvents_ok done
  intro retry member
  rw [Table.updateWhere_rows cancelled] at member
  obtain ⟨old, old_mem, rfl⟩ := List.mem_map.mp member
  obtain ⟨row, row_mem, same, iff⟩ := pending old old_mem
  refine ⟨_, Table.mem_updateWhere updated row_mem, ?_⟩
  by_cases hit : selected row = true
  · have wasPending : old.state = .pending := iff.mpr (undisposed row row_mem hit)
    have chosen : (decide (old.state = .pending) && store.agentInboxEvents.rows.any fun row =>
        selected row && decide (row.id = old.eventId)) = true := by
      simp only [wasPending, decide_true, Bool.true_and, List.any_eq_true, Bool.and_eq_true,
        decide_eq_true_eq]
      exact ⟨row, row_mem, hit, same⟩
    rw [if_pos hit, if_pos chosen]
    refine ⟨(keeps row).trans same, nofun, fun none => absurd none (disposes row)⟩
  · have missed : ¬(decide (old.state = .pending) && store.agentInboxEvents.rows.any fun row =>
        selected row && decide (row.id = old.eventId)) = true := by
      simp only [Bool.and_eq_true, List.any_eq_true, decide_eq_true_eq, not_and, not_exists]
      intro _ other other_mem chosen sameOther
      have equal := Table.eq_of_key other_mem row_mem (sameOther.trans same.symm)
      exact hit (equal ▸ chosen)
    rw [if_neg hit, if_neg missed]
    exact ⟨same, iff⟩

theorem disposeEvents_recorded {selected : AgentInboxEvent → Bool}
    {change : AgentInboxEvent → AgentInboxEvent} {skip : Nat → Prop}
    (recorded : RecordedBut skip store)
    (done : disposeEvents host store selected change = .ok after)
    (keeps : ∀ row, (change row).id = row.id ∧ (change row).eventKind = row.eventKind) :
    RecordedBut skip after := by
  obtain ⟨_, events, retries, updated, cancelled, rfl⟩ := disposeEvents_ok done
  intro row member kind free
  rw [Table.updateWhere_rows updated] at member
  obtain ⟨old, old_mem, rfl⟩ := List.mem_map.mp member
  have oldKind : old.eventKind = "capacity_retry" := by
    split at kind
    · exact (keeps old).2.symm.trans kind
    · exact kind
  have oldFree : ¬skip old.id := by
    split at free
    · rwa [(keeps old).1] at free
    · exact free
  obtain ⟨retry, retry_mem, same⟩ := recorded old old_mem oldKind oldFree
  have event : ∀ hit : Bool, (if hit then cancelRetry retry else retry).eventId =
      retry.eventId := by
    intro hit
    split <;> rfl
  refine ⟨_, Table.mem_updateWhere cancelled retry_mem, ?_⟩
  rw [event, same]
  split
  · exact (keeps old).1.symm
  · rfl

theorem disposeEvents_inStep {selected : AgentInboxEvent → Bool}
    {change : AgentInboxEvent → AgentInboxEvent} (inStep : InStep store)
    (done : disposeEvents host store selected change = .ok after)
    (keeps : ∀ row, (change row).id = row.id ∧ (change row).eventKind = row.eventKind)
    (disposes : ∀ row, (change row).disposal ≠ none) : InStep after :=
  ⟨disposeEvents_matched inStep.pending done (fun row => (keeps row).1) disposes,
    disposeEvents_recorded inStep.recorded done keeps⟩

theorem dispose_matched {selected : AgentInboxEvent → Bool} {disposition : AgentDisposition}
    (pending : Matched store)
    (done : disposeEvents host store selected (dispose disposition note now) = .ok after) :
    Matched after :=
  disposeEvents_matched pending done (fun _ => rfl) fun _ => Option.some_ne_none _

theorem dispose_recorded {selected : AgentInboxEvent → Bool} {disposition : AgentDisposition}
    {skip : Nat → Prop} (recorded : RecordedBut skip store)
    (done : disposeEvents host store selected (dispose disposition note now) = .ok after) :
    RecordedBut skip after :=
  disposeEvents_recorded recorded done fun _ => ⟨rfl, rfl⟩

theorem dispose_inStep {selected : AgentInboxEvent → Bool} {disposition : AgentDisposition}
    (inStep : InStep store)
    (done : disposeEvents host store selected (dispose disposition note now) = .ok after) :
    InStep after :=
  ⟨dispose_matched inStep.pending done, dispose_recorded inStep.recorded done⟩

theorem updateStatus_inStep {change : AgentWorkItem → AgentWorkItem} (inStep : InStep store)
    (done : updateStatus host store id change = .ok after) : InStep after := by
  unfold updateStatus judgeWork at done
  obtain ⟨updated, written, done⟩ := bind_ok done
  have held := updateWork_inStep inStep written
  split at done
  · cases done
    exact held
  · split at done
    · cases done
      exact held
    · exact dispose_inStep held done

theorem observationKind_ne (kind : ObservationKind) : kind.text ≠ "capacity_retry" := by
  cases kind <;> decide

theorem observe_inStep {observation : Observation} (inStep : InStep store)
    (done : observe store observation now = .ok after) : InStep after := by
  exact insertRow_inStep inStep done (observationKind_ne observation.kind)

theorem observeEach_inStep {observations : List Observation} (inStep : InStep store)
    (done : observeEach store observations now = .ok after) : InStep after := by
  refine foldlM_ok_prefix (fun _ reached => InStep reached) ?_ inStep done
  intro _ before observation next held round
  unfold observeOnce at round
  split at round
  · cases round
    exact held
  · exact observe_inStep held round

/-- A retry that is pending for the work has an undisposed event, so the first update disposes
it and the second finds nothing left. -/
theorem cancelPendingWithNote_inStep (inStep : InStep store)
    (done : cancelPendingWithNote host store work note now = .ok after) : InStep after := by
  unfold cancelPendingWithNote at done
  obtain ⟨disposed, settled, done⟩ := bind_ok done
  have held : InStep disposed := dispose_inStep inStep settled
  apply updateRetries_inStep held done (fun _ => rfl)
  intro retry member chosen
  simp only [Bool.and_eq_true, decide_eq_true_eq] at chosen
  obtain ⟨_, events, retries, updated, cancelled, rfl⟩ := disposeEvents_ok settled
  rw [Table.updateWhere_rows cancelled] at member
  obtain ⟨old, old_mem, rfl⟩ := List.mem_map.mp member
  exfalso
  split at chosen
  · cases chosen.2
  · rename_i missed
    obtain ⟨row, row_mem, same, iff⟩ := inStep.pending old old_mem
    apply missed
    simp only [chosen.2, decide_true, Bool.true_and, List.any_eq_true, Bool.and_eq_true,
      decide_eq_true_eq]
    refine ⟨row, row_mem, ?_, same⟩
    simp only [pendingRetryEvent, Bool.and_eq_true, Option.isNone_iff_eq_none, List.any_eq_true,
      decide_eq_true_eq]
    exact ⟨iff.mp chosen.2, old, old_mem, ⟨same.symm, chosen.1⟩, chosen.2⟩

theorem submitRetries_inStep (inStep : InStep store)
    (done : submitRetries host store id turn = .ok after) : InStep after := by
  apply updateRetries_inStep inStep done (fun _ => rfl)
  intro retry _ chosen
  simp only [Bool.and_eq_true, decide_eq_true_eq] at chosen
  exact ⟨by simp [chosen.2], nofun⟩

theorem insertEvent_inStep {input : EnqueueAgentEvent} {observation : Bool}
    {busy : Option StoreError} (inStep : InStep store) (other : input.eventKind ≠ "capacity_retry")
    (done : insertEvent store input observation busy now = .ok after) : InStep after := by
  unfold insertEvent at done
  obtain ⟨_, _, done⟩ := bind_ok done
  obtain ⟨_, _, done⟩ := bind_ok done
  split at done
  · obtain ⟨_, _, done⟩ := bind_ok done
    cases done
    exact inStep
  · obtain ⟨_, _, done⟩ := bind_ok done
    split at done
    · cases done
    · exact insertRow_inStep inStep done other

theorem beginAgentDispatchWithInput_inStep {eventIds : List Nat} {instruction : Option String}
    {pending : Bool} {stale : Nat → Bool} (inStep : InStep store)
    (done : beginAgentDispatchWithInput host store id eventIds instruction pending stale now =
      .ok after) : InStep after := by
  unfold beginAgentDispatchWithInput at done
  obtain ⟨_, _, done⟩ := bind_ok done
  obtain ⟨_, _, done⟩ := bind_ok done
  obtain ⟨item, _, done⟩ := bind_ok done
  obtain ⟨_, _, done⟩ := bind_ok done
  obtain ⟨cancelled, cancel, done⟩ := bind_ok done
  obtain ⟨dispatching, fence, done⟩ := bind_ok done
  obtain ⟨_, _, done⟩ := bind_ok done
  obtain ⟨claimed, claim, done⟩ := bind_ok done
  obtain ⟨reopened, reopen, done⟩ := bind_ok done
  have fencing : InStep dispatching :=
    updateWork_inStep (cancelPendingWithNote_inStep inStep cancel) fence
  have claiming : InStep claimed := by
    refine foldlM_ok_prefix (fun _ reached => InStep reached) ?_ fencing claim
    intro _ before event next held round
    unfold claimEvent at round
    obtain ⟨_, _, round⟩ := bind_ok round
    exact deliver_inStep held round
  have reopening : InStep reopened := by
    unfold reopenWork at reopen
    split at reopen
    · exact updateStatus_inStep claiming reopen
    · cases reopen
      exact claiming
  split at done
  · cases done
    exact reopening
  · unfold saveInstruction at done
    obtain ⟨_, _, done⟩ := bind_ok done
    obtain ⟨saved, save, done⟩ := bind_ok done
    have saving : InStep saved := insertRow_inStep reopening save (by simp)
    cases done
    unfold beginDelegation
    split
    · exact inStep_of_same saving rfl rfl
    · exact saving

theorem acknowledgeAgentDispatch_inStep {execution : Option Observation}
    {deliveries : List Observation} (inStep : InStep store)
    (done : acknowledgeAgentDispatch host store id turn execution deliveries now = .ok after) :
    InStep after := by
  unfold acknowledgeAgentDispatch at done
  obtain ⟨_, _, done⟩ := bind_ok done
  obtain ⟨item, _, done⟩ := bind_ok done
  obtain ⟨_, _, done⟩ := bind_ok done
  obtain ⟨_, _, done⟩ := bind_ok done
  obtain ⟨executed, execute, done⟩ := bind_ok done
  obtain ⟨running, run, done⟩ := bind_ok done
  obtain ⟨observed, observing, done⟩ := bind_ok done
  obtain ⟨delivered, deliver, done⟩ := bind_ok done
  obtain ⟨accepted, accept, done⟩ := bind_ok done
  have executing : InStep executed :=
    foldlM_ok_prefix (fun _ reached => InStep reached)
      (fun _ _ _ _ held round => observe_inStep held round) inStep execute
  have observing' : InStep observed := observeEach_inStep (updateWork_inStep executing run) observing
  exact submitRetries_inStep (dispose_inStep (deliver_inStep observing' deliver) accept) done

theorem reconcileAgentDispatch_inStep {deliveries : List Observation} (inStep : InStep store)
    (done : reconcileAgentDispatch host store id turn deliveries now = .ok after) :
    InStep after := by
  unfold reconcileAgentDispatch at done
  obtain ⟨_, _, done⟩ := bind_ok done
  obtain ⟨item, _, done⟩ := bind_ok done
  obtain ⟨_, _, done⟩ := bind_ok done
  obtain ⟨_, _, done⟩ := bind_ok done
  obtain ⟨running, run, done⟩ := bind_ok done
  obtain ⟨observed, observing, done⟩ := bind_ok done
  obtain ⟨delivered, deliver, done⟩ := bind_ok done
  have observing' : InStep observed := observeEach_inStep (updateWork_inStep inStep run) observing
  exact submitRetries_inStep (deliver_inStep observing' deliver) done

theorem rejectRetry_inStep {previous : AgentWorkItem} {event : Nat}
    {refusal : AgentDispatchRefusal} (inStep : InStep store)
    (done : rejectRetry host store previous event refusal now = .ok after) : InStep after := by
  unfold rejectRetry at done
  obtain ⟨retry, found, done⟩ := bind_ok done
  obtain ⟨recorded, record, done⟩ := bind_ok done
  obtain ⟨cancelled, cancel, done⟩ := bind_ok done
  obtain ⟨restored, restore, done⟩ := bind_ok done
  rw [orElse_eq_ok] at found
  have recording : InStep recorded := observe_inStep inStep record
  have same : recorded.agentCapacityRetries = store.agentCapacityRetries := by
    obtain ⟨events, _, rfl⟩ := insertRow_ok record
    rfl
  have cancelling : InStep cancelled := by
    apply updateRetries_inStep recording cancel (fun _ => rfl)
    intro row member chosen
    have matched := List.find?_some found
    simp only [Bool.and_eq_true, decide_eq_true_eq] at matched chosen
    rw [same] at member
    have equal : row = retry := Table.eq_of_key member (List.mem_of_find?_eq_some found)
      (chosen.trans matched.1.1.symm)
    exact ⟨by simp [equal, matched.2], nofun⟩
  have restoring : InStep restored := deliver_inStep cancelling restore
  split at done
  · obtain ⟨original, _, done⟩ := bind_ok done
    obtain ⟨payload, _, done⟩ := bind_ok done
    exact insertRow_inStep restoring done (by simp)
  · cases done
    exact restoring

theorem rejectAgentDispatch_inStep {previous : AgentWorkItem} {owned : Bool}
    {retryEvent : Option Nat} {refusal : AgentDispatchRefusal} (inStep : InStep store)
    (done : rejectAgentDispatch host store previous owned retryEvent refusal now = .ok after) :
    InStep after := by
  unfold rejectAgentDispatch settleRefusal at done
  obtain ⟨_, _, done⟩ := bind_ok done
  obtain ⟨_, _, done⟩ := bind_ok done
  obtain ⟨settled, settle, done⟩ := bind_ok done
  have settling : InStep settled := by
    cases retryEvent with
    | some event => exact rejectRetry_inStep inStep settle
    | none =>
      unfold rejectClaims at settle
      obtain ⟨_, _, settle⟩ := bind_ok settle
      exact disposeEvents_inStep inStep settle (fun _ => ⟨rfl, rfl⟩)
        fun _ => Option.some_ne_none _
  exact updateStatus_inStep settling done

theorem observeAgentNativeTurn_inStep {thread connection payload : String}
    {account : Option String} {owned : String → Bool} {observed : Bool × AgentStore}
    (inStep : InStep store)
    (done : observeAgentNativeTurn host store thread turn connection payload account owned now =
      .ok observed) : InStep observed.2 := by
  unfold observeAgentNativeTurn at done
  obtain ⟨_, _, done⟩ := bind_ok done
  split at done
  · cases done
    exact inStep
  · dsimp only at done
    split at done
    · cases done
      exact inStep
    · obtain ⟨recorded, record, done⟩ := bind_ok done
      split at done
      · obtain ⟨cancelled, cancel, done⟩ := bind_ok done
        obtain ⟨running, run, done⟩ := bind_ok done
        cases done
        exact updateWork_inStep
          (cancelPendingWithNote_inStep (observe_inStep inStep record) cancel) run
      · cases done
        exact observe_inStep inStep record

/-- The claimed retry leaves pending first; its event is disposed right after. -/
theorem beginAgentCapacityRetry_inStep {event : Nat} {due : Int} {pending : Bool}
    (inStep : InStep store)
    (done : beginAgentCapacityRetry host store work event due pending now = .ok after) :
    InStep after := by
  unfold beginAgentCapacityRetry at done
  obtain ⟨item, _, done⟩ := bind_ok done
  obtain ⟨_, _, done⟩ := bind_ok done
  obtain ⟨retry, found, done⟩ := bind_ok done
  obtain ⟨claimed, claim, done⟩ := bind_ok done
  obtain ⟨disposed, settle, done⟩ := bind_ok done
  obtain ⟨dispatching, fence, done⟩ := bind_ok done
  refine deliver_inStep (updateWork_inStep ?_ fence) done
  obtain ⟨_, claims, claimedRows, rfl⟩ := updateRetries_ok claim
  obtain ⟨_, events, retries, updated, cancelled, rfl⟩ := disposeEvents_ok settle
  have kept : ∀ (hit : Bool) (row : CapacityRetry),
      (if hit then { row with state := .claimed } else row).eventId = row.eventId := by
    intro hit row
    split <;> rfl
  have left : ∀ (hit : Bool) (row : CapacityRetry),
      (if hit then cancelRetry row else row).eventId = row.eventId := by
    intro hit row
    split <;> rfl
  refine ⟨?_, ?_⟩
  · intro row member
    rw [Table.updateWhere_rows cancelled] at member
    obtain ⟨mid, mid_mem, rfl⟩ := List.mem_map.mp member
    rw [Table.updateWhere_rows claimedRows] at mid_mem
    obtain ⟨old, old_mem, rfl⟩ := List.mem_map.mp mid_mem
    obtain ⟨evidence, evidence_mem, same, iff⟩ := inStep.pending old old_mem
    refine ⟨_, Table.mem_updateWhere updated evidence_mem, ?_⟩
    by_cases claimed : old.eventId = event
    · -- the claimed row is no longer pending, and its event is disposed now if not before
      have chosen : decide (old.eventId = event) = true := decide_eq_true claimed
      simp only [chosen, if_true, reduceCtorEq, decide_false, Bool.false_and, if_false,
        Bool.false_eq_true, false_iff]
      split
      · exact ⟨same, nofun⟩
      · rename_i missed
        refine ⟨same, ?_⟩
        intro undisposed
        apply missed
        simp [same, claimed, undisposed]
    · have missed : decide (old.eventId = event) = false := decide_eq_false claimed
      have apart : evidence.id ≠ event := fun hit => claimed (same.symm.trans hit)
      have none : (decide (old.state = .pending) && store.agentInboxEvents.rows.any fun row =>
          decide (row.id = event) && row.disposal.isNone && decide (row.id = old.eventId)) =
          false := by
        rw [← Bool.not_eq_true]
        simp only [Bool.and_eq_true, List.any_eq_true, decide_eq_true_eq, not_and, not_exists]
        intro _ other _ hit sameOther
        exact claimed (sameOther.symm.trans hit.1)
      simp only [missed, Bool.false_eq_true, if_false, none, apart, decide_false, Bool.false_and]
      exact ⟨same, iff⟩
  · intro row member kind free
    rw [Table.updateWhere_rows updated] at member
    obtain ⟨old, old_mem, rfl⟩ := List.mem_map.mp member
    have oldKind : old.eventKind = "capacity_retry" := by
      split at kind <;> exact kind
    obtain ⟨holder, holder_mem, same⟩ := inStep.recorded old old_mem oldKind id
    refine ⟨_, Table.mem_updateWhere cancelled (Table.mem_updateWhere claimedRows holder_mem), ?_⟩
    rw [left, kept, same]
    split <;> rfl

theorem cancelAgentCapacityRetry_inStep {event : Nat} (inStep : InStep store)
    (done : cancelAgentCapacityRetry host store work event now = .ok after) : InStep after := by
  unfold cancelAgentCapacityRetry at done
  obtain ⟨_, _, done⟩ := bind_ok done
  obtain ⟨cancelled, cancel, done⟩ := bind_ok done
  obtain ⟨item, _, done⟩ := bind_ok done
  have cancelling : InStep cancelled := cancelPendingWithNote_inStep inStep cancel
  split at done
  · obtain ⟨original, _, done⟩ := bind_ok done
    obtain ⟨payload, _, done⟩ := bind_ok done
    exact insertRow_inStep cancelling done (by simp)
  · cases done
    exact cancelling

theorem disposeAgentEvent_inStep {event : Nat} {disposition : AgentDisposition}
    {next : Option Int} (inStep : InStep store)
    (done : disposeAgentEvent host store event disposition note next now = .ok after) :
    InStep after := by
  unfold disposeAgentEvent at done
  obtain ⟨_, _, done⟩ := bind_ok done
  obtain ⟨_, _, done⟩ := bind_ok done
  obtain ⟨row, _, done⟩ := bind_ok done
  obtain ⟨_, _, done⟩ := bind_ok done
  obtain ⟨disposed, settle, done⟩ := bind_ok done
  obtain ⟨judged, judge, done⟩ := bind_ok done
  have settling : InStep disposed := dispose_inStep inStep settle
  have judging : InStep judged := by
    unfold judgeDisposed at judge
    split at judge
    · exact updateStatus_inStep settling judge
    · cases judge
      exact settling
  split at done
  · cases done
    exact inStep_of_same judging rfl rfl
  · cases done
    exact judging

theorem retryAgentInput_inStep {thread : String} {event : Nat} {busy : Option StoreError}
    (inStep : InStep store)
    (done : retryAgentInput host store work thread event busy now = .ok after) :
    InStep after := by
  unfold retryAgentInput at done
  obtain ⟨owner, _, done⟩ := bind_ok done
  obtain ⟨row, _, done⟩ := bind_ok done
  obtain ⟨_, _, done⟩ := bind_ok done
  dsimp only at done
  split at done
  · cases done
    exact inStep
  · obtain ⟨_, _, done⟩ := bind_ok done
    obtain ⟨queued, queue, done⟩ := bind_ok done
    have queueing : InStep queued := insertEvent_inStep inStep (by simp) queue
    split at done
    · exact updateStatus_inStep queueing done
    · cases done
      exact queueing

theorem receiptInput_ne {item : AgentWorkItem} {input : EnqueueAgentEvent}
    (promised : isTurnReceipt input.eventKind = true) :
    (receiptInput store item input).eventKind ≠ "capacity_retry" := by
  unfold receiptInput
  rw [if_pos promised]
  split <;> simp

/-- A retry goes with a capacity receipt, and with nothing else. -/
theorem terminalInput_kind {item : AgentWorkItem} {input terminal : EnqueueAgentEvent}
    {retry : Option (Int × Int)} (other : input.eventKind ≠ "capacity_retry")
    (done : terminalInput host store item turn input now = .ok (terminal, retry)) :
    terminal.eventKind = "capacity_retry" ↔ retry.isSome = true := by
  unfold terminalInput at done
  split at done
  · obtain ⟨scheduled, _, done⟩ := bind_ok done
    split at done
    · cases done
      split <;> simpa using other
    · dsimp only at done
      split at done
      · cases done
        simp
      · cases done
        simpa using other
  · cases done
    simpa using other

theorem recordOnce_inStep {input : EnqueueAgentEvent} {recorded : AgentStore × AgentInboxEvent}
    (inStep : InStep store) (other : input.eventKind ≠ "capacity_retry")
    (done : recordOnce store input now = .ok recorded) : InStep recorded.1 := by
  unfold recordOnce at done
  split at done
  · obtain ⟨_, _, done⟩ := bind_ok done
    cases done
    exact inStep
  · obtain ⟨inserted, insert, done⟩ := bind_ok done
    obtain ⟨event, _, done⟩ := bind_ok done
    cases done
    exact insertRow_inStep inStep insert other

/-- A capacity receipt is new and undisposed, or has its retry already. -/
theorem recordOnce_capacity {input : EnqueueAgentEvent} {recorded : AgentStore × AgentInboxEvent}
    (inStep : InStep store) (kind : input.eventKind = "capacity_retry")
    (done : recordOnce store input now = .ok recorded) :
    Matched recorded.1 ∧ RecordedBut (· = recorded.2.id) recorded.1 ∧
      recorded.1.agentCapacityRetries = store.agentCapacityRetries ∧
      recorded.2.eventKind = "capacity_retry" ∧
      (recorded.2.disposal = none ∨
        ∃ retry ∈ store.agentCapacityRetries.rows, retry.eventId = recorded.2.id) := by
  unfold recordOnce at done
  split at done
  · rename_i event found
    obtain ⟨_, same, done⟩ := bind_ok done
    rw [require_eq_ok] at same
    cases done
    have eventKind : event.eventKind = "capacity_retry" := same.2.1.trans kind
    refine ⟨inStep.pending, fun row member kind _ => inStep.recorded row member kind id, rfl,
      eventKind, .inr ?_⟩
    exact inStep.recorded event (List.mem_of_find?_eq_some found) eventKind id
  · obtain ⟨inserted, insert, done⟩ := bind_ok done
    obtain ⟨event, read, done⟩ := bind_ok done
    cases done
    unfold readEvent at read
    rw [orElse_eq_ok] at read
    obtain ⟨events, accepted, rfl⟩ := insertRow_ok insert
    have landed := (Table.find?_insert accepted store.nextEventId).trans (if_pos rfl)
    rw [read] at landed
    cases landed
    refine ⟨?_, ?_, rfl, kind, .inl rfl⟩
    · intro retry member
      obtain ⟨row, row_mem, same, iff⟩ := inStep.pending retry member
      refine ⟨row, ?_, same, iff⟩
      rw [Table.insert_rows accepted]
      exact List.mem_append_left _ row_mem
    · intro row member kind free
      rw [Table.insert_rows accepted, List.mem_append, List.mem_singleton] at member
      rcases member with member | rfl
      · exact inStep.recorded row member kind nofun
      · exact absurd rfl free

theorem disposeEvents_keepsMissed {selected : AgentInboxEvent → Bool}
    {change : AgentInboxEvent → AgentInboxEvent} {row : AgentInboxEvent}
    (done : disposeEvents host store selected change = .ok after)
    (member : row ∈ store.agentInboxEvents.rows) (missed : selected row = false) :
    row ∈ after.agentInboxEvents.rows := by
  obtain ⟨_, events, retries, updated, _, rfl⟩ := disposeEvents_ok done
  have landed := Table.mem_updateWhere updated member
  rwa [missed, if_neg Bool.false_ne_true] at landed

theorem disposeEvents_keepsRetries {selected : AgentInboxEvent → Bool}
    {change : AgentInboxEvent → AgentInboxEvent} {event : Nat}
    (done : disposeEvents host store selected change = .ok after)
    (held : ∃ retry ∈ store.agentCapacityRetries.rows, retry.eventId = event) :
    ∃ retry ∈ after.agentCapacityRetries.rows, retry.eventId = event := by
  obtain ⟨_, events, retries, _, cancelled, rfl⟩ := disposeEvents_ok done
  obtain ⟨retry, member, same⟩ := held
  refine ⟨_, Table.mem_updateWhere cancelled member, ?_⟩
  split <;> exact same

/-- The retry of an undisposed receipt that has none yet. -/
theorem scheduleRetry_inStep {event : Nat} {attempt due : Int} (pending : Matched store)
    (recorded : RecordedBut (· = event) store)
    (undisposed : (∃ row ∈ store.agentInboxEvents.rows, row.id = event ∧ row.disposal = none) ∨
      ∃ retry ∈ store.agentCapacityRetries.rows, retry.eventId = event)
    (done : scheduleRetry store event work turn attempt due = .ok after) : InStep after := by
  obtain ⟨retries, inserted, rfl⟩ := scheduleRetry_ok done
  have rows := Table.insert_rows inserted
  refine ⟨?_, ?_⟩
  · intro retry member
    rw [rows, List.mem_append, List.mem_singleton] at member
    rcases member with member | rfl
    · exact pending retry member
    · rcases undisposed with ⟨row, row_mem, same, opened⟩ | ⟨other, other_mem, same⟩
      · exact ⟨row, row_mem, same, fun _ => opened, fun _ => rfl⟩
      · exact absurd same (Table.compatible_of_insert inserted other other_mem).1
  · intro row member kind _
    by_cases new : row.id = event
    · exact ⟨_, Table.mem_insert inserted, new.symm⟩
    · obtain ⟨retry, retry_mem, same⟩ := recorded row member kind new
      refine ⟨retry, ?_, same⟩
      rw [rows]
      exact List.mem_append_left _ retry_mem

theorem completeAgentTurnWithEvent_inStep {input : EnqueueAgentEvent}
    {partialOutput : List Observation} (inStep : InStep store)
    (promised : isTurnReceipt input.eventKind = true)
    (done : completeAgentTurnWithEvent host store id turn input partialOutput now = .ok after) :
    InStep after := by
  unfold completeAgentTurnWithEvent at done
  obtain ⟨_, _, done⟩ := bind_ok done
  obtain ⟨_, _, done⟩ := bind_ok done
  obtain ⟨_, _, done⟩ := bind_ok done
  obtain ⟨item, _, done⟩ := bind_ok done
  obtain ⟨_, _, done⟩ := bind_ok done
  obtain ⟨⟨terminal, retry⟩, prepare, done⟩ := bind_ok done
  obtain ⟨retained, retain, done⟩ := bind_ok done
  obtain ⟨⟨recorded, event⟩, record, done⟩ := bind_ok done
  obtain ⟨idle, idling, done⟩ := bind_ok done
  obtain ⟨resolved, resolve, done⟩ := bind_ok done
  obtain ⟨handled, handle, finish⟩ := bind_ok done
  have retaining : InStep retained := observeEach_inStep inStep retain
  have kind := terminalInput_kind (receiptInput_ne promised) prepare
  cases retry with
  | none =>
    have other : terminal.eventKind ≠ "capacity_retry" := fun same => nomatch kind.mp same
    cases finish
    exact dispose_inStep (dispose_inStep
      (updateWork_inStep (recordOnce_inStep retaining other record) idling) resolve) handle
  | some scheduled =>
    obtain ⟨pending, receipts, sameRetries, eventKind, fresh⟩ :=
      recordOnce_capacity retaining (kind.mpr rfl) record
    obtain ⟨event_mem, _, _⟩ := recordOnce_event record
    dsimp only at pending receipts sameRetries eventKind fresh event_mem
    obtain ⟨works, _, rfl⟩ := updateWork_ok idling
    have pendingIdle : Matched { recorded with agentWorkItems := works } := pending
    have receiptsIdle : RecordedBut (· = event.id) { recorded with agentWorkItems := works } :=
      receipts
    have pendingHandled : Matched handled :=
      dispose_matched (dispose_matched pendingIdle resolve) handle
    have receiptsHandled : RecordedBut (· = event.id) handled :=
      dispose_recorded (dispose_recorded receiptsIdle resolve) handle
    refine scheduleRetry_inStep pendingHandled receiptsHandled ?_ finish
    rcases fresh with opened | held
    · refine .inl ⟨event, ?_, rfl, opened⟩
      -- neither disposition selects a capacity receipt
      have resolvedEvent := disposeEvents_keepsMissed resolve event_mem (by simp [eventKind])
      exact disposeEvents_keepsMissed handle resolvedEvent (by simp [eventKind])
    · rw [← sameRetries] at held
      exact .inr (disposeEvents_keepsRetries handle (disposeEvents_keepsRetries resolve held))

theorem perform_inStep {call : AgentCall} (inStep : InStep store) (promised : Promised call)
    (done : perform host store now call = .ok after) : InStep after := by
  cases call with
  | createAgentWork item manager =>
    unfold perform createAgentWork at done
    obtain ⟨_, _, done⟩ := bind_ok done
    obtain ⟨_, _, done⟩ := bind_ok done
    obtain ⟨_, _, done⟩ := bind_ok done
    obtain ⟨_, _, done⟩ := bind_ok done
    obtain ⟨works, _, done⟩ := bind_ok done
    obtain ⟨_, _, done⟩ := bind_ok done
    cases done
    exact inStep_of_same inStep rfl rfl
  | setAgentWorkStatus id status next =>
    unfold perform setAgentWorkStatus at done
    obtain ⟨_, _, done⟩ := bind_ok done
    obtain ⟨_, _, done⟩ := bind_ok done
    exact updateStatus_inStep inStep done
  | beginAgentThreadCreation id =>
    unfold perform beginAgentThreadCreation at done
    obtain ⟨item, _, done⟩ := bind_ok done
    obtain ⟨_, _, done⟩ := bind_ok done
    exact updateWork_inStep inStep done
  | acknowledgeAgentThreadCreation id thread =>
    unfold perform acknowledgeAgentThreadCreation at done
    obtain ⟨_, _, done⟩ := bind_ok done
    obtain ⟨item, _, done⟩ := bind_ok done
    obtain ⟨_, _, done⟩ := bind_ok done
    exact updateWork_inStep inStep done
  | beginAgentDispatchWithInput id eventIds instruction pending stale =>
    exact beginAgentDispatchWithInput_inStep inStep done
  | acknowledgeAgentDispatch id turn execution deliveries =>
    exact acknowledgeAgentDispatch_inStep inStep done
  | completeAgentTurn id turn =>
    unfold perform completeAgentTurn at done
    obtain ⟨item, _, done⟩ := bind_ok done
    obtain ⟨_, _, done⟩ := bind_ok done
    exact updateWork_inStep inStep done
  | completeAgentTurnWithEvent id turn input partialOutput =>
    exact completeAgentTurnWithEvent_inStep inStep promised done
  | reconcileAgentDispatch id turn deliveries => exact reconcileAgentDispatch_inStep inStep done
  | markAgentDispatchUnknown id =>
    unfold perform markAgentDispatchUnknown at done
    obtain ⟨item, _, done⟩ := bind_ok done
    obtain ⟨_, _, done⟩ := bind_ok done
    exact updateWork_inStep inStep done
  | rejectAgentDispatch previous owned retryEvent refusal =>
    exact rejectAgentDispatch_inStep inStep done
  | observeAgentNativeTurn thread turn connection payload account owned =>
    obtain ⟨result, observed, rfl⟩ := perform_observe done
    exact observeAgentNativeTurn_inStep inStep observed
  | beginAgentCapacityRetry work event due pending =>
    exact beginAgentCapacityRetry_inStep inStep done
  | cancelAgentCapacityRetry work event => exact cancelAgentCapacityRetry_inStep inStep done
  | cancelRevertedAgentCapacityRetries thread owned =>
    unfold perform cancelRevertedAgentCapacityRetries at done
    obtain ⟨_, _, done⟩ := bind_ok done
    exact foldlM_ok_prefix (fun _ reached => InStep reached)
      (fun _ _ _ _ held round => cancelPendingWithNote_inStep held round) inStep done
  | enqueueAgentEvent input observation busy => exact insertEvent_inStep inStep promised done
  | disposeAgentEvent id disposition note next => exact disposeAgentEvent_inStep inStep done
  | holdAgentUnsentInput work reason =>
    unfold perform holdAgentUnsentInput at done
    obtain ⟨_, _, done⟩ := bind_ok done
    exact dispose_inStep inStep done
  | retryAgentInput work thread id busy => exact retryAgentInput_inStep inStep done

end Decodex.Guarantees.RetriesInStep
