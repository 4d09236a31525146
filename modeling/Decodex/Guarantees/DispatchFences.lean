import Decodex.Source.Store.AgentMoves

/-!
# Agent dispatch is fenced

In every state that a run of the agent calls reaches, a claim belongs to work that is being
dispatched or was lost, a begin finds idle work only, lost work is recovered by reconciliation
alone, and a turn that is acknowledged or reconciled takes every claim of its work. The receipt
of a finished turn is recorded by the transaction that frees the work.
-/
namespace Decodex.Guarantees.DispatchFences

open Decodex.Library Decodex.Source.Core Decodex.Source.Store
open Decodex.Source.Store.AgentDispatch

variable {host : PayloadHost} {store after : AgentStore} {now : Int} {id turn : String}

/-- Which turn each dispatch state names. -/
def TurnFits (item : AgentWorkItem) : Prop :=
  (item.dispatchState = .idle ∨ item.dispatchState = .dispatching → item.activeTurnId = none) ∧
    (item.dispatchState = .running → item.activeTurnId ≠ none)

/-- The claimed events of undecided input, and the work that holds them. -/
structure Fenced (store : AgentStore) : Prop where
  turns : ∀ item ∈ store.agentWorkItems.rows, TurnFits item
  held : ∀ row ∈ store.agentInboxEvents.rows, ∀ id, isClaim id row = true →
    ∃ item, store.agentWorkItems.find? id = some item ∧
      (item.dispatchState = .dispatching ∨ item.dispatchState = .unknown)
  exclusive : ∀ row ∈ store.agentInboxEvents.rows, ∀ other ∈ store.agentInboxEvents.rows,
    row.id = other.id → ∀ id id', isClaim id row = true → isClaim id' other = true → id = id'

/-- The calls that start a dispatch of a work item. -/
def begins (id : String) : AgentCall → Prop
  | .beginAgentThreadCreation work => work = id
  | .beginAgentDispatchWithInput work _ _ _ _ => work = id
  | .beginAgentCapacityRetry work _ _ _ => work = id
  | _ => False

/-- The calls that confirm a dispatch of a work item with a turn. -/
def confirms (id turn : String) : AgentCall → Prop
  | .acknowledgeAgentDispatch work started _ _ => work = id ∧ started = turn
  | .reconcileAgentDispatch work started _ => work = id ∧ started = turn
  | _ => False

/-- What an accepted call respects. -/
structure Respects (call : AgentCall) (store after : AgentStore) : Prop where
  /-- Only idle work is dispatched. -/
  idle : ∀ id, begins id call → ∃ item, store.agentWorkItems.find? id = some item ∧
    item.dispatchState = .idle
  /-- An open claim is never taken over by other work. -/
  keeps : ∀ row ∈ store.agentInboxEvents.rows, ∀ id, isClaim id row = true →
    ∀ row' ∈ after.agentInboxEvents.rows, row'.id = row.id → ∀ id', isClaim id' row' = true →
      id' = id
  /-- Lost work stays lost, or is reconciled with its recorded turn. -/
  lost : ∀ id item, store.agentWorkItems.find? id = some item → item.dispatchState = .unknown →
    ∃ item', after.agentWorkItems.find? id = some item' ∧
      (laneOf item' = laneOf item ∨
        ∃ turn deliveries, call = .reconcileAgentDispatch id turn deliveries ∧
          (item.activeTurnId = none ∨ item.activeTurnId = some turn) ∧
          item'.dispatchState = .running ∧ item'.activeTurnId = some turn)
  /-- A confirmed dispatch hands all its open claims to the turn. -/
  delivered : ∀ id turn, confirms id turn call →
    ∀ row ∈ store.agentInboxEvents.rows, isClaim id row = true →
    ∀ row' ∈ after.agentInboxEvents.rows, row'.id = row.id → row'.disposal = none →
      row'.delivery = some ⟨id, turn⟩
  /-- The work is freed by the transaction that records the receipt of its turn. -/
  recorded : ∀ id turn input partialOutput,
    call = .completeAgentTurnWithEvent id turn input partialOutput →
    (∃ item, store.agentWorkItems.find? id = some item ∧ item.dispatchState = .running ∧
      item.activeTurnId = some turn) ∧
    (∃ item, after.agentWorkItems.find? id = some item ∧ item.dispatchState = .idle ∧
      item.activeTurnId = none) ∧
    ∃ row ∈ after.agentInboxEvents.rows, row.sourceEventId = input.sourceEventId ∧
      row.workItemId = id ∧ ∀ other ∈ after.agentInboxEvents.rows,
        other.sourceEventId = input.sourceEventId → other = row

/-- A lane that may hold claims. -/
def Holds (lane : Lane) : Prop :=
  (lane.state = .dispatching ∨ lane.state = .unknown) ∧ lane.thread ≠ none

/-- Claims belong to lanes that may hold them, and retries name the turn that failed. -/
structure Consistent (store : AgentStore) : Prop where
  claimed : ∀ row ∈ store.agentInboxEvents.rows, ∀ id, row.disposal = none →
    row.delivery = claimOf id →
    ∃ item, store.agentWorkItems.find? id = some item ∧ Holds (laneOf item)
  named : ∀ retry ∈ store.agentCapacityRetries.rows, retry.failedTurnId ≠ ""

/-- A claim after a move of one lane is a claim of that lane, or was one before. -/
theorem claimed_of_effect {move : Lane → Lane} {relates : Option Delivery → Option Delivery → Prop}
    {item : AgentWorkItem} (effect : Effect (moveLane id move) relates store after)
    (consistent : Consistent store) (found : store.agentWorkItems.find? id = some item)
    (other : ∀ old id', id' ≠ id → relates old (claimOf id') → old = claimOf id')
    (own : ∀ old, relates old (claimOf id) → (old = claimOf id → Holds (laneOf item)) →
      Holds (move (laneOf item))) :
    ∀ row ∈ after.agentInboxEvents.rows, ∀ id, row.disposal = none → row.delivery = claimOf id →
      ∃ item, after.agentWorkItems.find? id = some item ∧ Holds (laneOf item) := by
  intro row member id' undisposed claim
  have origin : ∃ old, relates old (claimOf id') ∧ (old = claimOf id' →
      ∃ item, store.agentWorkItems.find? id' = some item ∧ Holds (laneOf item)) := by
    rcases effect.events.traced row member undisposed with ⟨old, old_mem, _, opened, related⟩ | fresh
    · rw [claim] at related
      exact ⟨old.delivery, related, consistent.claimed old old_mem id' opened⟩
    · have related := fresh.2
      rw [claim] at related
      exact ⟨none, related, nofun⟩
  obtain ⟨old, related, before⟩ := origin
  by_cases same : id' = id
  · subst same
    obtain ⟨item', found', lane⟩ := effect.lanes id' item found
    refine ⟨item', found', ?_⟩
    rw [lane, moveLane, if_pos rfl]
    apply own old related
    intro claimedBefore
    obtain ⟨held, foundHeld, holds⟩ := before claimedBefore
    rw [found] at foundHeld
    cases foundHeld
    exact holds
  · obtain ⟨held, foundHeld, holds⟩ := before (other old id' same related)
    obtain ⟨item', found', lane⟩ := effect.lanes id' held foundHeld
    refine ⟨item', found', ?_⟩
    rw [lane, moveLane, if_neg same]
    exact holds

theorem claimed_of_quiet (effect : Quiet store after) (consistent : Consistent store) :
    ∀ row ∈ after.agentInboxEvents.rows, ∀ id, row.disposal = none → row.delivery = claimOf id →
      ∃ item, after.agentWorkItems.find? id = some item ∧ Holds (laneOf item) := by
  intro row member id undisposed claim
  rcases effect.events.traced row member undisposed with ⟨old, old_mem, _, opened, same⟩ | fresh
  · obtain ⟨item, found, holds⟩ := consistent.claimed old old_mem id opened (same.trans claim)
    obtain ⟨item', found', lane⟩ := effect.lanes id item found
    exact ⟨item', found', lane ▸ holds⟩
  · have new := fresh.2
    rw [claim] at new
    cases new

theorem updateRetries_named {selected : CapacityRetry → Bool}
    {change : CapacityRetry → CapacityRetry}
    (done : updateRetries host store selected change = .ok after)
    (keeps : ∀ row, retryIdentity (change row) = retryIdentity row)
    (named : ∀ retry ∈ store.agentCapacityRetries.rows, retry.failedTurnId ≠ "") :
    ∀ retry ∈ after.agentCapacityRetries.rows, retry.failedTurnId ≠ "" := by
  obtain ⟨_, retries, updated, rfl⟩ := updateRetries_ok done
  intro row member
  rw [Table.updateWhere_rows updated] at member
  obtain ⟨old, old_mem, rfl⟩ := List.mem_map.mp member
  split
  · have identity := keeps old
    simp only [retryIdentity, Prod.mk.injEq] at identity
    rw [identity.2.2.1]
    exact named old old_mem
  · exact named old old_mem

theorem named_of_statements {moves back links : Prop}
    (steps : Statements host moves back links store after)
    (named : ∀ retry ∈ store.agentCapacityRetries.rows, retry.failedTurnId ≠ "") :
    ∀ retry ∈ after.agentCapacityRetries.rows, retry.failedTurnId ≠ "" := by
  induction steps with
  | refl => exact named
  | tail _ step ih =>
    cases step with
    | create inserted done => exact done ▸ ih
    | work done keeps =>
      obtain ⟨works, _, rfl⟩ := updateWork_ok done
      exact ih
    | lane allowed done keeps =>
      obtain ⟨works, _, rfl⟩ := updateWork_ok done
      exact ih
    | delegate done => exact done ▸ ih
    | record done closed =>
      obtain ⟨events, _, rfl⟩ := insertRow_ok done
      exact ih
    | instruct allowed done =>
      obtain ⟨events, _, rfl⟩ := insertRow_ok done
      exact ih
    | deliver allowed done =>
      obtain ⟨_, events, _, rfl⟩ := updateEvents_ok done
      exact ih
    | settle done =>
      obtain ⟨_, events, _, rfl⟩ := updateEvents_ok done
      exact ih
    | takeBack allowed done =>
      obtain ⟨_, events, _, rfl⟩ := updateEvents_ok done
      exact ih
    | retry done keeps => exact updateRetries_named done (fun row => (keeps row).1) ih
    | submit allowed done => exact updateRetries_named done (fun _ => rfl) ih
    | schedule allowed done turnNamed =>
      obtain ⟨retries, inserted, rfl⟩ := scheduleRetry_ok done
      intro row member
      rw [Table.insert_rows inserted, List.mem_append, List.mem_singleton] at member
      rcases member with member | rfl
      · exact ih row member
      · exact turnNamed

/-- A lane that holds nothing may move anywhere. -/
theorem claimed_of_free {move : Lane → Lane} {item : AgentWorkItem}
    (effect : Effect (moveLane id move) (· = ·) store after) (consistent : Consistent store)
    (found : store.agentWorkItems.find? id = some item) (free : ¬Holds (laneOf item)) :
    ∀ row ∈ after.agentInboxEvents.rows, ∀ id, row.disposal = none → row.delivery = claimOf id →
      ∃ item, after.agentWorkItems.find? id = some item ∧ Holds (laneOf item) := by
  apply claimed_of_effect effect consistent found
  · intro old id' _ same
    exact same
  · intro old same before
    exact absurd (before same) free

/-- A lane whose claims are all withdrawn may move anywhere. -/
theorem claimed_of_withdrawn {move : Lane → Lane}
    {relates : Option Delivery → Option Delivery → Prop} {item : AgentWorkItem}
    (effect : Effect (moveLane id move) relates store after) (consistent : Consistent store)
    (found : store.agentWorkItems.find? id = some item)
    (withdrawn : ∀ old new, relates old new → withdraws id old new) :
    ∀ row ∈ after.agentInboxEvents.rows, ∀ id, row.disposal = none → row.delivery = claimOf id →
      ∃ item, after.agentWorkItems.find? id = some item ∧ Holds (laneOf item) := by
  apply claimed_of_effect effect consistent found
  · intro old id' _ related
    by_cases claimed : old = claimOf id
    · exact absurd rfl ((withdrawn _ _ related).1 claimed id')
    · exact ((withdrawn _ _ related).2 claimed).symm
  · intro old related _
    by_cases claimed : old = claimOf id
    · exact absurd rfl ((withdrawn _ _ related).1 claimed id)
    · exact absurd ((withdrawn _ _ related).2 claimed).symm claimed

theorem claimed_of_begin {item : AgentWorkItem}
    (effect : Effect (moveLane id Lane.fence) (claims id) store after)
    (consistent : Consistent store) (found : store.agentWorkItems.find? id = some item)
    (threaded : item.codexThreadId ≠ none) :
    ∀ row ∈ after.agentInboxEvents.rows, ∀ id, row.disposal = none → row.delivery = claimOf id →
      ∃ item, after.agentWorkItems.find? id = some item ∧ Holds (laneOf item) := by
  apply claimed_of_effect effect consistent found
  · intro old id' apart related
    rcases related with same | ⟨same, _⟩
    · exact same.symm
    · unfold claimOf at same
      simp only [Option.some.injEq, Delivery.mk.injEq, and_true] at same
      exact absurd same apart
  · intro old _ _
    exact ⟨.inl rfl, threaded⟩

theorem claimed_of_perform {call : AgentCall} (consistent : Consistent store)
    (done : perform host store now call = .ok after) :
    ∀ row ∈ after.agentInboxEvents.rows, ∀ id, row.disposal = none → row.delivery = claimOf id →
      ∃ item, after.agentWorkItems.find? id = some item ∧ Holds (laneOf item) := by
  by_cases moves : call.moves
  · cases call with
    | beginAgentThreadCreation id =>
      obtain ⟨item, found, _, unbound, effect⟩ := beginAgentThreadCreation_effect done
      exact claimed_of_free effect consistent found fun holds => holds.2 unbound
    | acknowledgeAgentThreadCreation id thread =>
      obtain ⟨item, found, _, unbound, effect⟩ := acknowledgeAgentThreadCreation_effect done
      exact claimed_of_free effect consistent found fun holds => holds.2 unbound
    | beginAgentDispatchWithInput id eventIds instruction pending stale =>
      obtain ⟨item, found, _, threaded, effect⟩ := beginAgentDispatchWithInput_effect done
      exact claimed_of_begin effect consistent found threaded
    | beginAgentCapacityRetry work event due pending =>
      obtain ⟨item, found, _, threaded, effect⟩ := beginAgentCapacityRetry_effect done
      exact claimed_of_begin effect consistent found threaded
    | acknowledgeAgentDispatch id turn execution deliveries =>
      obtain ⟨item, found, _, named, effect⟩ := acknowledgeAgentDispatch_effect done
      exact claimed_of_withdrawn effect consistent found fun old new same =>
        same ▸ withdraws_redirect named old
    | reconcileAgentDispatch id turn deliveries =>
      obtain ⟨item, found, _, _, named, effect⟩ := reconcileAgentDispatch_effect done
      exact claimed_of_withdrawn effect consistent found fun old new same =>
        same ▸ withdraws_redirect named old
    | completeAgentTurn id turn =>
      obtain ⟨item, found, running, _, effect⟩ := completeAgentTurn_effect done
      apply claimed_of_free effect consistent found
      simp [Holds, laneOf, running]
    | completeAgentTurnWithEvent id turn input partialOutput =>
      obtain ⟨⟨item, found, running, _, effect⟩, _⟩ := completeAgentTurnWithEvent_effect done
      apply claimed_of_free effect consistent found
      simp [Holds, laneOf, running]
    | markAgentDispatchUnknown id =>
      obtain ⟨item, found, _, effect⟩ := markAgentDispatchUnknown_effect done
      apply claimed_of_effect effect consistent found
      · intro old id' _ same
        exact same
      · intro old same before
        exact ⟨.inr rfl, (before same).2⟩
    | rejectAgentDispatch previous owned retryEvent refusal =>
      obtain ⟨item, found, _, effect⟩ := rejectAgentDispatch_effect consistent.named done
      exact claimed_of_withdrawn effect consistent found fun _ _ withdrew => withdrew
    | observeAgentNativeTurn thread turn connection payload account owned =>
      obtain ⟨result, observed, rfl⟩ := perform_observe done
      rcases observeAgentNativeTurn_effect observed with quiet | ⟨id, item, found, idle, effect⟩
      · exact claimed_of_quiet quiet consistent
      · apply claimed_of_free effect consistent found
        simp [Holds, laneOf, idle]
    | _ => exact moves.elim
  · exact claimed_of_quiet (quiet_of_perform moves done) consistent

theorem claimOf_inj {id id' : String} (same : claimOf id = claimOf id') : id = id' := by
  unfold claimOf at same
  simpa using same

/-- Deliveries that are related this way never hand a claim to other work. -/
def KeepsHolders (relates : Option Delivery → Option Delivery → Prop) : Prop :=
  ∀ id id', relates (claimOf id) (claimOf id') → id' = id

theorem claims_keepsHolders (id : String) : KeepsHolders (claims id) := by
  intro old new related
  rcases related with same | ⟨same, own⟩
  · exact claimOf_inj same
  · rw [claimOf_inj same]
    exact (own ⟨old, ""⟩ rfl).symm

theorem withdraws_keepsHolders (id : String) : KeepsHolders (withdraws id) := by
  intro old new related
  by_cases claimed : claimOf old = claimOf id
  · exact absurd rfl (related.1 claimed new)
  · exact claimOf_inj (related.2 claimed)

theorem redirect_keepsHolders (named : turn ≠ "") :
    KeepsHolders fun old new => new = redirect id turn old := by
  intro old new related
  apply withdraws_keepsHolders id
  rw [related]
  exact withdraws_redirect named _

theorem eq_keepsHolders : KeepsHolders (· = ·) :=
  fun _ _ same => (claimOf_inj same).symm

/-- What a call may do to the lane of lost work. -/
def KeepsLost (call : AgentCall) (move : String → Lane → Lane) (store : AgentStore) : Prop :=
  ∀ id item, store.agentWorkItems.find? id = some item → item.dispatchState = .unknown →
    move id (laneOf item) = laneOf item ∨
      ∃ turn deliveries, call = .reconcileAgentDispatch id turn deliveries ∧
        (item.activeTurnId = none ∨ item.activeTurnId = some turn) ∧
        move id (laneOf item) = (laneOf item).run turn

theorem moveLane_keepsLost {call : AgentCall} {move : Lane → Lane} {item : AgentWorkItem}
    (found : store.agentWorkItems.find? id = some item) (known : item.dispatchState ≠ .unknown) :
    KeepsLost call (moveLane id move) store := by
  intro other item' found' lost
  refine .inl (if_neg ?_)
  intro same
  rw [same, found] at found'
  cases found'
  exact known lost

/-- Every accepted call moves lanes and deliveries, and hands no claim to other work. -/
theorem perform_effect {call : AgentCall} (consistent : Consistent store)
    (done : perform host store now call = .ok after) :
    ∃ move relates, Effect move relates store after ∧ KeepsHolders relates ∧
      KeepsLost call move store := by
  by_cases moves : call.moves
  · cases call with
    | beginAgentThreadCreation id =>
      obtain ⟨item, found, idle, _, effect⟩ := beginAgentThreadCreation_effect done
      exact ⟨_, _, effect, eq_keepsHolders, moveLane_keepsLost found (by simp [idle])⟩
    | acknowledgeAgentThreadCreation id thread =>
      obtain ⟨item, found, known, _, effect⟩ := acknowledgeAgentThreadCreation_effect done
      exact ⟨_, _, effect, eq_keepsHolders, moveLane_keepsLost found (by simp [known])⟩
    | beginAgentDispatchWithInput id eventIds instruction pending stale =>
      obtain ⟨item, found, idle, _, effect⟩ := beginAgentDispatchWithInput_effect done
      exact ⟨_, _, effect, claims_keepsHolders id, moveLane_keepsLost found (by simp [idle])⟩
    | beginAgentCapacityRetry work event due pending =>
      obtain ⟨item, found, idle, _, effect⟩ := beginAgentCapacityRetry_effect done
      exact ⟨_, _, effect, claims_keepsHolders work, moveLane_keepsLost found (by simp [idle])⟩
    | acknowledgeAgentDispatch id turn execution deliveries =>
      obtain ⟨item, found, known, named, effect⟩ := acknowledgeAgentDispatch_effect done
      exact ⟨_, _, effect, redirect_keepsHolders named, moveLane_keepsLost found (by simp [known])⟩
    | reconcileAgentDispatch id turn deliveries =>
      obtain ⟨item, found, _, active, named, effect⟩ := reconcileAgentDispatch_effect done
      refine ⟨_, _, effect, redirect_keepsHolders named, ?_⟩
      intro other item' found' _
      by_cases same : other = id
      · subst same
        rw [found] at found'
        cases found'
        exact .inr ⟨turn, deliveries, rfl, active, if_pos rfl⟩
      · exact .inl (if_neg same)
    | completeAgentTurn id turn =>
      obtain ⟨item, found, running, _, effect⟩ := completeAgentTurn_effect done
      exact ⟨_, _, effect, eq_keepsHolders, moveLane_keepsLost found (by simp [running])⟩
    | completeAgentTurnWithEvent id turn input partialOutput =>
      obtain ⟨⟨item, found, running, _, effect⟩, _⟩ := completeAgentTurnWithEvent_effect done
      exact ⟨_, _, effect, eq_keepsHolders, moveLane_keepsLost found (by simp [running])⟩
    | markAgentDispatchUnknown id =>
      obtain ⟨item, found, known, effect⟩ := markAgentDispatchUnknown_effect done
      refine ⟨_, _, effect, eq_keepsHolders, moveLane_keepsLost found ?_⟩
      rcases known with known | known <;> simp [known]
    | rejectAgentDispatch previous owned retryEvent refusal =>
      obtain ⟨item, found, known, effect⟩ := rejectAgentDispatch_effect consistent.named done
      exact ⟨_, _, effect, withdraws_keepsHolders previous.id,
        moveLane_keepsLost found (by simp [known])⟩
    | observeAgentNativeTurn thread turn connection payload account owned =>
      obtain ⟨result, observed, rfl⟩ := perform_observe done
      rcases observeAgentNativeTurn_effect observed with quiet | ⟨id, item, found, idle, effect⟩
      · exact ⟨_, _, quiet, eq_keepsHolders, fun _ _ _ _ => .inl rfl⟩
      · exact ⟨_, _, effect, eq_keepsHolders, moveLane_keepsLost found (by simp [idle])⟩
    | _ => exact moves.elim
  · exact ⟨_, _, quiet_of_perform moves done, eq_keepsHolders, fun _ _ _ _ => .inl rfl⟩

theorem begins_idle {call : AgentCall} (done : perform host store now call = .ok after)
    (begun : begins id call) : ∃ item, store.agentWorkItems.find? id = some item ∧
      item.dispatchState = .idle := by
  cases call with
  | beginAgentThreadCreation work =>
    obtain ⟨item, found, idle, _⟩ := beginAgentThreadCreation_effect done
    exact ⟨item, begun ▸ found, idle⟩
  | beginAgentDispatchWithInput work eventIds instruction pending stale =>
    obtain ⟨item, found, idle, _⟩ := beginAgentDispatchWithInput_effect done
    exact ⟨item, begun ▸ found, idle⟩
  | beginAgentCapacityRetry work event due pending =>
    obtain ⟨item, found, idle, _⟩ := beginAgentCapacityRetry_effect done
    exact ⟨item, begun ▸ found, idle⟩
  | _ => exact begun.elim

theorem confirms_effect {call : AgentCall} (done : perform host store now call = .ok after)
    (confirmed : confirms id turn call) :
    Effect (moveLane id (Lane.run turn)) (fun old new => new = redirect id turn old) store
      after := by
  cases call with
  | acknowledgeAgentDispatch work started execution deliveries =>
    obtain ⟨rfl, rfl⟩ := confirmed
    obtain ⟨item, _, _, _, effect⟩ := acknowledgeAgentDispatch_effect done
    exact effect
  | reconcileAgentDispatch work started deliveries =>
    obtain ⟨rfl, rfl⟩ := confirmed
    obtain ⟨item, _, _, _, _, effect⟩ := reconcileAgentDispatch_effect done
    exact effect
  | _ => exact confirmed.elim

/-- What became of an event that stood before. -/
theorem delivery_of_effect {move : String → Lane → Lane}
    {relates : Option Delivery → Option Delivery → Prop} (effect : Effect move relates store after)
    {row row' : AgentInboxEvent} (member : row ∈ store.agentInboxEvents.rows)
    (member' : row' ∈ after.agentInboxEvents.rows) (same : row'.id = row.id)
    (undisposed : row'.disposal = none) : relates row.delivery row'.delivery := by
  rcases effect.events.traced row' member' undisposed with ⟨old, old_mem, sameOld, _, related⟩ | fresh
  · have equal : old = row := Table.eq_of_key old_mem member (sameOld.trans same)
    exact equal ▸ related
  · exact absurd same.symm (fresh.1 row member)

theorem isClaim_iff {row : AgentInboxEvent} :
    isClaim id row = true ↔ row.delivery = claimOf id ∧ row.disposal = none := by
  simp [isClaim, claimOf]

theorem respects_of_perform {call : AgentCall} (consistent : Consistent store)
    (done : perform host store now call = .ok after) : Respects call store after := by
  obtain ⟨move, relates, effect, holders, lost⟩ := perform_effect consistent done
  refine ⟨fun id begun => begins_idle done begun, ?_, ?_, ?_, ?_⟩
  · intro row member id claim row' member' same id' claim'
    rw [isClaim_iff] at claim claim'
    have related := delivery_of_effect effect member member' same claim'.2
    rw [claim.1, claim'.1] at related
    exact holders id id' related
  · intro id item found unknown
    obtain ⟨item', found', lane⟩ := effect.lanes id item found
    refine ⟨item', found', ?_⟩
    rcases lost id item found unknown with still | ⟨turn, deliveries, reconciled, active, moved⟩
    · exact .inl (lane.trans still)
    · have ran := lane.trans moved
      unfold laneOf Lane.run at ran
      simp only [Lane.mk.injEq] at ran
      exact .inr ⟨turn, deliveries, reconciled, active, ran.1, ran.2.2⟩
  · intro id turn confirmed row member claim row' member' same undisposed
    rw [isClaim_iff] at claim
    have related := delivery_of_effect (confirms_effect done confirmed) member member' same undisposed
    rw [related, redirect_claim claim.1]
  · rintro id turn input partialOutput rfl
    obtain ⟨⟨item, found, running, active, ended⟩, row, member, source, owner⟩ :=
      completeAgentTurnWithEvent_effect done
    obtain ⟨item', found', lane⟩ := ended.lanes id item found
    rw [moveLane, if_pos rfl] at lane
    unfold laneOf Lane.rest at lane
    simp only [Lane.mk.injEq] at lane
    refine ⟨⟨item, found, running, active⟩, ⟨item', found', lane.1, lane.2.2⟩, row, member, source,
      owner, ?_⟩
    intro other other_mem sameSource
    by_contra apart
    have clash := Table.no_clash other_mem member fun key =>
      apart (Table.eq_of_key other_mem member key)
    simp [inboxEventTable, sameSource, source] at clash

theorem consistent_stateAfter (host : PayloadHost) (events : List (AgentCall × Int)) :
    Consistent (stateAfter host events) := by
  refine stateAfter_invariant (fun _ _ => True) ⟨List.forall_mem_nil _, List.forall_mem_nil _⟩ ?_
    events
    fun _ _ _ _ => trivial
  intro store call now after consistent _ done
  exact ⟨claimed_of_perform consistent done,
    named_of_statements (perform_statements done) consistent.named⟩

theorem fenced_of_consistent (consistent : Consistent store) : Fenced store := by
  refine ⟨?_, ?_, ?_⟩
  · intro item member
    have checked := store.agentWorkItems.checked item member
    simp only [workItemTable, Bool.and_eq_true] at checked
    have shape := checked.2
    unfold AgentWorkItem.dispatchShape at shape
    refine ⟨?_, ?_⟩
    · rintro (state | state) <;> simpa [state] using shape
    · intro state
      rw [state] at shape
      exact Option.isSome_iff_ne_none.mp shape
  · intro row member id claim
    rw [isClaim_iff] at claim
    obtain ⟨item, found, holds⟩ := consistent.claimed row member id claim.2 claim.1
    exact ⟨item, found, holds.1⟩
  · intro row member other other_mem same id id' claim claim'
    have equal := Table.eq_of_key member other_mem same
    rw [equal, isClaim_iff] at claim
    rw [isClaim_iff] at claim'
    exact claimOf_inj (claim.1.symm.trans claim'.1)

/-- In every state that a run reaches, dispatch is fenced, and every accepted call respects it. -/
theorem dispatch_is_fenced (host : PayloadHost) (events : List (AgentCall × Int)) :
    Fenced (stateAfter host events) ∧
      ∀ call now after, perform host (stateAfter host events) now call = .ok after →
        Respects call (stateAfter host events) after := by
  have consistent := consistent_stateAfter host events
  refine ⟨fenced_of_consistent consistent, ?_⟩
  intro call now after done
  exact respects_of_perform consistent done

end Decodex.Guarantees.DispatchFences
