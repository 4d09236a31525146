import Decodex.Library.Run
import Decodex.Source.Store.TurnChanges
import Decodex.Guarantees.ProviderAttempts

/-!
# Settled turns

Over every sequence of committed operations that write turns or history items, each with any
arguments, while everything else changes at will between them. A completed or failed turn
stays as it is, with its items, as long as two things that the operations do not check hold
before each of them: `record_history_item` updates items of active turns only, and
`terminalize_conversation_turn` closes turns without streaming items.
-/
namespace Decodex.Guarantees.SettledTurns

open Decodex.Library
open Decodex.Source.Core Decodex.Source.Store Decodex.Source.Store.Conversations
open Decodex.Source.Store.ProviderAttempts
open Decodex.Guarantees.Samples
open Decodex.Guarantees.ProviderAttempts (sampleStore)

/-- The database and the blob files. -/
structure StoreState where
  store : SqliteStore
  blobs : BlobStore

/-- A committed operation, or a change of other data. -/
inductive TurnEvent (host : Host) where
  | admitInitial (outcome : InitialConversationTurnAdmissionOutcome)
  | record (command : CommandIdentity) (mutation : RecordHistoryItem host) (fresh : Bool)
  | reserve (mutation : RecordHistoryItem host) (fresh : Bool)
  | transition (turnId : TurnId) (revision : Int)
  | terminalize (key : String) (request : TerminalizeConversationTurn)
      (outcome : ConversationTerminalizationOutcome)
  | reconcile (request : ReconcileStrandedConversationTurn)
      (outcome : ReconcileStrandedConversationTurnOutcome)
  | recover (request : RecoverUnknownConversationTurn)
      (outcome : RecoverUnknownConversationTurnOutcome)
  | positiveEvidence (evidence : ProviderPositiveEvidence)
      (outcome : ProviderAttemptMutationOutcome)
  | resumeRejection (request : RecordConversationResumeRejection)
  | bindFallback (changed : Nat)
  | other

/-- The reservation of a turn reads it in an earlier transaction, whose state may differ. -/
def TurnStep (host : Host) (s : StoreState) (event : TurnEvent host) (t : StoreState) : Prop :=
  match event with
  | .admitInitial outcome => ∃ key, ∃ request : AdmitInitialConversationTurn host, ∃ now,
      admitInitialConversationTurn key request now s.store s.blobs = .ok (outcome, t.store, t.blobs)
  | .record command mutation fresh => ∃ now entry,
      recordHistoryItemCommit command mutation now s.store s.blobs
        = .ok ((entry, fresh), t.store, t.blobs)
  | .reserve mutation fresh => ∃ command earlier existing now entry,
      validateReservation mutation = .ok () ∧
        readTurnReservation mutation earlier = .ok existing ∧
        recordHistoryItemCommit command (exactReservation mutation existing) now s.store s.blobs
          = .ok ((entry, fresh), t.store, t.blobs)
  | .transition turnId revision => ∃ command expectedRevision status now,
      transitionTurn command turnId expectedRevision status now s.store = .ok (revision, t.store) ∧
        t.blobs = s.blobs
  | .terminalize key request outcome => ∃ now,
      terminalizeConversationTurn host key request now s.store = .ok (outcome, t.store) ∧
        t.blobs = s.blobs
  | .reconcile request outcome => ∃ command now,
      reconcileStrandedConversationTurn command request now s.store = .ok (outcome, t.store) ∧
        t.blobs = s.blobs
  | .recover request outcome => ∃ command now,
      recoverUnknownConversationTurn command request now s.store = .ok (outcome, t.store) ∧
        t.blobs = s.blobs
  | .positiveEvidence evidence outcome => ∃ expectedRevision now,
      recordProviderAttemptPositiveEvidence expectedRevision evidence now s.store
        = .ok (outcome, t.store) ∧ t.blobs = s.blobs
  | .resumeRejection request => ∃ command now,
      recordConversationResumeRejection command request now s.store = .ok t.store ∧
        t.blobs = s.blobs
  | .bindFallback changed => ∃ turnId conversationId source fallback now,
      bindFallbackTurn turnId conversationId source fallback now s.store
        = .ok (changed, t.store) ∧ t.blobs = s.blobs
  | .other =>
      t.store.turns = s.store.turns ∧ t.store.historyItems = s.store.historyItems ∧
        ConversationsKept s.store.conversations t.store.conversations ∧
        ∀ hash, s.blobs.Holds host.blobDigest hash → t.blobs.Holds host.blobDigest hash

/-- What the operations do not check before they write. -/
def RespectsSettled {host : Host} (store : SqliteStore) : TurnEvent host → Prop
  | .record command mutation _ => RecordsOpenTurn store command mutation
  | .terminalize key request _ => TerminalizesSettled store key request
  | _ => True

/-- A step is one change of turns and items; the blob it publishes can be read, and no blob
is lost. -/
theorem turnStep_effect {host : Host} {s t : StoreState} {event : TurnEvent host}
    (step : TurnStep host s event t) :
    ∃ published, TurnEffect host published (RespectsSettled s.store event) s.store t.store ∧
      (∀ hash, published = some hash → t.blobs.Holds host.blobDigest hash) ∧
      ∀ hash, s.blobs.Holds host.blobDigest hash → t.blobs.Holds host.blobDigest hash := by
  cases event with
  | admitInitial =>
    obtain ⟨key, request, now, success⟩ := step
    obtain ⟨_, _, success⟩ := bind_ok success
    obtain ⟨_, _, success⟩ := bind_ok success
    obtain ⟨⟨payload, blobs⟩, published, success⟩ := bind_ok success
    obtain ⟨⟨outcome, store⟩, admitted, success⟩ := bind_ok success
    cases success
    exact ⟨_, admitInitialTransaction_change admitted, publishPayload_holds published⟩
  | record command mutation fresh =>
    obtain ⟨now, entry, success⟩ := step
    obtain ⟨_, _, success⟩ := bind_ok success
    obtain ⟨⟨payload, blobs⟩, published, success⟩ := bind_ok success
    obtain ⟨⟨recorded, store⟩, wrote, success⟩ := bind_ok success
    cases success
    exact ⟨_, recordHistoryItemTransaction_change wrote, publishPayload_holds published⟩
  | reserve mutation fresh =>
    obtain ⟨command, earlier, existing, now, entry, valid, _, success⟩ := step
    obtain ⟨_, _, success⟩ := bind_ok success
    obtain ⟨⟨payload, blobs⟩, published, success⟩ := bind_ok success
    obtain ⟨⟨recorded, store⟩, wrote, success⟩ := bind_ok success
    cases success
    have effect := recordHistoryItemTransaction_change wrote
    refine ⟨_, ⟨effect.change.weaken fun _ _ update => ?_, effect.conversations⟩,
      publishPayload_holds published⟩
    unfold validateReservation at valid
    split at valid
    · cases valid
    · rename_i insertion
      simp only [not_or] at insertion
      exact (insertion.2.2.1 update).elim
  | transition =>
    obtain ⟨_, _, _, _, success, blobs⟩ := step
    exact ⟨none, transitionTurn_change success, nofun, fun _ held => blobs ▸ held⟩
  | terminalize =>
    obtain ⟨_, success, blobs⟩ := step
    exact ⟨none, terminalizeConversationTurn_change success, nofun, fun _ held => blobs ▸ held⟩
  | reconcile =>
    obtain ⟨_, _, success, blobs⟩ := step
    exact ⟨none, reconcileStranded_change success, nofun, fun _ held => blobs ▸ held⟩
  | recover =>
    obtain ⟨_, _, success, blobs⟩ := step
    exact ⟨none, recoverUnknown_change success, nofun, fun _ held => blobs ▸ held⟩
  | positiveEvidence =>
    obtain ⟨_, _, success, blobs⟩ := step
    refine ⟨none, ?_, nofun, fun _ held => blobs ▸ held⟩
    rcases recordProviderAttemptPositiveEvidence_effects success with
      ⟨same, _⟩ | ⟨current, rows, attempts, _, valid, _, _, _, _, _, finalized, _⟩
    · rw [same]
      exact .refl _
    · obtain ⟨change, conversations⟩ : TurnEffect host none True _ t.store :=
        finalize_change finalized valid
      exact ⟨change, conversations⟩
  | resumeRejection =>
    obtain ⟨_, _, success, blobs⟩ := step
    exact ⟨none, recordConversationResumeRejection_change success, nofun,
      fun _ held => blobs ▸ held⟩
  | bindFallback =>
    obtain ⟨_, _, _, _, _, success, blobs⟩ := step
    exact ⟨none, bindFallbackTurn_change success, nofun, fun _ held => blobs ▸ held⟩
  | other => exact ⟨none, ⟨.kept step.1 step.2.1, step.2.2.1⟩, nofun, step.2.2.2⟩

/-- Only active turns own streaming items. -/
def StreamsActive (store : SqliteStore) : Prop :=
  ∀ item ∈ store.historyItems.rows, item.status = .streaming →
    ∀ turn, store.turns.find? item.turnId = some turn → turn.status = .active

theorem not_streaming_of_settled {store : SqliteStore} {item : HistoryItemRow}
    (member : item ∈ store.historyItems.rows)
    (settled : ownsStreamingItem store.historyItems item.turnId = false) : item.status ≠ .streaming := by
  unfold ownsStreamingItem at settled
  have := List.any_eq_false.mp settled item member
  simpa using this

/-- Closing turns that own no streaming item. -/
theorem closedTurns_streams {store : SqliteStore} {after : Table turns} {ids : List TurnId}
    (streams : StreamsActive store) (closed : ClosedTurns store.turns after ids)
    (settled : ∀ id ∈ ids, ownsStreamingItem store.historyItems id = false) {item : HistoryItemRow}
    (member : item ∈ store.historyItems.rows) (streaming : item.status = .streaming) :
    ∀ turn, after.find? item.turnId = some turn → turn.status = .active := by
  intro turn found
  by_cases here : item.turnId ∈ ids
  · exact (not_streaming_of_settled member (settled _ here) streaming).elim
  · rw [closed.others _ here] at found
    exact streams item member streaming turn found

theorem turnEffect_streams {host : Host} {published : Option BlobHash} {safe : Prop}
    {store after : SqliteStore} (effect : TurnEffect host published safe store after)
    (assumed : safe) (streams : StreamsActive store) : StreamsActive after := by
  intro item member streaming turn found
  cases effect.change with
  | kept turns items =>
    rw [items] at member
    rw [turns] at found
    exact streams item member streaming turn found
  | opened newTurn new opened active inserted owner sequence written =>
    rw [Table.insert_rows inserted, List.mem_append, List.mem_singleton] at member
    rw [Table.find?_insert opened] at found
    split at found
    · cases found
      exact active
    · rename_i differ
      rcases member with old | rfl
      · exact streams item old streaming turn found
      · exact (differ owner.symm).elim
  | appended owner new ownerFound active inserted sequence written turns =>
    rw [Table.insert_rows inserted, List.mem_append, List.mem_singleton] at member
    rw [turns] at found
    rcases member with old | rfl
    · exact streams item old streaming turn found
    · rw [ownerFound] at found
      cases found
      exact active
  | edited target change targetFound updated keeps written owner turns =>
    obtain ⟨old, oldMember, same⟩ := Table.mem_updateKey updated member
    rw [turns] at found
    split at same
    · rename_i key
      have here : old = target :=
        Table.eq_of_key oldMember (Table.mem_of_find? targetFound) key
      subst here
      rw [same, (keeps old).2.2.1] at found
      exact owner assumed turn found
    · subst same
      exact streams item oldMember streaming turn found
  | closed ids turns settled items =>
    rw [items] at member
    exact closedTurns_streams streams turns (settled assumed) member streaming turn found
  | closedWith id new turns settled inserted owner finished sequence written =>
    rw [Table.insert_rows inserted, List.mem_append, List.mem_singleton] at member
    rcases member with old | rfl
    · exact closedTurns_streams streams turns (by simpa using settled) old streaming turn found
    · exact (finished streaming).elim
  | bound target session now targetFound active updated items =>
    rw [items] at member
    rw [Table.find?_updateKey updated fun _ => rfl] at found
    split at found
    · rw [Option.map_eq_some_iff] at found
      obtain ⟨old, oldFound, rfl⟩ := found
      exact streams item member streaming old oldFound
    · exact streams item member streaming turn found

/-- The items of a turn, in insertion order. -/
def turnItems (store : SqliteStore) (turnId : TurnId) : List HistoryItemRow :=
  store.historyItems.rows.filter fun item => item.turnId == turnId

/-- Every settled turn of the first store is in the second as it was, with its items. -/
def KeepsSettled (before after : SqliteStore) : Prop :=
  ∀ id turn, before.turns.find? id = some turn → turn.status ≠ .active →
    after.turns.find? id = some turn ∧ turnItems after id = turnItems before id

theorem KeepsSettled.trans (a b c : SqliteStore) (first : KeepsSettled a b)
    (second : KeepsSettled b c) : KeepsSettled a c := by
  intro id turn found settled
  obtain ⟨middle, one⟩ := first id turn found settled
  obtain ⟨last, two⟩ := second id turn middle settled
  exact ⟨last, two.trans one⟩

theorem turnItems_insert {store after : SqliteStore} {item : HistoryItemRow} {id : TurnId}
    (inserted : store.historyItems.insert item = some after.historyItems)
    (differ : item.turnId ≠ id) : turnItems after id = turnItems store id := by
  unfold turnItems
  rw [Table.insert_rows inserted, List.filter_append]
  simp [differ]

theorem turnItems_updateKey {store after : SqliteStore} {item : HistoryItemRow}
    {change : HistoryItemRow → HistoryItemRow} {id : TurnId}
    (updated : store.historyItems.updateKey item.historyItemId change = some after.historyItems)
    (found : store.historyItems.find? item.historyItemId = some item)
    (keeps : ∀ row, (change row).turnId = row.turnId) (differ : item.turnId ≠ id) :
    turnItems after id = turnItems store id := by
  unfold turnItems
  rw [Table.updateWhere_rows updated, List.filter_map]
  have same : (fun row => row.turnId == id) ∘
      (fun row => if decide (historyItems.key row = item.historyItemId) then change row else row)
        = fun row => row.turnId == id := by
    funext row
    simp only [Function.comp_apply]
    split
    · rw [keeps row]
    · rfl
  rw [same]
  refine (List.map_congr_left fun row member => ?_).trans (List.map_id _)
  obtain ⟨member, owner⟩ := List.mem_filter.mp member
  have other : historyItems.key row ≠ item.historyItemId := by
    intro key
    have here : row = item := Table.eq_of_key member (Table.mem_of_find? found) key
    rw [here] at owner
    exact differ (beq_iff_eq.mp owner)
  exact if_neg fun key => other (of_decide_eq_true key)

/-- A settled turn is none of the turns that a change closes. -/
theorem closedTurns_keep {before after : Table turns} {ids : List TurnId}
    (closed : ClosedTurns before after ids) {id : TurnId} {turn : TurnRow}
    (found : before.find? id = some turn) (settled : turn.status ≠ .active) :
    id ∉ ids ∧ after.find? id = some turn := by
  have outside : id ∉ ids := by
    intro member
    obtain ⟨other, otherFound, active⟩ := closed.active id member
    rw [found] at otherFound
    cases otherFound
    exact settled active
  exact ⟨outside, by rw [closed.others id outside, found]⟩

theorem turnEffect_keepsSettled {host : Host} {published : Option BlobHash} {safe : Prop}
    {store after : SqliteStore} (effect : TurnEffect host published safe store after)
    (assumed : safe) : KeepsSettled store after := by
  intro id turn found settled
  have notActive : ∀ owner, store.turns.find? id = some owner → owner.status ≠ .active := by
    intro owner ownerFound
    rw [found] at ownerFound
    cases ownerFound
    exact settled
  cases effect.change with
  | kept turns items => exact ⟨by rw [turns, found], by rw [turnItems, turnItems, items]⟩
  | opened newTurn new opened active inserted owner sequence written =>
    have fresh : newTurn.turnId ≠ id := by
      rintro rfl
      have absent := Table.insert_fresh opened
      rw [turns_key, found] at absent
      cases absent
    refine ⟨?_, turnItems_insert inserted (owner ▸ fresh)⟩
    rw [Table.find?_insert opened, turns_key, if_neg fresh, found]
  | appended owner new ownerFound active inserted sequence written turns =>
    refine ⟨by rw [turns, found], turnItems_insert inserted ?_⟩
    rintro rfl
    exact notActive owner ownerFound active
  | edited target change targetFound updated keeps written owner turns =>
    refine ⟨by rw [turns, found],
      turnItems_updateKey updated targetFound (fun row => (keeps row).2.2.1) ?_⟩
    rintro rfl
    exact settled (owner assumed turn found)
  | closed ids turns settledIds items =>
    exact ⟨(closedTurns_keep turns found settled).2, by rw [turnItems, turnItems, items]⟩
  | closedWith target new turns settledTarget inserted owner finished sequence written =>
    obtain ⟨outside, kept⟩ := closedTurns_keep turns found settled
    refine ⟨kept, turnItems_insert inserted ?_⟩
    rintro rfl
    exact outside (by simp [owner])
  | bound target session now targetFound active updated items =>
    have differ : id ≠ target.turnId := by
      rintro rfl
      exact notActive target targetFound active
    refine ⟨?_, by rw [turnItems, turnItems, items]⟩
    rw [Table.find?_updateKey updated fun _ => rfl, if_neg differ, found]

/-- A step before which both unchecked conditions hold. -/
def RespectfulStep (host : Host) (s : StoreState) (event : TurnEvent host) (t : StoreState) :
    Prop :=
  TurnStep host s event t ∧ RespectsSettled s.store event

theorem respectfulStep_streams (host : Host) (s : StoreState) (event : TurnEvent host)
    (t : StoreState) (step : RespectfulStep host s event t) (streams : StreamsActive s.store) :
    StreamsActive t.store := by
  obtain ⟨_, effect, _⟩ := turnStep_effect step.1
  exact turnEffect_streams effect step.2 streams

theorem respectfulStep_keeps (host : Host) (s : StoreState) (event : TurnEvent host)
    (t : StoreState) (step : RespectfulStep host s event t) : KeepsSettled s.store t.store := by
  obtain ⟨_, effect, _⟩ := turnStep_effect step.1
  exact turnEffect_keepsSettled effect step.2

/-- Over every run from empty turn and history tables whose steps all meet the two
conditions, and every state `middle` it passes: no completed or failed turn owns a streaming
item, and a turn that is completed or failed in `middle` is in every later state the same
row with the same items. -/
theorem settledTurns_stay_settled (host : Host) (start middle final : StoreState)
    (earlier later : List (TurnEvent host)) (noItems : start.store.historyItems.rows = [])
    (before : Run (RespectfulStep host) start earlier middle)
    (after : Run (RespectfulStep host) middle later final) :
    (∀ id turn, final.store.turns.find? id = some turn → turn.status ≠ .active →
      ∀ item ∈ turnItems final.store id, item.status ≠ .streaming) ∧
    ∀ id turn, middle.store.turns.find? id = some turn → turn.status ≠ .active →
      final.store.turns.find? id = some turn ∧
        turnItems final.store id = turnItems middle.store id := by
  have initial : StreamsActive start.store := by
    intro item member
    rw [noItems] at member
    cases member
  have streams := Run.invariant (respectfulStep_streams host) (before.append after) initial
  have keeps : KeepsSettled middle.store final.store :=
    Run.relates (R := fun s t => KeepsSettled s.store t.store)
      (fun _ _ _ found _ => ⟨found, rfl⟩)
      (fun a b c => KeepsSettled.trans a.store b.store c.store) (respectfulStep_keeps host) after
  refine ⟨fun id turn found settled item member streaming => ?_, keeps⟩
  obtain ⟨member, owner⟩ := List.mem_filter.mp member
  rw [← beq_iff_eq.mp owner] at found
  exact settled (streams item member streaming turn found)

def sampleItem : HistoryItemId := ⟨"a1000000-0000-4000-8000-000000000001", by decide⟩

/-- A completed user message, recorded in its own new turn. -/
def sampleMessage : RecordHistoryItem sampleHost where
  conversationId := sampleConversation
  runtimeSessionId := sampleSession
  turnId := sampleTurn
  turnSequence := 1
  turnRole := .user
  possibleSideEffects := .unknown
  historyItemId := sampleItem
  ordinal := 0
  kind := .message
  status := .completed
  text := "hello"
  mediaType := ⟨"text/plain", by decide⟩
  metadata := .empty _
  expectedRevision := none
  artifact := none

/-- An update of the message that makes it stream again. -/
def sampleUpdate : RecordHistoryItem sampleHost :=
  { sampleMessage with
    status := .streaming
    text := "changed"
    expectedRevision := some 1 }

def recordCommand : CommandIdentity := ⟨"record", sampleDigest⟩

def updateCommand : CommandIdentity := ⟨"update", sampleDigest⟩

def emptyState : StoreState where
  store := { sampleStore with turns := Table.empty }
  blobs := ⟨[]⟩

def messageRow : HistoryItemRow where
  historyItemId := sampleItem
  conversationId := sampleConversation
  turnId := sampleTurn
  sequence := 1
  kind := .message
  role := some .user
  status := .completed
  mediaType := "text/plain"
  inlineText := some "hello"
  blobHash := none
  metadata := []
  revision := 1
  createdAtMicros := 2
  updatedAtMicros := 2

def openTurnRow : TurnRow :=
  ⟨sampleTurn, sampleConversation, some sampleSession, 1, .user, .unknown, .active, 1, 2, 2, none⟩

def messageReceipt : ReceiptRow :=
  ⟨"record", sampleDigest, "record_history_item", sampleItem.text, .historyItem sampleItem.text, 2⟩

def transitionReceipt : ReceiptRow :=
  ⟨"complete", sampleDigest, "transition_turn", sampleTurn.text, .revision 2, 3⟩

def updateReceipt : ReceiptRow :=
  ⟨"update", sampleDigest, "record_history_item", sampleItem.text, .historyItem sampleItem.text, 4⟩

def touchedConversation (now : Int) : ConversationRow := ⟨sampleConversation, .active, 1, 1, now⟩

def recordedState : StoreState where
  store :=
    { emptyState.store with
      conversations := ⟨[touchedConversation 2], by decide, by decide⟩
      turns := ⟨[openTurnRow], by decide, by decide⟩
      historyItems := ⟨[messageRow], by decide, by decide⟩
      runtimeCommandReceipts := ⟨[messageReceipt], by decide, by decide⟩ }
  blobs := ⟨[]⟩

def completedState : StoreState where
  store :=
    { recordedState.store with
      turns := ⟨[openTurnRow.close .completed 3 3], by decide, by decide⟩
      runtimeCommandReceipts := ⟨[messageReceipt, transitionReceipt], by decide, by decide⟩ }
  blobs := ⟨[]⟩

def streamingState : StoreState where
  store :=
    { completedState.store with
      conversations := ⟨[touchedConversation 4], by decide, by decide⟩
      historyItems := ⟨[updatedItem sampleUpdate ⟨some "changed", none⟩ 4 messageRow], by decide,
        by decide⟩
      runtimeCommandReceipts := ⟨[messageReceipt, transitionReceipt, updateReceipt], by decide,
        by decide⟩ }
  blobs := ⟨[]⟩

theorem sampleRecord_step :
    TurnStep sampleHost emptyState (.record recordCommand sampleMessage true) recordedState :=
  ⟨2, _, rfl⟩

theorem sampleCompletion_step :
    TurnStep sampleHost recordedState (.transition sampleTurn 2) completedState :=
  ⟨⟨"complete", sampleDigest⟩, 1, .completed, 3, rfl, rfl⟩

theorem sampleUpdate_step :
    TurnStep sampleHost completedState (.record updateCommand sampleUpdate true) streamingState :=
  ⟨4, _, rfl⟩

theorem sampleCompletion_run :
    Run (RespectfulStep sampleHost) emptyState
      [.record recordCommand sampleMessage true, .transition sampleTurn 2] completedState :=
  .cons ⟨sampleRecord_step, fun _ => nofun⟩ (.single ⟨sampleCompletion_step, trivial⟩)

/-- The completed turn has its recorded message, which does not stream. -/
theorem completed_message_is_settled :
    turnItems completedState.store sampleTurn ≠ [] ∧
    ∀ item ∈ turnItems completedState.store sampleTurn, item.status ≠ .streaming :=
  ⟨by decide, (settledTurns_stay_settled sampleHost emptyState completedState completedState _ []
    rfl sampleCompletion_run (.nil _)).1 sampleTurn _ rfl (by decide)⟩

/-- An update of the message after the completion is applied: the completed turn owns a
streaming item, and its items have changed. -/
theorem completed_turn_streams_again :
    emptyState.store.turns.rows = [] ∧ emptyState.store.historyItems.rows = [] ∧
    Run (TurnStep sampleHost) emptyState
      [.record recordCommand sampleMessage true, .transition sampleTurn 2] completedState ∧
    TurnStep sampleHost completedState (.record updateCommand sampleUpdate true) streamingState ∧
    ((completedState.store.turns.find? sampleTurn).map (·.status) = some .completed) ∧
    ((streamingState.store.turns.find? sampleTurn).map (·.status) = some .completed) ∧
    (turnItems streamingState.store sampleTurn).map (·.status) = [.streaming] ∧
    turnItems streamingState.store sampleTurn ≠ turnItems completedState.store sampleTurn :=
  ⟨rfl, rfl, .cons sampleRecord_step (.single sampleCompletion_step), sampleUpdate_step, rfl, rfl,
    rfl, by decide⟩

end Decodex.Guarantees.SettledTurns
