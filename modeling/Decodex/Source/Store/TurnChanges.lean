import Decodex.Source.Store.Conversations

/-!
# What a conversation writer can change

One statement of what a committed operation can do to turns and history items. Each writer
of conversations.rs, non_submission.rs, resume_rejection.rs and continuations.rs has one
lemma that places it here; invariants are then proved once, over `TurnChange`.
-/
namespace Decodex.Source.Store.Conversations

open Decodex.Library
open Decodex.Source.Core

/-- Metadata as a writer stores it: validated, or one of the two status records. -/
inductive WrittenMetadata (host : Host) : MetadataObject → Prop
  | validated (fields : MetadataObject)
      (valid : validateMetadata host.containsCredentialMaterial fields = .ok ()) :
      WrittenMetadata host fields
  | nonSubmission (evidence : ProviderPositiveEvidence) (valid : evidence.validate = .ok ()) :
      WrittenMetadata host (nonSubmissionMetadata evidence)
  | resumeRejection (request : RecordConversationResumeRejection)
      (digest : isHexDigest request.witnessDigest = true) :
      WrittenMetadata host (resumeRejectionMetadata request)

/-- A stored item: a blob it names is the one its writer published. -/
structure WrittenItem (host : Host) (published : Option BlobHash) (item : HistoryItemRow) :
    Prop where
  mediaType : isCanonicalMediaType item.mediaType = true
  metadata : WrittenMetadata host item.metadata
  blob : ∀ hash, item.blobHash = some hash → published = some hash

theorem writtenItem_of_mutation {host : Host} (mutation : RecordHistoryItem host)
    (payload : Payload) (item : HistoryItemRow) (mediaType : item.mediaType = mutation.mediaType.text)
    (metadata : item.metadata = mutation.metadata.fields) (blob : item.blobHash = payload.blobHash) :
    WrittenItem host payload.blobHash item where
  mediaType := by
    rw [mediaType]
    exact mutation.mediaType.canonical
  metadata := by
    rw [metadata]
    exact .validated _ mutation.metadata.valid
  blob := by
    rw [blob]
    exact fun _ found => found

theorem writtenItem_of_status {host : Host} {published : Option BlobHash}
    (items : Table historyItems) (id : HistoryItemId) (conversationId : ConversationId) (turnId : TurnId)
    (status : ItemStatus)
    (text : String) (now : Int) {metadata : MetadataObject}
    (written : WrittenMetadata host metadata) :
    WrittenItem host published
      (statusItem items id conversationId turnId status text metadata now) where
  mediaType := by
    change isCanonicalMediaType "text/plain" = true
    decide
  metadata := written
  blob := nofun

/-- Exactly the turns `ids` were active and are active no more. -/
structure ClosedTurns (before after : Table turns) (ids : List TurnId) : Prop where
  active : ∀ id ∈ ids, ∃ turn, before.find? id = some turn ∧ turn.status = .active
  closed : ∀ id ∈ ids, ∃ turn, after.find? id = some turn ∧ turn.status ≠ .active
  others : ∀ id, id ∉ ids → after.find? id = before.find? id

theorem closedTurns_of_update {before after : Table turns} {id : TurnId} {turn : TurnRow}
    {change : TurnRow → TurnRow} (updated : before.updateKey id change = some after)
    (keeps : ∀ row, (change row).turnId = row.turnId) (ends : ∀ row, (change row).status ≠ .active)
    (found : before.find? id = some turn) (active : turn.status = .active) :
    ClosedTurns before after [id] := by
  have view := Table.find?_updateKey updated keeps
  constructor
  · intro other member
    rw [List.mem_singleton.mp member]
    exact ⟨turn, found, active⟩
  · intro other member
    rw [List.mem_singleton.mp member, view id, if_pos rfl, found]
    exact ⟨change turn, rfl, ends turn⟩
  · intro other differ
    rw [view other, if_neg (by simpa using differ)]

/-- A second turn may close after the first. -/
theorem ClosedTurns.append {before middle after : Table turns} {first second : List TurnId}
    (one : ClosedTurns before middle first) (two : ClosedTurns middle after second)
    (apart : ∀ id ∈ second, id ∉ first) : ClosedTurns before after (first ++ second) := by
  constructor
  · intro id member
    rcases List.mem_append.mp member with h | h
    · exact one.active id h
    · obtain ⟨turn, found, active⟩ := two.active id h
      exact ⟨turn, by rw [← one.others id (apart id h), found], active⟩
  · intro id member
    by_cases late : id ∈ second
    · exact two.closed id late
    · rcases List.mem_append.mp member with h | h
      · obtain ⟨turn, found, ended⟩ := one.closed id h
        exact ⟨turn, by rw [two.others id late, found], ended⟩
      · exact (late h).elim
  · intro id outside
    rw [List.mem_append, not_or] at outside
    rw [two.others id outside.2, one.others id outside.1]

theorem closeTurn_closes {store after : SqliteStore} {id : TurnId} {status : TurnStatus}
    {now : Int} {turn : TurnRow} (success : closeTurn store id status now = .ok after)
    (ends : status ≠ .active) (found : store.turns.find? id = some turn)
    (active : turn.status = .active) :
    ∃ turns, after = { store with turns } ∧ ClosedTurns store.turns turns [id] := by
  obtain ⟨turns, updated, success⟩ := bind_ok success
  cases success
  exact ⟨turns, rfl, closedTurns_of_update (execute_eq_ok.mp updated) (fun _ => rfl)
    (fun _ => ends) found active⟩

/-- What one committed operation does to turns and items. `safe` is what the operation does
not check by itself: that an edited item's turn is active, and that a turn closed by
terminalization owns no streaming item. -/
inductive TurnChange (host : Host) (published : Option BlobHash) (safe : Prop)
    (before after : Table turns) (old new : Table historyItems) : Prop
  | kept (sameTurns : after = before) (sameItems : new = old)
  | opened (turn : TurnRow) (item : HistoryItemRow) (opened : before.insert turn = some after)
      (active : turn.status = .active) (inserted : old.insert item = some new)
      (owner : item.turnId = turn.turnId)
      (sequence : item.sequence = nextSequence old item.conversationId)
      (written : WrittenItem host published item)
  | appended (turn : TurnRow) (item : HistoryItemRow)
      (found : before.find? item.turnId = some turn) (active : turn.status = .active)
      (inserted : old.insert item = some new)
      (sequence : item.sequence = nextSequence old item.conversationId)
      (written : WrittenItem host published item) (sameTurns : after = before)
  | edited (item : HistoryItemRow) (change : HistoryItemRow → HistoryItemRow)
      (found : old.find? item.historyItemId = some item)
      (updated : old.updateKey item.historyItemId change = some new)
      (keeps : ∀ row, (change row).historyItemId = row.historyItemId ∧
        (change row).conversationId = row.conversationId ∧ (change row).turnId = row.turnId ∧
        (change row).sequence = row.sequence)
      (written : WrittenItem host published (change item))
      (owner : safe → ∀ turn, before.find? item.turnId = some turn → turn.status = .active)
      (sameTurns : after = before)
  | closed (ids : List TurnId) (closed : ClosedTurns before after ids)
      (settled : safe → ∀ id ∈ ids, ownsStreamingItem old id = false)
      (sameItems : new = old)
  | closedWith (id : TurnId) (item : HistoryItemRow) (closed : ClosedTurns before after [id])
      (settled : ownsStreamingItem old id = false) (inserted : old.insert item = some new)
      (owner : item.turnId = id) (finished : item.status ≠ .streaming)
      (sequence : item.sequence = nextSequence old item.conversationId)
      (written : WrittenItem host published item)
  | bound (turn : TurnRow) (session : RuntimeSessionId) (now : Int)
      (found : before.find? turn.turnId = some turn) (active : turn.status = .active)
      (updated : before.updateKey turn.turnId (fun row =>
        { row with
          runtimeSessionId := some session
          updatedAtMicros := now }) = some after)
      (sameItems : new = old)

/-- The change of one operation, which loses no conversation. -/
structure TurnEffect (host : Host) (published : Option BlobHash) (safe : Prop)
    (store after : SqliteStore) : Prop where
  change : TurnChange host published safe store.turns after.turns store.historyItems
    after.historyItems
  conversations : ConversationsKept store.conversations after.conversations

theorem TurnEffect.refl {host : Host} {published : Option BlobHash} {safe : Prop}
    (store : SqliteStore) : TurnEffect host published safe store store :=
  ⟨.kept rfl rfl, fun _ found => found⟩

/-- The touch of the conversation, after the writes. -/
theorem TurnEffect.touch {host : Host} {published : Option BlobHash} {safe : Prop}
    {store middle after : SqliteStore} {id : ConversationId} {now : Int}
    (effect : TurnEffect host published safe store middle)
    (touch : touchConversation middle id now = .ok after) :
    TurnEffect host published safe store after := by
  have kept := touchConversation_keeps touch
  obtain ⟨_, rfl⟩ := touchConversation_effects touch
  exact ⟨effect.change, fun id found => kept id (effect.conversations id found)⟩

/-- The receipt, after everything else. -/
theorem TurnEffect.receipt {host : Host} {published : Option BlobHash} {safe : Prop}
    {store middle after : SqliteStore} {key requestSha operation entityId : String}
    {response : ReceiptResponse} {now : Int} (effect : TurnEffect host published safe store middle)
    (receipt : writeRuntimeReceipt middle key requestSha operation entityId response now
      = .ok after) : TurnEffect host published safe store after := by
  obtain ⟨_, rfl⟩ := writeRuntimeReceipt_effects receipt
  exact ⟨effect.change, effect.conversations⟩

/-- A stronger assumption suffices. -/
theorem TurnChange.weaken {host : Host} {published : Option BlobHash} {safe safer : Prop}
    {before after : Table turns} {old new : Table historyItems}
    (change : TurnChange host published safe before after old new) (enough : safer → safe) :
    TurnChange host published safer before after old new := by
  cases change with
  | kept sameTurns sameItems => exact .kept sameTurns sameItems
  | opened turn item opened active inserted owner sequence written =>
    exact .opened turn item opened active inserted owner sequence written
  | appended turn item found active inserted sequence written sameTurns =>
    exact .appended turn item found active inserted sequence written sameTurns
  | edited item change found updated keeps written owner sameTurns =>
    exact .edited item change found updated keeps written (fun h => owner (enough h)) sameTurns
  | closed ids closed settled sameItems =>
    exact .closed ids closed (fun h => settled (enough h)) sameItems
  | closedWith id item closed settled inserted owner finished sequence written =>
    exact .closedWith id item closed settled inserted owner finished sequence written
  | bound turn session now found active updated sameItems =>
    exact .bound turn session now found active updated sameItems

theorem insertTurn_effects {host : Host} {store after : SqliteStore}
    {mutation : RecordHistoryItem host} {now : Int}
    (success : insertTurn store mutation now = .ok after) :
    ∃ turn turns, after = { store with turns } ∧ store.turns.insert turn = some turns ∧
      turn.turnId = mutation.turnId ∧ turn.status = .active := by
  obtain ⟨_, _, success⟩ := bind_ok success
  obtain ⟨turns, inserted, success⟩ := bind_ok success
  cases success
  exact ⟨_, turns, rfl, execute_eq_ok.mp inserted, rfl, rfl⟩

theorem insertHistory_effects {host : Host} {store after : SqliteStore}
    {mutation : RecordHistoryItem host} {payload : Payload} {now : Int}
    (success : insertHistory store mutation payload now = .ok after) :
    ∃ historyItems, after = { store with historyItems } ∧
      store.historyItems.insert (historyRow store mutation payload now) = some historyItems := by
  obtain ⟨_, _, success⟩ := bind_ok success
  obtain ⟨historyItems, inserted, success⟩ := bind_ok success
  cases success
  exact ⟨historyItems, rfl, execute_eq_ok.mp inserted⟩

theorem historyRow_written {host : Host} (store : SqliteStore) (mutation : RecordHistoryItem host)
    (payload : Payload) (now : Int) :
    WrittenItem host payload.blobHash (historyRow store mutation payload now) :=
  writtenItem_of_mutation mutation payload _ rfl rfl rfl

/-- A turn and its first item, in one transaction. -/
theorem openTurn_change {host : Host} {store middle after : SqliteStore} {safe : Prop}
    {mutation : RecordHistoryItem host} {payload : Payload} {now : Int}
    (begun : insertTurn store mutation now = .ok middle)
    (wrote : insertHistory middle mutation payload now = .ok after) :
    TurnEffect host payload.blobHash safe store after := by
  obtain ⟨turn, turns, rfl, opened, owner, active⟩ := insertTurn_effects begun
  obtain ⟨items, rfl, inserted⟩ := insertHistory_effects wrote
  exact ⟨.opened turn _ opened active inserted owner.symm rfl (historyRow_written _ _ _ _),
    fun _ found => found⟩

theorem insertItem_change {host : Host} {store after : SqliteStore} {safe : Prop}
    {mutation : RecordHistoryItem host} {payload : Payload} {now : Int}
    (success : insertItem store mutation payload now = .ok after) :
    TurnEffect host payload.blobHash safe store after := by
  unfold insertItem at success
  split at success
  · cases success
  · split at success
    · rename_i turn found
      obtain ⟨_, valid, success⟩ := bind_ok success
      obtain ⟨items, rfl, inserted⟩ := insertHistory_effects success
      unfold validateExistingTurn at valid
      split at valid
      · cases valid
      · rename_i admitted
        simp only [not_or, not_not] at admitted
        obtain ⟨_, _, _, _, _, active, _⟩ := admitted
        exact ⟨.appended turn _ found active inserted rfl (historyRow_written _ _ _ _) rfl,
          fun _ found => found⟩
    · obtain ⟨middle, opened, success⟩ := bind_ok success
      exact openTurn_change opened success

theorem updateItem_change {host : Host} {store after : SqliteStore} {safe : Prop}
    {mutation : RecordHistoryItem host} {payload : Payload} {expected now : Int}
    (success : updateItem store mutation payload expected now = .ok after)
    (owner : safe → ∀ turn, store.turns.find? mutation.turnId = some turn →
      turn.status = .active) :
    TurnEffect host payload.blobHash safe store after := by
  unfold updateItem at success
  split at success
  · cases success
  · rename_i item found
    split at success
    · rename_i admitted
      obtain ⟨items, updated, success⟩ := bind_ok success
      cases success
      have key : item.historyItemId = mutation.historyItemId := Table.key_of_find? found
      rw [← key] at found
      refine ⟨.edited item (updatedItem mutation payload now) found ?_
        (fun _ => ⟨rfl, rfl, rfl, rfl⟩) (writtenItem_of_mutation mutation payload _ rfl rfl rfl)
        ?_ rfl, fun _ found => found⟩
      · rw [key]
        exact execute_eq_ok.mp updated
      · rw [admitted.2.1]
        exact owner
    · cases success

/-- No receipt answers the key: the operation runs. -/
def Unanswered (store : SqliteStore) (key : String) : Prop :=
  store.runtimeCommandReceipts.find? key = none

/-- What a record that is not a replay needs to leave settled turns alone. -/
def RecordsOpenTurn {host : Host} (store : SqliteStore) (command : CommandIdentity)
    (mutation : RecordHistoryItem host) : Prop :=
  Unanswered store command.key → mutation.expectedRevision.isSome = true →
    ∀ turn, store.turns.find? mutation.turnId = some turn → turn.status = .active

theorem unanswered_of_read {store : SqliteStore} {key requestSha operation entityId : String}
    (absent : readRuntimeReceipt store key requestSha operation entityId = .ok none) :
    Unanswered store key := by
  unfold readRuntimeReceipt at absent
  split at absent
  · assumption
  · split at absent <;> cases absent

theorem writeItem_change {host : Host} {store after : SqliteStore} {command : CommandIdentity}
    {mutation : RecordHistoryItem host} {payload : Payload} {now : Int}
    (success : writeItem store mutation payload now = .ok after)
    (unanswered : Unanswered store command.key) :
    TurnEffect host payload.blobHash (RecordsOpenTurn store command mutation) store after := by
  unfold writeItem at success
  split at success
  · exact insertItem_change success
  · rename_i expected update
    split at success
    · exact updateItem_change success fun safe => safe unanswered (by rw [update]; rfl)
    · cases success

theorem recordHistoryItemTransaction_change {host : Host} {store after : SqliteStore}
    {command : CommandIdentity} {mutation : RecordHistoryItem host} {payload : Payload} {now : Int}
    {recorded : HistoryEntry host × Bool}
    (success : recordHistoryItemTransaction command mutation payload now store
      = .ok (recorded, after)) :
    TurnEffect host payload.blobHash (RecordsOpenTurn store command mutation) store after := by
  obtain ⟨receipt, read, success⟩ := bind_ok success
  split at success
  · split at success
    · cases success
    · obtain ⟨entry, _, success⟩ := bind_ok success
      cases success
      exact .refl _
  · cases success
  · obtain ⟨middle, wrote, success⟩ := bind_ok success
    obtain ⟨touched, touch, success⟩ := bind_ok success
    obtain ⟨entry, _, success⟩ := bind_ok success
    obtain ⟨final, receipt, success⟩ := bind_ok success
    cases success
    exact ((writeItem_change wrote (unanswered_of_read read)).touch touch).receipt receipt

theorem admitInitialTransaction_change {host : Host} {store after : SqliteStore} {key : String}
    {request : AdmitInitialConversationTurn host} {payload : Payload} {now : Int} {safe : Prop}
    {outcome : InitialConversationTurnAdmissionOutcome}
    (success : admitInitialTransaction key request payload now store = .ok (outcome, after)) :
    TurnEffect host payload.blobHash safe store after := by
  obtain ⟨receipt, _, success⟩ := bind_ok success
  split at success
  · cases success
    exact .refl _
  · cases success
  · split at success
    · cases success
      exact .refl _
    · split at success
      · cases success
        exact .refl _
      · obtain ⟨begun, opened, success⟩ := bind_ok success
        obtain ⟨middle, wrote, success⟩ := bind_ok success
        obtain ⟨touched, touch, success⟩ := bind_ok success
        obtain ⟨final, receipt, success⟩ := bind_ok success
        cases success
        exact ((openTurn_change opened wrote).touch touch).receipt receipt

theorem transitionTurn_change {host : Host} {store after : SqliteStore} {command : CommandIdentity}
    {turnId : TurnId} {expectedRevision now revision : Int} {status : TurnStatus} {safe : Prop}
    (success : transitionTurn command turnId expectedRevision status now store
      = .ok (revision, after)) : TurnEffect host none safe store after := by
  unfold transitionTurn at success
  split at success
  · cases success
  · rename_i valid
    obtain ⟨receipt, _, success⟩ := bind_ok success
    split at success
    · cases success
      exact .refl _
    · cases success
    · split at success
      · cases success
      · rename_i turn admitted
        obtain ⟨middle, closing, success⟩ := bind_ok success
        obtain ⟨final, receipt, success⟩ := bind_ok success
        cases success
        simp only [Option.filter_eq_some_iff, Bool.and_eq_true, beq_iff_eq, Bool.not_eq_true']
          at admitted
        obtain ⟨found, ⟨_, active⟩, settled⟩ := admitted
        obtain ⟨turns, rfl, closed⟩ :=
          closeTurn_closes closing (fun h => valid (.inr h)) found active
        have effect : TurnEffect host none safe store { store with turns } :=
          ⟨.closed [turnId] closed (fun _ => by simpa using settled) rfl, fun _ found => found⟩
        exact effect.receipt receipt

theorem reconcileStranded_change {host : Host} {store after : SqliteStore}
    {command : CommandIdentity} {request : ReconcileStrandedConversationTurn} {now : Int}
    {outcome : ReconcileStrandedConversationTurnOutcome} {safe : Prop}
    (success : reconcileStrandedConversationTurn command request now store
      = .ok (outcome, after)) : TurnEffect host none safe store after := by
  unfold reconcileStrandedConversationTurn at success
  split at success
  · cases success
  · obtain ⟨receipt, _, success⟩ := bind_ok success
    split at success
    · cases success
      exact .refl _
    · cases success
    · split at success
      · cases success
        exact .refl _
      · rename_i turn admitted
        obtain ⟨middle, closing, success⟩ := bind_ok success
        obtain ⟨touched, touch, success⟩ := bind_ok success
        obtain ⟨final, receipt, success⟩ := bind_ok success
        cases success
        obtain ⟨found, matched⟩ := Option.filter_eq_some_iff.mp admitted
        simp only [strandedMatches, Bool.and_eq_true, beq_iff_eq, Bool.not_eq_true'] at matched
        obtain ⟨⟨⟨⟨⟨⟨_, active⟩, _⟩, _⟩, _⟩, _⟩, settled⟩ := matched
        obtain ⟨turns, rfl, closed⟩ := closeTurn_closes closing (by decide) found active
        obtain ⟨conversations, touching, touch⟩ := bind_ok touch
        cases touch
        have effect : TurnEffect host none safe store { store with turns, conversations } :=
          ⟨.closed [request.turnId] closed (fun _ => by simpa using settled) rfl,
            conversationsKept_of_update (execute_eq_ok.mp touching) fun _ => rfl⟩
        exact effect.receipt receipt

theorem recoverUnknown_change {host : Host} {store after : SqliteStore}
    {command : CommandIdentity} {request : RecoverUnknownConversationTurn} {now : Int}
    {outcome : RecoverUnknownConversationTurnOutcome} {safe : Prop}
    (success : recoverUnknownConversationTurn command request now store = .ok (outcome, after)) :
    TurnEffect host none safe store after := by
  unfold recoverUnknownConversationTurn at success
  split at success
  · cases success
  · obtain ⟨receipt, _, success⟩ := bind_ok success
    split at success
    · cases success
      exact .refl _
    · cases success
    · split at success
      · cases success
        exact .refl _
      · rename_i authority
        split at success
        · cases success
          exact .refl _
        · rename_i turn admitted
          obtain ⟨middle, closing, success⟩ := bind_ok success
          obtain ⟨items, inserted, success⟩ := bind_ok success
          obtain ⟨touched, touch, success⟩ := bind_ok success
          obtain ⟨final, receipt, success⟩ := bind_ok success
          cases success
          simp only [not_or, Bool.not_eq_false, unknownRecoveryAuthority, Bool.and_eq_true,
            Bool.not_eq_true'] at authority
          have settled := authority.1.2
          simp only [Option.filter_eq_some_iff, Bool.and_eq_true, beq_iff_eq] at admitted
          obtain ⟨found, ⟨_, active⟩, _⟩ := admitted
          obtain ⟨turns, rfl, closed⟩ := closeTurn_closes closing (by decide) found active
          have effect : TurnEffect host none safe store
              { store with turns, historyItems := items } :=
            ⟨.closedWith request.userTurnId _ closed settled (execute_eq_ok.mp inserted) rfl
              (by simp [statusItem]) rfl (writtenItem_of_status _ _ _ _ _ _ _ (.validated [] rfl)),
              fun _ found => found⟩
          exact (effect.touch touch).receipt receipt

theorem recordConversationResumeRejection_change {host : Host} {store after : SqliteStore}
    {command : CommandIdentity} {request : RecordConversationResumeRejection} {now : Int}
    {safe : Prop}
    (success : recordConversationResumeRejection command request now store = .ok after) :
    TurnEffect host none safe store after := by
  unfold recordConversationResumeRejection at success
  split at success
  · cases success
  · rename_i valid
    simp only [not_or, Bool.not_eq_false] at valid
    obtain ⟨_, _, success⟩ := bind_ok success
    split at success
    · split at success
      · cases success
      · cases success
        exact .refl _
    · cases success
    · split at success
      · cases success
      · rename_i turn admitted
        obtain ⟨middle, closing, success⟩ := bind_ok success
        obtain ⟨items, inserted, success⟩ := bind_ok success
        obtain ⟨touched, touch, wrote⟩ := bind_ok success
        obtain ⟨found, matched⟩ := Option.filter_eq_some_iff.mp admitted
        simp only [unsentMatches, Bool.and_eq_true, beq_iff_eq, Bool.not_eq_true'] at matched
        obtain ⟨⟨⟨⟨⟨⟨_, active⟩, _⟩, _⟩, _⟩, _⟩, settled⟩ := matched
        obtain ⟨turns, rfl, closed⟩ := closeTurn_closes closing (by decide) found active
        have effect : TurnEffect host none safe store { store with turns, historyItems := items } :=
          ⟨.closedWith request.turnId _ closed settled (execute_eq_ok.mp inserted) rfl
            (by simp [statusItem]) rfl
            (writtenItem_of_status _ _ _ _ _ _ _ (.resumeRejection request valid.2.2)),
            fun _ found => found⟩
        exact (effect.touch touch).receipt wrote

theorem finalize_change {host : Host} {store after : SqliteStore} {attempt : ProviderAttempt}
    {evidence : ProviderPositiveEvidence} {now : Int} {safe : Prop}
    (success : finalize store attempt evidence now = .ok after)
    (valid : evidence.validate = .ok ()) : TurnEffect host none safe store after := by
  rcases finalize_effects success with
    rfl |
      ⟨turn, turns, items, conversations, found, _, active, settled, updated, inserted, kept, rfl⟩
  · exact .refl _
  · have key : turn.turnId = attempt.consumer.turnId := Table.key_of_find? found
    rw [← key] at found
    exact ⟨.closedWith turn.turnId _
      (closedTurns_of_update updated (fun _ => rfl) (fun _ => nofun) found active) settled
      inserted rfl (by simp [statusItem]) rfl
      (writtenItem_of_status _ _ _ _ _ _ _ (.nonSubmission evidence valid)), kept⟩

theorem bindFallbackTurn_change {host : Host} {store after : SqliteStore} {turnId : TurnId}
    {conversationId : ConversationId} {source fallback : RuntimeSessionId} {now : Int}
    {changed : Nat} {safe : Prop}
    (success : bindFallbackTurn turnId conversationId source fallback now store
      = .ok (changed, after)) : TurnEffect host none safe store after := by
  unfold bindFallbackTurn at success
  split at success
  · cases success
    exact .refl _
  · rename_i turn admitted
    obtain ⟨turns, updated, success⟩ := bind_ok success
    cases success
    simp only [Option.filter_eq_some_iff, Bool.and_eq_true, beq_iff_eq] at admitted
    obtain ⟨found, ⟨_, active⟩, _⟩ := admitted
    have key : turn.turnId = turnId := Table.key_of_find? found
    subst key
    exact ⟨.bound turn fallback now found active (execute_eq_ok.mp updated) rfl,
      fun _ found => found⟩

/-- What a terminalization that is not a replay, and whose authority matches, needs to leave
no streaming item behind. -/
def TerminalizesSettled (store : SqliteStore) (key : String)
    (request : TerminalizeConversationTurn) : Prop :=
  Unanswered store key → terminalizationAuthorityMatches store request = true →
    ownsStreamingItem store.historyItems request.userTurnId = false ∧
      ∀ turn, request.assistantTurn = some turn → ownsStreamingItem store.historyItems turn.1 = false

theorem turnMatches_found {store : SqliteStore} {turnId : TurnId}
    {conversationId : ConversationId} {runtimeSessionId : RuntimeSessionId} {revision : Int}
    {role : TurnRole}
    (matched : turnMatches store turnId conversationId runtimeSessionId revision role = true) :
    ∃ turn, store.turns.find? turnId = some turn ∧ turn.role = role ∧ turn.status = .active := by
  unfold turnMatches at matched
  rw [Option.any_eq_true] at matched
  obtain ⟨turn, found, matched⟩ := matched
  simp only [Bool.and_eq_true, beq_iff_eq] at matched
  exact ⟨turn, found, matched.1.2, matched.2⟩

/-- The acknowledgement in the session, after the closings. -/
theorem TurnEffect.acknowledge {host : Host} {published : Option BlobHash} {safe : Prop}
    {store middle after : SqliteStore} {request : TerminalizeConversationTurn} {now : Int}
    (effect : TurnEffect host published safe store middle)
    (acknowledge : acknowledgeTurn middle request now = .ok after) :
    TurnEffect host published safe store after := by
  obtain ⟨runtimeSessions, _, acknowledge⟩ := bind_ok acknowledge
  cases acknowledge
  exact ⟨effect.change, effect.conversations⟩

/-- Both closings of an applied terminalization: the two turns differ, as their roles do. -/
theorem terminalization_closes {store middle after : SqliteStore}
    {request : TerminalizeConversationTurn} {status : TurnStatus} {now : Int}
    (authority : terminalizationAuthorityMatches store request = true) (ends : status ≠ .active)
    (user : closeTurn store request.userTurnId status now = .ok middle)
    (assistant : closeAssistantTurn middle request.assistantTurn status now = .ok after) :
    ∃ turns, after = { store with turns } ∧ ClosedTurns store.turns turns
      (request.userTurnId :: (request.assistantTurn.map (·.1)).toList) := by
  simp only [terminalizationAuthorityMatches, Bool.and_eq_true] at authority
  obtain ⟨⟨_, userMatched⟩, assistantMatched⟩ := authority
  obtain ⟨userTurn, userFound, userRole, userActive⟩ := turnMatches_found userMatched
  obtain ⟨turns, rfl, userClosed⟩ := closeTurn_closes user ends userFound userActive
  cases named : request.assistantTurn with
  | none =>
    rw [named] at assistant
    cases assistant
    exact ⟨turns, rfl, userClosed⟩
  | some turn =>
    rw [named] at assistant assistantMatched
    obtain ⟨other, found, role, active⟩ := turnMatches_found assistantMatched
    have apart : turn.1 ≠ request.userTurnId := by
      intro same
      rw [same, userFound] at found
      cases found
      rw [userRole] at role
      cases role
    rw [← userClosed.others turn.1 (by simpa using apart)] at found
    obtain ⟨final, rfl, closed⟩ := closeTurn_closes assistant ends found active
    exact ⟨final, rfl, userClosed.append closed (by simpa using apart)⟩

theorem terminalizeConversationTurn_change {host : Host} {store after : SqliteStore}
    {key : String} {request : TerminalizeConversationTurn} {now : Int}
    {outcome : ConversationTerminalizationOutcome}
    (success : terminalizeConversationTurn host key request now store = .ok (outcome, after)) :
    TurnEffect host none (TerminalizesSettled store key request) store after := by
  obtain ⟨_, _, success⟩ := bind_ok success
  obtain ⟨_, _, success⟩ := bind_ok success
  obtain ⟨receipt, read, success⟩ := bind_ok success
  split at success
  · cases success
    exact .refl _
  · cases success
  · split at success
    · cases success
      exact .refl _
    · rename_i authority
      rw [Bool.not_eq_false] at authority
      obtain ⟨userClosed, user, success⟩ := bind_ok success
      obtain ⟨bothClosed, assistant, success⟩ := bind_ok success
      obtain ⟨acknowledged, acknowledge, success⟩ := bind_ok success
      obtain ⟨touched, touch, success⟩ := bind_ok success
      obtain ⟨final, receipt, success⟩ := bind_ok success
      cases success
      have ends : terminalTurnStatus request.providerOutcome ≠ .active := by
        cases request.providerOutcome <;> nofun
      obtain ⟨turns, rfl, closed⟩ :=
        terminalization_closes authority ends user assistant
      have effect : TurnEffect host none (TerminalizesSettled store key request) store
          { store with turns } := by
        refine ⟨.closed _ closed (fun safe id member => ?_) rfl, fun _ found => found⟩
        obtain ⟨userSettled, assistantSettled⟩ := safe (unanswered_of_read read) authority
        rcases List.mem_cons.mp member with rfl | member
        · exact userSettled
        · simp only [Option.mem_toList, Option.map_eq_some_iff] at member
          obtain ⟨turn, named, rfl⟩ := member
          exact assistantSettled turn named
      exact ((effect.acknowledge acknowledge).touch touch).receipt receipt

end Decodex.Source.Store.Conversations
