import Decodex.Source.Store.Schema

/-!
# Statements the conversation writers share

Source: database/src/conversations.rs:2702-2805 (`touch_conversation`, receipts) and the
sequence subquery of 1210-1219, 2540-2547; database/src/conversations/non_submission.rs
(`finalize`). A `CommandIdentity` carries its request hash, which command.rs computes.
-/
namespace Decodex.Source.Store

open Decodex.Library
open Decodex.Source.Core

structure CommandIdentity where
  key : String
  requestHash : String
  deriving DecidableEq

/-- The items of a conversation, in insertion order. -/
def historyOf (items : Table historyItems) (conversationId : ConversationId) :
    List HistoryItemRow :=
  items.rows.filter fun item => item.conversationId == conversationId

/-- `SELECT COALESCE(MAX(sequence), 0) + 1 FROM history_items WHERE conversation_id = ?`. -/
def nextSequence (items : Table historyItems) (conversationId : ConversationId) : Int :=
  ((historyOf items conversationId).map (·.sequence)).foldl max 0 + 1

/-- `EXISTS (SELECT 1 FROM history_items WHERE turn_id = ? AND status = 'streaming')`. -/
def ownsStreamingItem (items : Table historyItems) (turnId : TurnId) : Bool :=
  items.rows.any fun item => item.turnId == turnId && item.status == .streaming

/-- `touch_conversation`. -/
def touchConversation (store : SqliteStore) (id : ConversationId) (now : Int) :
    Except StoreError SqliteStore :=
  match store.conversations.find? id with
  | some row =>
    if row.state = .active then do
      let conversations ← execute <| store.conversations.updateKey id fun row =>
        { row with updatedAtMicros := now }
      .ok { store with conversations }
    else .error (incompatible "Conversation activity owner")
  | none => .error (incompatible "Conversation activity owner")

/-- `read_runtime_receipt`: a key is bound to one request, operation and entity. -/
def readRuntimeReceipt (store : SqliteStore) (key requestSha operation entityId : String) :
    Except StoreError (Option ReceiptResponse) :=
  match store.runtimeCommandReceipts.find? key with
  | none => .ok none
  | some row =>
    if row.requestSha256 ≠ requestSha ∨ row.operation ≠ operation ∨ row.entityId ≠ entityId then
      .error .idempotencyConflict
    else .ok (some row.response)

def readReceipt (store : SqliteStore) (command : CommandIdentity) (operation entityId : String) :
    Except StoreError (Option ReceiptResponse) :=
  readRuntimeReceipt store command.key command.requestHash operation entityId

def writeRuntimeReceipt (store : SqliteStore) (key requestSha operation entityId : String)
    (response : ReceiptResponse) (completedAtMicros : Int) : Except StoreError SqliteStore := do
  let receipts ← execute <| store.runtimeCommandReceipts.insert
    ⟨key, requestSha, operation, entityId, response, completedAtMicros⟩
  .ok { store with runtimeCommandReceipts := receipts }

def writeReceipt (store : SqliteStore) (command : CommandIdentity) (operation entityId : String)
    (response : ReceiptResponse) (completedAtMicros : Int) : Except StoreError SqliteStore :=
  writeRuntimeReceipt store command.key command.requestHash operation entityId response
    completedAtMicros

/-- A status item of a user turn, as the three status writers insert it. -/
def statusItem (items : Table historyItems) (id : HistoryItemId)
    (conversationId : ConversationId) (turnId : TurnId) (status : ItemStatus) (text : String)
    (metadata : MetadataObject)
    (now : Int) : HistoryItemRow where
  historyItemId := id
  conversationId := conversationId
  turnId := turnId
  sequence := nextSequence items conversationId
  kind := .status
  role := some .user
  status := status
  mediaType := "text/plain"
  inlineText := some text
  blobHash := none
  metadata := metadata
  revision := 1
  createdAtMicros := now
  updatedAtMicros := now

/-- The turn a statement closes: its status, a later revision and its completion time. -/
def TurnRow.close (turn : TurnRow) (status : TurnStatus) (updatedAtMicros now : Int) : TurnRow :=
  { turn with
    status
    revision := turn.revision + 1
    updatedAtMicros
    completedAtMicros := some now }

/-- `WHERE` of the update in `finalize`. -/
def nonSubmissionMatches (store : SqliteStore) (attempt : ProviderAttempt) (thread : String)
    (turn : TurnRow) : Bool :=
  turn.conversationId == attempt.consumer.conversationId &&
    turn.runtimeSessionId == some attempt.runtimeSessionId && turn.role == .user &&
    turn.status == .active &&
    (store.runtimeSessions.rows.any fun session =>
      session.runtimeSessionId == attempt.runtimeSessionId &&
        session.conversationId == attempt.consumer.conversationId &&
        session.codexThreadId == some thread && session.state == .active) &&
    !ownsStreamingItem store.historyItems turn.turnId &&
    !store.providerAttempts.rows.any fun other =>
      other.consumer.turnId == turn.turnId && other.attemptId != attempt.attemptId &&
        other.state != .canceled && other.state != .notSubmitted

def nonSubmissionText : String :=
  "Codex confirmed that this input was not submitted. Reconnect and send again. Your input " ++
    "remains in history."

def nonSubmissionMetadata (evidence : ProviderPositiveEvidence) : MetadataObject :=
  [("evidenceId", .text evidence.evidenceId.text),
    ("response_sha256", .text evidence.witnessDigest),
    ("type", .text "native_turn_not_submitted")]

/-- `finalize`: fails the local input that its provider positively did not accept. -/
def finalize (store : SqliteStore) (attempt : ProviderAttempt)
    (evidence : ProviderPositiveEvidence) (now : Int) : Except StoreError SqliteStore :=
  if evidence.outcome ≠ .notSubmitted ∨ evidence.source ≠ .positiveNonSubmissionReceipt then
    .ok store
  else
    match evidence.providerThreadId with
    | none => .ok store
    | some thread =>
      match store.turns.find? attempt.consumer.turnId with
      | none => .error (incompatible "non-submission does not match the active local input")
      | some turn =>
        if nonSubmissionMatches store attempt thread turn then do
          let turns ← execute <| store.turns.updateKey turn.turnId fun turn =>
            turn.close .failed (max turn.updatedAtMicros now) now
          let store := { store with turns }
          let items ← execute <| store.historyItems.insert <|
            statusItem store.historyItems evidence.evidenceId.toUuid attempt.consumer.conversationId
              turn.turnId .failed nonSubmissionText (nonSubmissionMetadata evidence) now
          touchConversation { store with historyItems := items }
            attempt.consumer.conversationId now
        else .error (incompatible "non-submission does not match the active local input")

theorem touchConversation_effects {store after : SqliteStore} {id : ConversationId} {now : Int}
    (success : touchConversation store id now = .ok after) :
    ∃ conversations, after = { store with conversations } := by
  unfold touchConversation at success
  split at success
  · split at success
    · obtain ⟨conversations, _, success⟩ := bind_ok success
      cases success
      exact ⟨conversations, rfl⟩
    · cases success
  · cases success

theorem writeRuntimeReceipt_effects {store after : SqliteStore}
    {key requestSha operation entityId : String} {response : ReceiptResponse} {now : Int}
    (success : writeRuntimeReceipt store key requestSha operation entityId response now
      = .ok after) :
    ∃ receipts, after = { store with runtimeCommandReceipts := receipts } := by
  obtain ⟨receipts, _, success⟩ := bind_ok success
  cases success
  exact ⟨receipts, rfl⟩

/-- No row of the conversations table is lost. -/
def ConversationsKept (before after : Table conversations) : Prop :=
  ∀ id, (before.find? id).isSome = true → (after.find? id).isSome = true

theorem conversationsKept_of_update {before after : Table conversations}
    {selected : ConversationRow → Bool} {change : ConversationRow → ConversationRow}
    (updated : before.updateWhere selected change = some after)
    (keeps : ∀ row, (change row).conversationId = row.conversationId) :
    ConversationsKept before after := by
  intro id found
  rw [Table.find?_updateWhere updated fun row _ => keeps row]
  simpa using found

theorem touchConversation_keeps {store after : SqliteStore} {id : ConversationId} {now : Int}
    (success : touchConversation store id now = .ok after) :
    ConversationsKept store.conversations after.conversations := by
  unfold touchConversation at success
  split at success
  · split at success
    · obtain ⟨conversations, updated, success⟩ := bind_ok success
      cases success
      exact conversationsKept_of_update (execute_eq_ok.mp updated) fun _ => rfl
    · cases success
  · cases success

/-- `finalize` either keeps the store or fails one active turn without streaming items and
appends one item to it, in one transaction. -/
theorem finalize_effects {store after : SqliteStore} {attempt : ProviderAttempt}
    {evidence : ProviderPositiveEvidence} {now : Int}
    (success : finalize store attempt evidence now = .ok after) :
    after = store ∨ ∃ turn turns items conversations,
      store.turns.find? attempt.consumer.turnId = some turn ∧
      turn.conversationId = attempt.consumer.conversationId ∧ turn.status = .active ∧
      ownsStreamingItem store.historyItems turn.turnId = false ∧
      store.turns.updateKey turn.turnId (fun turn =>
        turn.close .failed (max turn.updatedAtMicros now) now) = some turns ∧
      store.historyItems.insert (statusItem store.historyItems evidence.evidenceId.toUuid
        turn.conversationId turn.turnId .failed nonSubmissionText (nonSubmissionMetadata evidence)
        now) = some items ∧
      ConversationsKept store.conversations conversations ∧
      after = { store with turns, historyItems := items, conversations } := by
  unfold finalize at success
  split at success
  · cases success
    exact .inl rfl
  · split at success
    · cases success
      exact .inl rfl
    · split at success
      · cases success
      · rename_i turn found
        split at success
        · rename_i admitted
          obtain ⟨turns, closed, success⟩ := bind_ok success
          obtain ⟨items, inserted, success⟩ := bind_ok success
          have kept := touchConversation_keeps success
          obtain ⟨conversations, rfl⟩ := touchConversation_effects success
          simp only [nonSubmissionMatches, Bool.and_eq_true, beq_iff_eq, Bool.not_eq_true']
            at admitted
          obtain ⟨⟨⟨⟨⟨⟨same, _⟩, _⟩, active⟩, _⟩, settled⟩, _⟩ := admitted
          refine .inr ⟨turn, turns, items, conversations, found, same, active, settled,
            execute_eq_ok.mp closed, ?_, kept, rfl⟩
          rw [same]
          exact execute_eq_ok.mp inserted
        · cases success

end Decodex.Source.Store
