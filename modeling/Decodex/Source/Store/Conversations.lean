import Decodex.Source.Store.HistoryEntries

/-!
# Conversation turns

Source: database/src/conversations.rs:90-105, 147-170, 225-320 (requests and outcomes),
738-820 (pending terminalization), 1036-1262 (reconciliation, recovery), 1480-1592 (initial
admission), 1601-1696 (terminalization), 1960-2241 (reservation, history items,
transitions), 2286-2400 (authorities), 2431-2466 (request validation), 2507-2611 (inserts,
turn checks), 3087-3151 (turn matches, digests); conversations/resume_rejection.rs;
continuations.rs:432-453 (`bind_fallback_turn`). Clock readings are arguments, and an
operation that returns without committing leaves the store as it was.
-/
namespace Decodex.Source.Store.Conversations

open Decodex.Library
open Decodex.Source.Core

/-- A reference that the schema checks and no statement of the transaction reads. -/
def referenceHolds (holds : Bool) : Except StoreError Unit :=
  if holds then .ok () else .error sqliteError

/-- `insert_turn`. -/
def insertTurn {host : Host} (store : SqliteStore) (mutation : RecordHistoryItem host)
    (now : Int) : Except StoreError SqliteStore := do
  referenceHolds ((store.conversations.find? mutation.conversationId).isSome &&
    (store.runtimeSessions.find? mutation.runtimeSessionId).isSome)
  let turns ← execute <| store.turns.insert
    { turnId := mutation.turnId
      conversationId := mutation.conversationId
      runtimeSessionId := some mutation.runtimeSessionId
      sequence := mutation.turnSequence
      role := mutation.turnRole
      possibleSideEffects := mutation.possibleSideEffects
      status := .active
      revision := 1
      createdAtMicros := now
      updatedAtMicros := now
      completedAtMicros := none }
  .ok { store with turns }

/-- The row that `insert_history` adds. -/
def historyRow {host : Host} (store : SqliteStore) (mutation : RecordHistoryItem host)
    (payload : Payload) (now : Int) : HistoryItemRow where
  historyItemId := mutation.historyItemId
  conversationId := mutation.conversationId
  turnId := mutation.turnId
  sequence := nextSequence store.historyItems mutation.conversationId
  kind := mutation.kind
  role := some mutation.turnRole
  status := mutation.status
  mediaType := mutation.mediaType.text
  inlineText := payload.inlineText
  blobHash := payload.blobHash
  metadata := mutation.metadata.fields
  revision := 1
  createdAtMicros := now
  updatedAtMicros := now

/-- `insert_history`. -/
def insertHistory {host : Host} (store : SqliteStore) (mutation : RecordHistoryItem host)
    (payload : Payload) (now : Int) : Except StoreError SqliteStore := do
  referenceHolds ((store.conversations.find? mutation.conversationId).isSome &&
    (store.turns.find? mutation.turnId).isSome)
  let historyItems ← execute <| store.historyItems.insert (historyRow store mutation payload now)
  .ok { store with historyItems }

/-- `history_exists`. -/
def historyExists (store : SqliteStore) (id : HistoryItemId) : Bool :=
  (store.historyItems.find? id).isSome

/-- `validate_existing_turn`. -/
def validateExistingTurn {host : Host} (turn : TurnRow) (mutation : RecordHistoryItem host) :
    Except StoreError Unit :=
  if turn.conversationId ≠ mutation.conversationId ∨
      turn.runtimeSessionId ≠ some mutation.runtimeSessionId ∨
      turn.sequence ≠ mutation.turnSequence ∨ turn.role ≠ mutation.turnRole ∨
      turn.possibleSideEffects ≠ mutation.possibleSideEffects ∨ turn.status ≠ .active ∨
      turn.revision ≠ 1 then
    .error (incompatible "history Turn authority")
  else .ok ()

/-- The columns an update of `record_history_item_command` sets. -/
def updatedItem {host : Host} (mutation : RecordHistoryItem host) (payload : Payload)
    (now : Int) (item : HistoryItemRow) : HistoryItemRow :=
  { item with
    status := mutation.status
    mediaType := mutation.mediaType.text
    inlineText := payload.inlineText
    blobHash := payload.blobHash
    metadata := mutation.metadata.fields
    revision := item.revision + 1
    updatedAtMicros := now }

/-- Insertion of a new item, into its turn or with it. -/
def insertItem {host : Host} (store : SqliteStore) (mutation : RecordHistoryItem host)
    (payload : Payload) (now : Int) : Except StoreError SqliteStore :=
  if historyExists store mutation.historyItemId then
    .error (.revisionConflict ("history_item/" ++ mutation.historyItemId.text) none (some 1))
  else
    match store.turns.find? mutation.turnId with
    | some turn => do
      validateExistingTurn turn mutation
      insertHistory store mutation payload now
    | none => do
      let store ← insertTurn store mutation now
      insertHistory store mutation payload now

/-- The guarded update of an item at the expected revision. The turn is not read. -/
def updateItem {host : Host} (store : SqliteStore) (mutation : RecordHistoryItem host)
    (payload : Payload) (expected now : Int) : Except StoreError SqliteStore :=
  match store.historyItems.find? mutation.historyItemId with
  | none =>
    .error (.revisionConflict ("history_item/" ++ mutation.historyItemId.text) (some expected) none)
  | some item =>
    if item.conversationId = mutation.conversationId ∧ item.turnId = mutation.turnId ∧
        item.revision = expected then do
      let historyItems ← execute <| store.historyItems.updateKey mutation.historyItemId <|
        updatedItem mutation payload now
      .ok { store with historyItems }
    else
      .error
        (.revisionConflict ("history_item/" ++ mutation.historyItemId.text) (some expected) none)

def writeItem {host : Host} (store : SqliteStore) (mutation : RecordHistoryItem host)
    (payload : Payload) (now : Int) : Except StoreError SqliteStore :=
  match mutation.expectedRevision with
  | none => insertItem store mutation payload now
  | some expected =>
    if 0 < expected then updateItem store mutation payload expected now
    else .error (.invalidInput "history revision must be positive")

/-- The entry an item reads as, which its writer expects to be there. -/
def requireHistoryEntry (host : Host) (store : SqliteStore) (id : HistoryItemId)
    (reason : String) : Except StoreError (HistoryEntry host) := do
  match ← readHistoryEntry host store id with
  | some entry => .ok entry
  | none => .error (incompatible reason)

/-- The transaction of `record_history_item_command`: the entry, and whether it is fresh. -/
def recordHistoryItemTransaction {host : Host} (command : CommandIdentity)
    (mutation : RecordHistoryItem host) (payload : Payload) (now : Int) (store : SqliteStore) :
    Except StoreError ((HistoryEntry host × Bool) × SqliteStore) := do
  match ← readReceipt store command "record_history_item" mutation.historyItemId.text with
  | some (.historyItem historyItemId) =>
    if historyItemId ≠ mutation.historyItemId.text then
      .error (incompatible "history receipt identity")
    else do
      let entry ← requireHistoryEntry host store mutation.historyItemId "history receipt row"
      .ok ((entry, false), store)
  | some _ => .error (incompatible "history receipt")
  | none => do
    let store ← writeItem store mutation payload now
    let store ← touchConversation store mutation.conversationId now
    let entry ← requireHistoryEntry host store mutation.historyItemId "recorded history row"
    let store ← writeReceipt store command "record_history_item" mutation.historyItemId.text
      (.historyItem mutation.historyItemId.text) now
    .ok ((entry, true), store)

/-- `record_history_item_command` up to its commit; the payload is published first. -/
def recordHistoryItemCommit {host : Host} (command : CommandIdentity)
    (mutation : RecordHistoryItem host) (now : Int) (store : SqliteStore) (blobs : BlobStore) :
    Except StoreError ((HistoryEntry host × Bool) × SqliteStore × BlobStore) := do
  validateHistoryItem mutation
  let (payload, blobs) ← publishPayload host blobs mutation.text
  let (recorded, store) ← recordHistoryItemTransaction command mutation payload now store
  .ok (recorded, store, blobs)

structure TurnReservationReadback where
  turnId : TurnId
  sequence : Int
  status : TurnStatus
  revision : Int
  deriving DecidableEq

inductive TurnReservationOutcome where
  | fresh (readback : TurnReservationReadback)
  | replayed (readback : TurnReservationReadback)
  deriving DecidableEq

def readTurnReservation {host : Host} (mutation : RecordHistoryItem host) (store : SqliteStore) :
    Except StoreError (Option TurnReservationReadback) :=
  match store.turns.find? mutation.turnId with
  | none => .ok none
  | some turn =>
    if turn.conversationId ≠ mutation.conversationId ∨
        turn.runtimeSessionId ≠ some mutation.runtimeSessionId then .ok none
    else if turn.role ≠ .user ∨ turn.possibleSideEffects ≠ .unknown ∨ turn.sequence ≤ 0 ∨
        turn.revision ≤ 0 then
      .error (incompatible "Turn reservation")
    else .ok (some ⟨turn.turnId, turn.sequence, turn.status, turn.revision⟩)

def validateReservation {host : Host} (mutation : RecordHistoryItem host) :
    Except StoreError Unit :=
  if mutation.turnRole ≠ .user ∨ mutation.possibleSideEffects ≠ .unknown ∨
      mutation.expectedRevision.isSome = true ∨ mutation.status ≠ .completed then
    .error (.invalidInput "user Turn reservation history item is invalid")
  else .ok ()

/-- The mutation with the sequence of a turn that is already reserved. -/
def exactReservation {host : Host} (mutation : RecordHistoryItem host)
    (existing : Option TurnReservationReadback) : RecordHistoryItem host :=
  { mutation with
    turnSequence := (existing.map (·.sequence)).getD mutation.turnSequence }

structure AdmitInitialConversationTurn (host : Host) where
  expectedConversationRevision : Int
  expectedRuntimeSessionRevision : Int
  continuationPlanId : String
  message : RecordHistoryItem host

structure InitialConversationTurnAdmissionReadback where
  routingDecisionId : String
  continuationPlanId : String
  turn : TurnReservationReadback
  historyItemId : HistoryItemId
  deriving DecidableEq

inductive InitialConversationTurnAdmissionRejection where
  | invalidInput | authorityUnavailable | initialAdmissionConflict | messageBlobMissing
  deriving DecidableEq, Repr

inductive InitialConversationTurnAdmissionOutcome where
  | fresh (admission : InitialConversationTurnAdmissionReadback)
  | replayed (admission : InitialConversationTurnAdmissionReadback)
  | rejected (rejection : InitialConversationTurnAdmissionRejection) (replayed : Bool)
  deriving DecidableEq

def validateInitialAdmission {host : Host} (request : AdmitInitialConversationTurn host) :
    Except StoreError Unit :=
  if request.expectedConversationRevision ≤ 0 ∨ request.expectedRuntimeSessionRevision ≠ 1 ∨
      request.message.turnSequence ≠ 1 ∨ request.message.turnRole ≠ .user ∨
      request.message.possibleSideEffects ≠ .unknown ∨ request.message.ordinal ≠ 0 ∨
      request.message.kind ≠ .message ∨ request.message.status ≠ .completed ∨
      request.message.expectedRevision.isSome = true ∨ request.message.artifact.isSome = true then
    .error (.invalidInput "initial Conversation admission shape is invalid")
  else validateHistoryItem request.message

def initialAdmissionDigest {host : Host} (request : AdmitInitialConversationTurn host)
    (payload : Payload) : String :=
  host.digest
    [toString request.expectedConversationRevision, toString request.expectedRuntimeSessionRevision,
      request.continuationPlanId, request.message.conversationId.text,
      request.message.runtimeSessionId.text, request.message.turnId.text,
      request.message.historyItemId.text, payload.inlineText.getD "",
      (payload.blobHash.map (·.toHex)).getD ""]

/-- The joined authority of an initial admission: its routing decision. -/
def initialAdmissionAuthority {host : Host} (store : SqliteStore)
    (request : AdmitInitialConversationTurn host) : Option String := do
  let plan ← store.continuationPlans.find? request.continuationPlanId
  let session ← plan.runtimeSessionId.bind store.runtimeSessions.find?
  let conversation ← store.conversations.find? plan.conversationId
  let quick ← store.quickTaskRequests.find? plan.conversationId
  guard (plan.kind = .initialThread ∧ plan.conversationId = request.message.conversationId ∧
    plan.turnId = request.message.turnId)
  guard (conversation.state = .active ∧
    conversation.revision = request.expectedConversationRevision)
  guard (session.revision = request.expectedRuntimeSessionRevision ∧ session.state = .starting)
  guard (quick.modelSource = none ∨
    quick.modelSource = some (session.accountId, session.accountRevision))
  some plan.routingDecisionId

/-- The transaction of `admit_initial_conversation_turn`. -/
def admitInitialTransaction {host : Host} (key : String)
    (request : AdmitInitialConversationTurn host) (payload : Payload) (now : Int)
    (store : SqliteStore) :
    Except StoreError (InitialConversationTurnAdmissionOutcome × SqliteStore) := do
  match ← readRuntimeReceipt store key (initialAdmissionDigest request payload)
      "admit_initial_quick_task_turn" request.message.turnId.text with
  | some (.admission routing plan turnId sequence status revision historyItemId) =>
    .ok (.replayed ⟨routing, plan, ⟨turnId, sequence, status, revision⟩, historyItemId⟩, store)
  | some _ => .error (incompatible "initial admission receipt")
  | none =>
    match initialAdmissionAuthority store request with
    | none => .ok (.rejected .authorityUnavailable false, store)
    | some routingDecisionId =>
      if (store.turns.find? request.message.turnId).isSome ∨
          historyExists store request.message.historyItemId = true then
        .ok (.rejected .initialAdmissionConflict false, store)
      else do
        let store ← insertTurn store request.message now
        let store ← insertHistory store request.message payload now
        let store ← touchConversation store request.message.conversationId now
        let store ← writeRuntimeReceipt store key (initialAdmissionDigest request payload)
          "admit_initial_quick_task_turn" request.message.turnId.text
          (.admission routingDecisionId request.continuationPlanId request.message.turnId 1 .active
            1 request.message.historyItemId) now
        .ok
          (.fresh
            ⟨routingDecisionId, request.continuationPlanId,
              ⟨request.message.turnId, 1, .active, 1⟩, request.message.historyItemId⟩, store)

def admitInitialConversationTurn {host : Host} (key : String)
    (request : AdmitInitialConversationTurn host) (now : Int) (store : SqliteStore)
    (blobs : BlobStore) :
    Except StoreError (InitialConversationTurnAdmissionOutcome × SqliteStore × BlobStore) := do
  validateKey host key
  validateInitialAdmission request
  let (payload, blobs) ← publishPayload host blobs request.message.text
  let (outcome, store) ← admitInitialTransaction key request payload now store
  .ok (outcome, store, blobs)

/-- `UPDATE turns … WHERE turn_id = ?`, of a turn the transaction has read. -/
def closeTurn (store : SqliteStore) (id : TurnId) (status : TurnStatus) (now : Int) :
    Except StoreError SqliteStore := do
  let turns ← execute <| store.turns.updateKey id fun turn => turn.close status now now
  .ok { store with turns }

def transitionTurn (command : CommandIdentity) (turnId : TurnId) (expectedRevision : Int)
    (status : TurnStatus) (now : Int) (store : SqliteStore) :
    Except StoreError (Int × SqliteStore) :=
  if expectedRevision ≤ 0 ∨ status = .active then
    .error (.invalidInput "Turn transition is invalid")
  else do
    match ← readReceipt store command "transition_turn" turnId.text with
    | some (.revision revision) => .ok (revision, store)
    | some _ => .error (incompatible "Turn receipt")
    | none =>
      match (store.turns.find? turnId).filter fun turn =>
          turn.revision == expectedRevision && turn.status == .active &&
            !ownsStreamingItem store.historyItems turnId with
      | none =>
        .error (.revisionConflict ("turn/" ++ turnId.text) (some expectedRevision) none)
      | some _ => do
        let store ← closeTurn store turnId status now
        let store ← writeReceipt store command "transition_turn" turnId.text
          (.revision (expectedRevision + 1)) now
        .ok (expectedRevision + 1, store)

structure TerminalizeConversationTurn where
  conversationId : ConversationId
  expectedConversationRevision : Int
  runtimeSessionId : RuntimeSessionId
  expectedRuntimeSessionRevision : Int
  userTurnId : TurnId
  expectedUserTurnRevision : Int
  assistantTurn : Option (TurnId × Int)
  providerAttemptId : ProviderAttemptId
  expectedProviderAttemptRevision : Int
  providerEvidenceId : ProviderEvidenceId
  providerOutcome : ProviderTerminalOutcome
  providerThreadId : String
  providerTurnId : String
  deriving DecidableEq

structure ConversationTerminalizationReadback where
  runtimeSessionRevision : Int
  userTurnRevision : Int
  assistantTurnRevision : Option Int
  providerAttemptRevision : Int
  deriving DecidableEq

inductive ConversationTerminalizationOutcome where
  | applied (readback : ConversationTerminalizationReadback)
  | replayed (readback : ConversationTerminalizationReadback)
  | rejected | unknown
  deriving DecidableEq

def validateTerminalization (request : TerminalizeConversationTurn) : Except StoreError Unit :=
  if request.expectedConversationRevision ≤ 0 ∨ request.expectedRuntimeSessionRevision ≤ 0 ∨
      request.expectedUserTurnRevision ≤ 0 ∨ request.expectedProviderAttemptRevision ≤ 0 ∨
      (request.assistantTurn.any fun turn => turn.2 ≤ 0) = true ∨
      request.providerThreadId.isEmpty = true ∨
      maxProviderThreadIdBytes < request.providerThreadId.utf8ByteSize ∨
      request.providerTurnId.isEmpty = true ∨ 256 < request.providerTurnId.utf8ByteSize then
    .error (.invalidInput "Conversation terminalization coordinates are invalid")
  else .ok ()

def providerOutcomeText : ProviderTerminalOutcome → String
  | .succeeded => "succeeded"
  | .failedDefinitive => "failed_definitive"
  | .notSubmitted => "not_submitted"

def terminalizationDigest (host : Host) (request : TerminalizeConversationTurn) : String :=
  host.digest
    [request.conversationId.text, toString request.expectedConversationRevision,
      request.runtimeSessionId.text, toString request.expectedRuntimeSessionRevision,
      request.userTurnId.text, toString request.expectedUserTurnRevision,
      (request.assistantTurn.map (·.1.text)).getD "",
      (request.assistantTurn.map fun turn => toString turn.2).getD "",
      request.providerAttemptId.text, toString request.expectedProviderAttemptRevision,
      request.providerEvidenceId.text, providerOutcomeText request.providerOutcome,
      request.providerThreadId, request.providerTurnId]

/-- `turn_matches`. -/
def turnMatches (store : SqliteStore) (turnId : TurnId) (conversationId : ConversationId)
    (runtimeSessionId : RuntimeSessionId) (revision : Int) (role : TurnRole) : Bool :=
  (store.turns.find? turnId).any fun turn =>
    turn.conversationId == conversationId && turn.runtimeSessionId == some runtimeSessionId &&
      turn.revision == revision && turn.role == role && turn.status == .active

/-- The attempt and its evidence are exactly the requested ones. -/
def terminalAttemptMatches (store : SqliteStore) (request : TerminalizeConversationTurn) : Bool :=
  (store.providerAttempts.find? request.providerAttemptId).any fun attempt =>
    attempt.consumer.conversationId == request.conversationId &&
      attempt.consumer.turnId == request.userTurnId &&
      attempt.runtimeSessionId == request.runtimeSessionId &&
      attempt.revision == request.expectedProviderAttemptRevision &&
      attempt.state == request.providerOutcome.state &&
      (store.positiveEvidence.find? request.providerEvidenceId).any fun row =>
        row.evidence.attemptId == attempt.attemptId &&
          row.evidence.providerThreadId == some request.providerThreadId &&
          row.evidence.providerTurnId == some request.providerTurnId

/-- The session and its conversation are active at the expected revisions. -/
def terminalSessionMatches (store : SqliteStore) (request : TerminalizeConversationTurn) : Bool :=
  (store.runtimeSessions.find? request.runtimeSessionId).any fun session =>
    session.conversationId == request.conversationId &&
      session.revision == request.expectedRuntimeSessionRevision && session.state == .active &&
      session.codexThreadId == some request.providerThreadId &&
      (store.conversations.find? request.conversationId).any fun conversation =>
        conversation.revision == request.expectedConversationRevision &&
          conversation.state == .active

/-- `terminalization_authority_matches`. No condition is about streaming items. -/
def terminalizationAuthorityMatches (store : SqliteStore)
    (request : TerminalizeConversationTurn) : Bool :=
  terminalAttemptMatches store request && terminalSessionMatches store request &&
    turnMatches store request.userTurnId request.conversationId request.runtimeSessionId
      request.expectedUserTurnRevision .user &&
    request.assistantTurn.all fun turn =>
      turnMatches store turn.1 request.conversationId request.runtimeSessionId turn.2 .assistant

/-- The turn status an outcome settles. -/
def terminalTurnStatus : ProviderTerminalOutcome → TurnStatus
  | .succeeded => .completed
  | .failedDefinitive | .notSubmitted => .failed

/-- `UPDATE runtime_sessions SET has_acknowledged_turn = 1 …`. -/
def acknowledgeTurn (store : SqliteStore) (request : TerminalizeConversationTurn) (now : Int) :
    Except StoreError SqliteStore := do
  let runtimeSessions ← execute <|
    store.runtimeSessions.updateKey request.runtimeSessionId fun session =>
      { session with
        hasAcknowledgedTurn := true
        lastKnownTurnId := some request.providerTurnId
        revision := session.revision + 1
        updatedAtMicros := now }
  .ok { store with runtimeSessions }

def closeAssistantTurn (store : SqliteStore) (assistantTurn : Option (TurnId × Int))
    (status : TurnStatus) (now : Int) : Except StoreError SqliteStore :=
  match assistantTurn with
  | none => .ok store
  | some turn => closeTurn store turn.1 status now

/-- The receipt of an applied terminalization. -/
def terminalizationReadback (request : TerminalizeConversationTurn) :
    ConversationTerminalizationReadback where
  runtimeSessionRevision := request.expectedRuntimeSessionRevision + 1
  userTurnRevision := request.expectedUserTurnRevision + 1
  assistantTurnRevision := request.assistantTurn.map fun turn => turn.2 + 1
  providerAttemptRevision := request.expectedProviderAttemptRevision

def terminalizeConversationTurn (host : Host) (key : String)
    (request : TerminalizeConversationTurn) (now : Int) (store : SqliteStore) :
    Except StoreError (ConversationTerminalizationOutcome × SqliteStore) := do
  validateKey host key
  validateTerminalization request
  match ← readRuntimeReceipt store key (terminalizationDigest host request)
      "terminalize_quick_task_turn" request.providerAttemptId.text with
  | some (.terminalization session user assistant attempt) =>
    .ok (.replayed ⟨session, user, assistant, attempt⟩, store)
  | some _ => .error (incompatible "terminalization receipt")
  | none =>
    if terminalizationAuthorityMatches store request = false then .ok (.rejected, store)
    else do
      let status := terminalTurnStatus request.providerOutcome
      let store ← closeTurn store request.userTurnId status now
      let store ← closeAssistantTurn store request.assistantTurn status now
      let store ← acknowledgeTurn store request now
      let store ← touchConversation store request.conversationId now
      let readback := terminalizationReadback request
      let store ← writeRuntimeReceipt store key (terminalizationDigest host request)
        "terminalize_quick_task_turn" request.providerAttemptId.text
        (.terminalization readback.runtimeSessionRevision readback.userTurnRevision
          readback.assistantTurnRevision readback.providerAttemptRevision) now
      .ok (.applied readback, store)

/-- Positive evidence that still needs the terminalizing transaction. -/
structure PendingConversationTerminalizationReadback where
  conversationId : ConversationId
  conversationRevision : Int
  runtimeSessionId : RuntimeSessionId
  runtimeSessionRevision : Int
  codexThreadId : String
  userTurnId : TurnId
  userTurnRevision : Int
  userTurnSequence : Int
  attemptId : ProviderAttemptId
  attemptRevision : Int
  evidenceId : ProviderEvidenceId
  providerOutcome : ProviderTerminalOutcome
  providerTurnId : String
  deriving DecidableEq

/-- One joined row of the pending query, or none when a join or a condition fails. -/
def pendingTerminalization (store : SqliteStore) (conversation : ConversationRow)
    (attempt : ProviderAttempt) : Option PendingConversationTerminalizationReadback := do
  let turn ← store.turns.find? attempt.consumer.turnId
  let session ← store.runtimeSessions.find? attempt.runtimeSessionId
  let evidenceId ← attempt.terminalEvidenceId
  let row ← store.positiveEvidence.find? evidenceId
  let thread ← session.codexThreadId
  let providerTurnId ← row.evidence.providerTurnId
  guard (session.conversationId = conversation.conversationId ∧
    turn.runtimeSessionId = some session.runtimeSessionId)
  guard (session.state = .active ∧ turn.role = .user ∧ turn.status = .active)
  guard (attempt.state = .succeeded ∨ attempt.state = .failedDefinitive)
  guard (row.evidence.attemptId = attempt.attemptId ∧ row.evidence.outcome.state = attempt.state ∧
    row.evidence.providerThreadId = some thread)
  some
    { conversationId := conversation.conversationId
      conversationRevision := conversation.revision
      runtimeSessionId := session.runtimeSessionId
      runtimeSessionRevision := session.revision
      codexThreadId := thread
      userTurnId := turn.turnId
      userTurnRevision := turn.revision
      userTurnSequence := turn.sequence
      attemptId := attempt.attemptId
      attemptRevision := attempt.revision
      evidenceId := row.evidence.evidenceId
      providerOutcome := row.evidence.outcome
      providerTurnId := providerTurnId }

/-- `read_pending_conversation_terminalization`: more than one row is an error. -/
def readPendingConversationTerminalization (conversationId : ConversationId)
    (store : SqliteStore) : Except StoreError (Option PendingConversationTerminalizationReadback) :=
  match (store.conversations.find? conversationId).filter (·.state == .active) with
  | none => .ok none
  | some conversation =>
    match store.providerAttempts.rows.filterMap (pendingTerminalization store conversation) with
    | [] => .ok none
    | [row] =>
      if row.conversationRevision ≤ 0 ∨ row.runtimeSessionRevision ≤ 0 ∨
          row.userTurnRevision ≤ 0 ∨ row.userTurnSequence ≤ 0 ∨ row.attemptRevision ≤ 0 then
        .error (incompatible "pending Conversation terminalization coordinates")
      else .ok (some row)
    | _ => .error (incompatible "pending Conversation terminalization authority")

structure ReconcileStrandedConversationTurn where
  conversationId : ConversationId
  expectedConversationRevision : Int
  runtimeSessionId : RuntimeSessionId
  expectedRuntimeSessionRevision : Int
  turnId : TurnId
  expectedTurnRevision : Int
  deriving DecidableEq

inductive ReconcileStrandedConversationTurnOutcome where
  | applied (turnRevision : Int)
  | replayed (turnRevision : Int)
  | rejected
  deriving DecidableEq

/-- `WHERE` of the reconciling update. -/
def strandedMatches (store : SqliteStore) (request : ReconcileStrandedConversationTurn)
    (turn : TurnRow) : Bool :=
  turn.conversationId == request.conversationId &&
    turn.runtimeSessionId == some request.runtimeSessionId &&
    turn.revision == request.expectedTurnRevision && turn.role == .user &&
    turn.status == .active &&
    (store.conversations.find? request.conversationId).any (fun conversation =>
      conversation.state == .active &&
        conversation.revision == request.expectedConversationRevision) &&
    (store.runtimeSessions.find? request.runtimeSessionId).any (fun session =>
      session.conversationId == request.conversationId && session.live &&
        session.revision == request.expectedRuntimeSessionRevision) &&
    !(store.providerAttempts.rows.any fun attempt =>
      attempt.consumer.turnId == request.turnId && nonterminalAttempt attempt) &&
    !(store.processGenerations.rows.any fun row =>
      row.runtimeSessionId == some request.runtimeSessionId && row.generation.state != .dead) &&
    !ownsStreamingItem store.historyItems request.turnId

/-- The touch that, unlike `touch_conversation`, may find no row to change. -/
def touchConversationBefore (store : SqliteStore) (id : ConversationId) (now : Int) :
    Except StoreError SqliteStore := do
  let conversations ← execute <| store.conversations.updateWhere
    (fun row => row.conversationId == id && row.state == .active && row.updatedAtMicros ≤ now)
    fun row => { row with updatedAtMicros := now }
  .ok { store with conversations }

def reconcileStrandedConversationTurn (command : CommandIdentity)
    (request : ReconcileStrandedConversationTurn) (now : Int) (store : SqliteStore) :
    Except StoreError (ReconcileStrandedConversationTurnOutcome × SqliteStore) :=
  if request.expectedConversationRevision ≤ 0 ∨ request.expectedRuntimeSessionRevision ≤ 0 ∨
      request.expectedTurnRevision ≤ 0 then
    .error (.invalidInput "stranded Conversation Turn coordinates are invalid")
  else do
    match ← readReceipt store command "reconcile_stranded_quick_task_turn" request.turnId.text with
    | some (.revision revision) => .ok (.replayed revision, store)
    | some _ => .error (incompatible "stranded Conversation Turn receipt")
    | none =>
      match (store.turns.find? request.turnId).filter (strandedMatches store request) with
      | none => .ok (.rejected, store)
      | some _ => do
        let store ← closeTurn store request.turnId .failed now
        let store ← touchConversationBefore store request.conversationId now
        let store ← writeReceipt store command "reconcile_stranded_quick_task_turn"
          request.turnId.text (.revision (request.expectedTurnRevision + 1)) now
        .ok (.applied (request.expectedTurnRevision + 1), store)

structure RecoverUnknownConversationTurn where
  conversationId : ConversationId
  expectedConversationRevision : Int
  runtimeSessionId : RuntimeSessionId
  expectedRuntimeSessionRevision : Int
  userTurnId : TurnId
  expectedUserTurnRevision : Int
  attemptId : ProviderAttemptId
  expectedAttemptRevision : Int
  processGenerationId : ProcessGenerationId
  historyItemId : HistoryItemId
  deriving DecidableEq

inductive RecoverUnknownConversationTurnOutcome where
  | applied (turnRevision : Int)
  | replayed (turnRevision : Int)
  | rejected
  deriving DecidableEq

/-- `unknown_recovery_authority`; every joined row is named by its primary key. -/
def unknownRecoveryAuthority (store : SqliteStore) (request : RecoverUnknownConversationTurn) :
    Bool :=
  ((store.conversations.find? request.conversationId).any fun conversation =>
    conversation.state == .active &&
      conversation.revision == request.expectedConversationRevision) &&
    ((store.runtimeSessions.find? request.runtimeSessionId).any fun session =>
      session.conversationId == request.conversationId && session.state == .active &&
        session.revision == request.expectedRuntimeSessionRevision) &&
    ((store.turns.find? request.userTurnId).any fun turn =>
      turn.runtimeSessionId == some request.runtimeSessionId && turn.role == .user &&
        turn.status == .active && turn.revision == request.expectedUserTurnRevision) &&
    ((store.providerAttempts.find? request.attemptId).any fun attempt =>
      attempt.consumer.turnId == request.userTurnId && attempt.state == .unknown &&
        attempt.revision == request.expectedAttemptRevision &&
        attempt.processGenerationId == request.processGenerationId) &&
    ((store.processGenerations.find? request.processGenerationId).any fun row =>
      row.generation.state == .dead &&
        row.generation.deathEvidenceId.any fun evidenceId =>
          (store.deathEvidence.find? evidenceId).any fun death =>
            death.evidence.generationId == request.processGenerationId) &&
    !ownsStreamingItem store.historyItems request.userTurnId

def recoveryText : String := "Previous turn was interrupted. You can continue."

def recoverUnknownConversationTurn (command : CommandIdentity)
    (request : RecoverUnknownConversationTurn) (now : Int) (store : SqliteStore) :
    Except StoreError (RecoverUnknownConversationTurnOutcome × SqliteStore) :=
  if request.expectedConversationRevision ≤ 0 ∨ request.expectedRuntimeSessionRevision ≤ 0 ∨
      request.expectedUserTurnRevision ≤ 0 ∨ request.expectedAttemptRevision ≤ 0 then
    .error (.invalidInput "unknown Conversation recovery coordinates are invalid")
  else do
    match ← readReceipt store command "recover_unknown_quick_task_turn" request.attemptId.text with
    | some (.recoveredTurn revision) => .ok (.replayed revision, store)
    | some _ => .error (incompatible "unknown Conversation recovery receipt")
    | none =>
      if unknownRecoveryAuthority store request = false ∨
          historyExists store request.historyItemId = true then .ok (.rejected, store)
      else
        match (store.turns.find? request.userTurnId).filter fun turn =>
            turn.revision == request.expectedUserTurnRevision && turn.status == .active &&
              turn.conversationId == request.conversationId with
        | none => .ok (.rejected, store)
        | some _ => do
          let store ← closeTurn store request.userTurnId .failed now
          let historyItems ← execute <| store.historyItems.insert <|
            statusItem store.historyItems request.historyItemId request.conversationId request.userTurnId
              .completed recoveryText [] now
          let store ← touchConversation { store with historyItems } request.conversationId now
          let store ← writeReceipt store command "recover_unknown_quick_task_turn"
            request.attemptId.text (.recoveredTurn (request.expectedUserTurnRevision + 1)) now
          .ok (.applied (request.expectedUserTurnRevision + 1), store)

inductive ConversationResumeRejection where
  | closingThread | missingThread | archivedThread | sandboxConfiguration | serverDraining
  | managedProviderChanged | other
  deriving DecidableEq, Repr

/-- The `snake_case` label that the metadata carries. -/
def ConversationResumeRejection.label : ConversationResumeRejection → String
  | .closingThread => "closing_thread"
  | .missingThread => "missing_thread"
  | .archivedThread => "archived_thread"
  | .sandboxConfiguration => "sandbox_configuration"
  | .serverDraining => "server_draining"
  | .managedProviderChanged => "managed_provider_changed"
  | .other => "other"

def ConversationResumeRejection.diagnostic : ConversationResumeRejection → String
  | .closingThread =>
    "Codex is still closing this thread. This input was not sent. Wait briefly, then refresh " ++
      "this conversation."
  | .missingThread =>
    "Codex could not find this thread. This input was not sent. Check the selected account and " ++
      "native thread storage before starting another conversation."
  | .archivedThread =>
    "Codex refused to resume an archived thread. This input was not sent. Unarchive the " ++
      "existing Codex thread, then refresh this conversation."
  | .sandboxConfiguration =>
    "Codex could not prepare its filesystem sandbox. This input was not sent. Check sandbox " ++
      "permissions and writable roots, then refresh this conversation."
  | .serverDraining =>
    "Codex is draining this connection. This input was not sent. Reconnect before sending again."
  | .managedProviderChanged =>
    "Codex provider requirements changed. This input was not sent. Restart Codex before " ++
      "sending again."
  | .other =>
    "Codex rejected this thread resume. This input was not sent. Check the model, provider and " ++
      "project configuration, then refresh this conversation."

structure RecordConversationResumeRejection where
  conversationId : ConversationId
  runtimeSessionId : RuntimeSessionId
  expectedSessionRevision : Int
  threadId : String
  turnId : TurnId
  historyItemId : HistoryItemId
  reason : ConversationResumeRejection
  witnessDigest : String
  deriving DecidableEq

/-- `u8::is_ascii_hexdigit`. -/
def isAsciiHexDigit (byte : UInt8) : Bool :=
  (48 ≤ byte && byte ≤ 57) || (97 ≤ byte && byte ≤ 102) || (65 ≤ byte && byte ≤ 70)

def isHexDigest (value : String) : Bool :=
  (utf8 value).length == 64 && (utf8 value).all isAsciiHexDigit

def resumeRejectionMetadata (request : RecordConversationResumeRejection) : MetadataObject :=
  [("reason", .text request.reason.label), ("response_sha256", .text request.witnessDigest),
    ("type", .text "native_resume_rejection")]

/-- `WHERE` of the rejecting update. -/
def unsentMatches (store : SqliteStore) (request : RecordConversationResumeRejection)
    (turn : TurnRow) : Bool :=
  turn.conversationId == request.conversationId &&
    turn.runtimeSessionId == some request.runtimeSessionId && turn.role == .user &&
    turn.status == .active && turn.revision == 1 &&
    (store.runtimeSessions.find? request.runtimeSessionId).any (fun session =>
      session.conversationId == request.conversationId &&
        session.revision == request.expectedSessionRevision &&
        session.codexThreadId == some request.threadId && session.state == .active) &&
    (store.conversations.find? request.conversationId).any (·.state == .active) &&
    !(store.providerAttempts.rows.any (·.consumer.turnId == request.turnId)) &&
    !ownsStreamingItem store.historyItems request.turnId

def recordConversationResumeRejection (command : CommandIdentity)
    (request : RecordConversationResumeRejection) (now : Int) (store : SqliteStore) :
    Except StoreError SqliteStore :=
  if request.expectedSessionRevision ≤ 0 ∨ request.threadId.isEmpty = true ∨
      isHexDigest request.witnessDigest = false then
    .error (.invalidInput "invalid resume rejection coordinates")
  else do
    match ← readReceipt store command "reject_conversation_resume" request.turnId.text with
    | some (.other receipt) =>
      if receipt ≠ request.historyItemId.text then
        .error (incompatible "resume rejection receipt")
      else .ok store
    | some _ => .error (incompatible "resume rejection receipt")
    | none =>
      match (store.turns.find? request.turnId).filter (unsentMatches store request) with
      | none => .error (incompatible "resume rejection no longer owns an unsent turn")
      | some _ => do
        let store ← closeTurn store request.turnId .failed now
        let historyItems ← execute <| store.historyItems.insert <|
          statusItem store.historyItems request.historyItemId request.conversationId request.turnId .failed
            request.reason.diagnostic (resumeRejectionMetadata request) now
        let store ← touchConversation { store with historyItems } request.conversationId now
        writeReceipt store command "reject_conversation_resume" request.turnId.text
          (.other request.historyItemId.text) now

/-- `bind_fallback_turn`: an active turn at its first revision moves to the fallback session,
which the same transaction has inserted. -/
def bindFallbackTurn (turnId : TurnId) (conversationId : ConversationId)
    (sourceRuntimeSessionId fallbackRuntimeSessionId : RuntimeSessionId) (now : Int)
    (store : SqliteStore) : Except StoreError (Nat × SqliteStore) :=
  match (store.turns.find? turnId).filter fun turn =>
      turn.conversationId == conversationId &&
        turn.runtimeSessionId == some sourceRuntimeSessionId && turn.status == .active &&
        turn.revision == 1 with
  | none => .ok (0, store)
  | some _ => do
    let turns ← execute <| store.turns.updateKey turnId fun turn =>
      { turn with
        runtimeSessionId := some fallbackRuntimeSessionId
        updatedAtMicros := now }
    .ok (1, { store with turns })

end Decodex.Source.Store.Conversations
