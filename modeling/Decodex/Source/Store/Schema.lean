import Decodex.Source.Core.AgentInbox
import Decodex.Source.Core.Conversation
import Decodex.Source.Store.Error

/-!
# Store schema

Source: database/schema.sql:100-113 (operations, credentials), 160-176 (accounts), 340-349
(agent bindings), 402-412 (capability), 533-560 (plans), 590-598, 621-642 (conversations,
history), 661-855 (epochs, generations, attempts, evidence), 859-870 (requests), 958-1056
(receipts, sessions, turns), and the unique indexes of 1169-1178. Work items and inbox events
are those of the agents.
Rows are held parsed; columns that no modelled statement reads are left out. Every
foreign key of a modelled insertion names a row that the same transaction has read, so
the keys are not repeated here.
-/
namespace Decodex.Source.Store

open Decodex.Library
open Decodex.Source.Core
open Decodex.Source.Core.ContextPacks (PossibleSideEffects)

/-- `revision INTEGER NOT NULL CHECK (revision > 0)`, of 64 bits. -/
def revisionInRange (revision : Int) : Bool := 0 < revision && revision ≤ i64Max

/-- `created_at_micros > 0` and `updated_at_micros >= created_at_micros`. -/
def timesInOrder (created updated : Int) : Bool := 0 < created && created ≤ updated

inductive ConversationState where
  | active | completed | failed | archived
  deriving DecidableEq, Repr

structure ConversationRow where
  conversationId : ConversationId
  state : ConversationState
  revision : Int
  createdAtMicros : Int
  updatedAtMicros : Int
  deriving DecidableEq

def conversations : Schema ConversationRow ConversationId where
  key row := row.conversationId
  check row :=
    revisionInRange row.revision && timesInOrder row.createdAtMicros row.updatedAtMicros

structure RuntimeSessionRow where
  runtimeSessionId : RuntimeSessionId
  conversationId : ConversationId
  accountId : AccountId
  accountRevision : Int
  codexThreadId : Option String
  state : RuntimeSessionState
  lastKnownTurnId : Option String
  threadStartRequestId : Option Int
  threadStartResponseId : Option Int
  threadStartBindingKey : Option String
  hasAcknowledgedTurn : Bool
  revision : Int
  createdAtMicros : Int
  updatedAtMicros : Int
  endedAtMicros : Option Int
  deriving DecidableEq

/-- The lifecycle `CHECK`: what each state says about the thread columns. -/
def RuntimeSessionRow.shape (row : RuntimeSessionRow) : Bool :=
  match row.state with
  | .starting => row.codexThreadId.isNone && row.threadStartResponseId.isNone
  | .active =>
    row.codexThreadId.isSome && row.threadStartRequestId.isSome &&
      row.threadStartResponseId == row.threadStartRequestId
  | .ended | .diverged => true

def RuntimeSessionRow.live (row : RuntimeSessionRow) : Bool :=
  row.state == .starting || row.state == .active

/-- `one_live_runtime_session_per_conversation` and the unique binding key. -/
def runtimeSessions : Schema RuntimeSessionRow RuntimeSessionId where
  key row := row.runtimeSessionId
  check row :=
    0 < row.accountRevision && row.shape && revisionInRange row.revision &&
      timesInOrder row.createdAtMicros row.updatedAtMicros &&
      row.endedAtMicros.all fun ended => row.createdAtMicros ≤ ended
  clash a b :=
    (a.live && b.live && a.conversationId == b.conversationId) ||
      (a.threadStartBindingKey.isSome && a.threadStartBindingKey == b.threadStartBindingKey)

inductive ContinuationKind where
  | initialThread | sameThread | contextPackFallback
  deriving DecidableEq, Repr

structure ContinuationPlanRow where
  continuationPlanId : String
  conversationId : ConversationId
  turnId : TurnId
  routingDecisionId : String
  sourceRuntimeSessionId : RuntimeSessionId
  sourceRuntimeSessionRevision : Int
  selectedAccountId : AccountId
  runtimeSessionId : Option RuntimeSessionId
  kind : ContinuationKind
  codexThreadId : Option String
  fallbackContextPackId : Option String
  sameThreadAttemptId : Option String
  sameThreadEvidenceId : Option String
  deriving DecidableEq

def ContinuationPlanRow.shape (row : ContinuationPlanRow) : Bool :=
  match row.kind with
  | .initialThread =>
    row.runtimeSessionId == some row.sourceRuntimeSessionId && row.codexThreadId.isNone &&
      row.fallbackContextPackId.isNone && row.sameThreadAttemptId.isNone &&
      row.sameThreadEvidenceId.isNone
  | .sameThread =>
    row.runtimeSessionId.isNone && row.codexThreadId.isSome &&
      row.fallbackContextPackId.isNone && row.sameThreadAttemptId.isSome &&
      row.sameThreadEvidenceId.isSome
  | .contextPackFallback =>
    row.runtimeSessionId.isSome && row.fallbackContextPackId.isSome &&
      row.codexThreadId.isNone && row.sameThreadAttemptId.isNone &&
      row.sameThreadEvidenceId.isNone

def continuationPlans : Schema ContinuationPlanRow String where
  key row := row.continuationPlanId
  check row := 0 < row.sourceRuntimeSessionRevision && row.shape
  clash a b := a.conversationId == b.conversationId && a.turnId == b.turnId

/-- The request of a conversation, with the account that supplied its model choices. -/
structure QuickTaskRequestRow where
  conversationId : ConversationId
  modelSource : Option (AccountId × Int)
  deriving DecidableEq

def quickTaskRequests : Schema QuickTaskRequestRow ConversationId where
  key row := row.conversationId
  check row := row.modelSource.all fun source => 0 < source.2

structure TurnRow where
  turnId : TurnId
  conversationId : ConversationId
  runtimeSessionId : Option RuntimeSessionId
  sequence : Int
  role : TurnRole
  possibleSideEffects : PossibleSideEffects
  status : TurnStatus
  revision : Int
  createdAtMicros : Int
  updatedAtMicros : Int
  completedAtMicros : Option Int
  deriving DecidableEq

def turns : Schema TurnRow TurnId where
  key row := row.turnId
  check row :=
    0 < row.sequence && row.sequence ≤ i64Max && (row.role == .user || row.role == .assistant) &&
      revisionInRange row.revision && timesInOrder row.createdAtMicros row.updatedAtMicros &&
      row.completedAtMicros.all fun completed => row.createdAtMicros ≤ completed
  clash a b := a.conversationId == b.conversationId && a.sequence == b.sequence

structure HistoryItemRow where
  historyItemId : HistoryItemId
  conversationId : ConversationId
  turnId : TurnId
  sequence : Int
  kind : HistoryItemKind
  role : Option TurnRole
  status : ItemStatus
  mediaType : String
  inlineText : Option String
  blobHash : Option BlobHash
  metadata : MetadataObject
  revision : Int
  createdAtMicros : Int
  updatedAtMicros : Int
  deriving DecidableEq

def historyItems : Schema HistoryItemRow HistoryItemId where
  key row := row.historyItemId
  check row :=
    0 < row.sequence && row.sequence ≤ i64Max &&
      row.role.all (fun role => role == .user || role == .assistant) &&
      0 < row.mediaType.utf8ByteSize && row.mediaType.utf8ByteSize ≤ 128 &&
      row.inlineText.isNone != row.blobHash.isNone && revisionInRange row.revision &&
      timesInOrder row.createdAtMicros row.updatedAtMicros
  clash a b := a.conversationId == b.conversationId && a.sequence == b.sequence

/-- `response_json` of a receipt: what the operation that wrote it serialized. -/
inductive ReceiptResponse where
  | revision (revision : Int)
  | historyItem (historyItemId : String)
  | admission (routingDecisionId continuationPlanId : String) (turnId : TurnId)
      (sequence : Int) (status : TurnStatus) (revision : Int) (historyItemId : HistoryItemId)
  | terminalization (runtimeSessionRevision userTurnRevision : Int)
      (assistantTurnRevision : Option Int) (providerAttemptRevision : Int)
  | recoveredTurn (turnRevision : Int)
  | other (text : String)
  deriving DecidableEq

structure ReceiptRow where
  idempotencyKey : String
  requestSha256 : String
  operation : String
  entityId : String
  response : ReceiptResponse
  completedAtMicros : Int
  deriving DecidableEq

def runtimeCommandReceipts : Schema ReceiptRow String where
  key row := row.idempotencyKey
  check row :=
    0 < row.idempotencyKey.utf8ByteSize && row.idempotencyKey.utf8ByteSize ≤ 256 &&
      row.requestSha256.length == 64 && 0 < row.operation.utf8ByteSize &&
      row.operation.utf8ByteSize ≤ 128 && 0 < row.entityId.utf8ByteSize &&
      row.entityId.utf8ByteSize ≤ 256 && 0 < row.completedAtMicros

/-- `state IN ('prepared', 'dispatch_authorized', 'unknown')`. -/
def nonterminalAttempt (attempt : ProviderAttempt) : Bool := !attempt.state.isTerminal

/-- States that positive evidence proves. -/
def evidencedState : ProviderAttemptState → Bool
  | .succeeded | .failedDefinitive | .notSubmitted => true
  | .prepared | .canceled | .dispatchAuthorized | .unknown => false

/-- `one_nonterminal_provider_attempt_per_turn` and the unique request. -/
def providerAttempts : Schema ProviderAttempt ProviderAttemptId where
  key row := row.attemptId
  check row :=
    0 < row.runtimeSessionRevision && 0 < row.processGenerationRevision &&
      row.requestDigest.length == 64 &&
      (row.state == .unknown) == row.unknownReason.isSome &&
      evidencedState row.state == row.terminalEvidenceId.isSome &&
      revisionInRange row.revision && timesInOrder row.createdAtMicros row.updatedAtMicros
  clash a b :=
    (nonterminalAttempt a && nonterminalAttempt b && a.consumer.turnId == b.consumer.turnId) ||
      a.requestId == b.requestId

structure PositiveEvidenceRow where
  evidence : ProviderPositiveEvidence
  observedAtMicros : Int
  deriving DecidableEq

def positiveEvidence : Schema PositiveEvidenceRow ProviderEvidenceId where
  key row := row.evidence.evidenceId
  check row := row.evidence.witnessDigest.length == 64 && 0 < row.observedAtMicros
  clash a b := a.evidence.attemptId == b.evidence.attemptId

structure ProcessGenerationRow where
  generation : ProcessGeneration
  runtimeSessionId : Option RuntimeSessionId
  binding : ProcessGenerationAccountBinding
  quickTaskAdmissionKey : Option String
  deriving DecidableEq

/-- `one_quarantining_process_generation_per_account` and the unique admission key. -/
def processGenerations : Schema ProcessGenerationRow ProcessGenerationId where
  key row := row.generation.generationId
  check row :=
    row.generation.processIdentity.all ProcessIdentity.isSessionLeader &&
      0 < row.binding.accountRevision && 0 < row.binding.credential.version &&
      (row.quickTaskAdmissionKey.all fun key => 0 < key.utf8ByteSize && key.utf8ByteSize ≤ 256) &&
      (!(row.generation.state == .ready || row.generation.state == .stopping) ||
        row.generation.processIdentity.isSome) &&
      (row.generation.state == .deathUnknown) == row.generation.authorityLossReason.isSome &&
      (row.generation.state == .dead) == row.generation.deathEvidenceId.isSome &&
      revisionInRange row.generation.revision &&
      timesInOrder row.generation.createdAtMicros row.generation.updatedAtMicros
  clash a b :=
    (a.generation.state != .dead && b.generation.state != .dead &&
        a.generation.accountId == b.generation.accountId) ||
      (a.quickTaskAdmissionKey.isSome && a.quickTaskAdmissionKey == b.quickTaskAdmissionKey)

structure DeathEvidenceRow where
  evidence : ProcessDeathEvidence
  observedAtMicros : Int
  deriving DecidableEq

def deathEvidence : Schema DeathEvidenceRow ProcessDeathEvidenceId where
  key row := row.evidence.evidenceId
  check row :=
    row.evidence.processIdentity.all ProcessIdentity.isSessionLeader &&
      row.evidence.witnessDigest.length == 64 && 0 < row.observedAtMicros
  clash a b := a.evidence.generationId == b.evidence.generationId

structure ExecutionEpochRow where
  epochId : ProcessExecutionEpochId
  authorizationSha256 : String
  createdAtMicros : Int
  deriving DecidableEq

def processExecutionEpochs : Schema ExecutionEpochRow ProcessExecutionEpochId where
  key row := row.epochId
  check row := row.authorizationSha256.length == 64 && 0 < row.createdAtMicros

inductive CredentialStoreObservation where
  | unknown | exact | missing | unavailable | mismatch | providerMismatch
  deriving DecidableEq, Repr

structure AccountRow where
  accountId : AccountId
  enabled : Bool
  revision : Int
  credentialStoreObservation : CredentialStoreObservation
  tombstonedAtMicros : Option Int
  deriving DecidableEq

def accounts : Schema AccountRow AccountId where
  key row := row.accountId
  check row := revisionInRange row.revision

structure AccountCredentialRow where
  accountId : AccountId
  schemaVersion : Int
  credentialVersion : Int
  fingerprint : String
  writerOperationId : AccountOperationId
  providerAccountId : String
  deriving DecidableEq

def accountCredentials : Schema AccountCredentialRow AccountId where
  key row := row.accountId

inductive AccountOperationPhase where
  | prepared | providerEffectPending | storeApplied | committed | cancelled | recoveryRequired
  deriving DecidableEq, Repr

structure AccountOperationRow where
  operationId : AccountOperationId
  accountId : AccountId
  phase : AccountOperationPhase
  supersededByOperationId : Option AccountOperationId
  deriving DecidableEq

def accountOperations : Schema AccountOperationRow AccountOperationId where
  key row := row.operationId

structure AccountCapabilityRow where
  callbackProfileSha256 : String
  loginChatgptAuthTokens : Bool
  refreshCallback : Bool
  deriving DecidableEq

structure AgentProcessBindingRow where
  operationKey : String
  rootId : String
  accountId : AccountId
  generationId : ProcessGenerationId
  requestSha256 : String
  createdAtMicros : Int
  deriving DecidableEq

def agentProcessBindings : Schema AgentProcessBindingRow String where
  key row := row.operationKey
  check row :=
    0 < row.operationKey.utf8ByteSize && row.operationKey.utf8ByteSize ≤ 256 &&
      row.requestSha256.length == 64 && 0 < row.createdAtMicros
  clash a b := a.rootId == b.rootId && a.generationId == b.generationId

@[simp] theorem conversations_key (row : ConversationRow) :
    conversations.key row = row.conversationId := rfl

@[simp] theorem turns_key (row : TurnRow) : turns.key row = row.turnId := rfl

@[simp] theorem historyItems_key (row : HistoryItemRow) :
    historyItems.key row = row.historyItemId := rfl

@[simp] theorem runtimeCommandReceipts_key (row : ReceiptRow) :
    runtimeCommandReceipts.key row = row.idempotencyKey := rfl

@[simp] theorem providerAttempts_key (row : ProviderAttempt) :
    providerAttempts.key row = row.attemptId := rfl

@[simp] theorem positiveEvidence_key (row : PositiveEvidenceRow) :
    positiveEvidence.key row = row.evidence.evidenceId := rfl

@[simp] theorem processGenerations_key (row : ProcessGenerationRow) :
    processGenerations.key row = row.generation.generationId := rfl

@[simp] theorem deathEvidence_key (row : DeathEvidenceRow) :
    deathEvidence.key row = row.evidence.evidenceId := rfl

/-- The tables of the store. -/
structure SqliteStore where
  conversations : Table conversations
  runtimeSessions : Table runtimeSessions
  routingDecisions : List String
  continuationPlans : Table continuationPlans
  quickTaskRequests : Table quickTaskRequests
  turns : Table turns
  historyItems : Table historyItems
  runtimeCommandReceipts : Table runtimeCommandReceipts
  providerAttempts : Table providerAttempts
  positiveEvidence : Table positiveEvidence
  processGenerations : Table processGenerations
  deathEvidence : Table deathEvidence
  processExecutionEpochs : Table processExecutionEpochs
  accounts : Table accounts
  accountCredentials : Table accountCredentials
  accountOperations : Table accountOperations
  accountCapability : Option AccountCapabilityRow
  agentWorkItems : Table workItemTable
  agentInboxEvents : Table inboxEventTable
  agentProcessBindings : Table agentProcessBindings

/-- A store just created from the schema. -/
def SqliteStore.empty : SqliteStore where
  conversations := Table.empty
  runtimeSessions := Table.empty
  routingDecisions := []
  continuationPlans := Table.empty
  quickTaskRequests := Table.empty
  turns := Table.empty
  historyItems := Table.empty
  runtimeCommandReceipts := Table.empty
  providerAttempts := Table.empty
  positiveEvidence := Table.empty
  processGenerations := Table.empty
  deathEvidence := Table.empty
  processExecutionEpochs := Table.empty
  accounts := Table.empty
  accountCredentials := Table.empty
  accountOperations := Table.empty
  accountCapability := none
  agentWorkItems := Table.empty
  agentInboxEvents := Table.empty
  agentProcessBindings := Table.empty

/-- What the host supplies: SHA-256 in lower-case hex over length-delimited parts and over a
JSON array of texts, SHA-256 of a blob, and the credential pattern. -/
structure Host where
  digest : List String → String
  jsonDigest : List String → String
  blobDigest : List UInt8 → BlobHash
  containsCredentialMaterial : String → Bool

end Decodex.Source.Store
