import Decodex.Source.Store.ContextPackRows
import Decodex.Source.Store.HistoryEntries
import Decodex.Source.Store.ProcessGenerations
import Decodex.Source.Store.ProviderAttempts

/-!
# Thread establishment

Source: database/src/runtime_sessions.rs:15-306 (requests, readbacks, outcomes), 308-397
(`prepare_conversation_process_generation`), 400-728 (fence, binding, reconciliation),
897-1256 (authorities, readers, comparisons), 913-956 and 525-557 of schema.sql.
`read_ordinary_runtime_session_for_resume` writes nothing and is left out, with the columns
that only it and `read_stored_runtime_session` return. `activity_sequence` and `outbox_id`
repeat the revision of their readback.
-/
namespace Decodex.Source.Store.ThreadStarts

open Decodex.Library
open Decodex.Source.Core
open Decodex.Source.Store.ContextPackRows (ContextPackRow)
open Decodex.Source.Store.ProcessGenerations (FreshConversationProcessGeneration)
open Decodex.Source.Store.ProviderAttempts (executionSessionId)

/-- The fence columns, which the table makes null together, and the digest they are set with. -/
structure ThreadStartFence where
  fenceKey : String
  requestSha256 : String
  turnId : TurnId
  continuationPlanId : String
  routingDecisionId : String
  processGenerationId : ProcessGenerationId
  processGenerationRevision : Int
  processExecutionEpochId : ProcessExecutionEpochId
  deriving DecidableEq

/-- The columns of `runtime_sessions` that only these operations read. -/
structure SessionThreadRow where
  runtimeSessionId : RuntimeSessionId
  accountSnapshotId : String
  profileSnapshotId : String
  fence : Option ThreadStartFence
  responseSha256 : Option String
  deriving DecidableEq

def ThreadStartFence.check (fence : ThreadStartFence) : Bool :=
  0 < fence.fenceKey.utf8ByteSize && fence.fenceKey.utf8ByteSize ≤ 256 &&
    fence.requestSha256.length == 64 && fence.continuationPlanId.length == 36 &&
    fence.routingDecisionId.length == 36 && 0 < fence.processGenerationRevision

/-- Three unique columns: both snapshots and the fence key. -/
def sessionThreads : Schema SessionThreadRow RuntimeSessionId where
  key row := row.runtimeSessionId
  check row :=
    row.accountSnapshotId.length == 36 && row.profileSnapshotId.length == 36 &&
      row.fence.all ThreadStartFence.check && row.responseSha256.all fun sha => sha.length == 64
  clash a b :=
    a.accountSnapshotId == b.accountSnapshotId || a.profileSnapshotId == b.profileSnapshotId ||
      (a.fence.isSome && a.fence.map (·.fenceKey) == b.fence.map (·.fenceKey))

@[simp] theorem sessionThreads_key (row : SessionThreadRow) :
    sessionThreads.key row = row.runtimeSessionId := rfl

inductive RoutingAuthorityShape where
  | conversationAccountRegistry | conversationContinuation
  deriving DecidableEq, Repr

inductive RoutingDecisionKind where
  | selected | waiting | noRoute
  deriving DecidableEq, Repr

/-- A source session with the snapshots a continuation decision was made over. -/
structure DecisionSource where
  runtimeSessionId : RuntimeSessionId
  runtimeSessionRevision : Int
  accountSnapshotId : String
  profileSnapshotId : String
  deriving DecidableEq

structure RoutingDecisionRow where
  routingDecisionId : String
  authorityShape : RoutingAuthorityShape
  conversationId : ConversationId
  turnId : TurnId
  conversationRevision : Int
  source : Option DecisionSource
  decisionKind : RoutingDecisionKind
  account : Option (AccountId × Int)
  deriving DecidableEq

/-- The checks that tie the source columns to the shape and the account to the kind. -/
def decisions : Schema RoutingDecisionRow String where
  key row := row.routingDecisionId
  check row :=
    row.routingDecisionId.length == 36 && 0 < row.conversationRevision &&
      (row.decisionKind == .selected) == row.account.isSome &&
      (row.authorityShape == .conversationContinuation) == row.source.isSome &&
      (row.authorityShape != .conversationContinuation || row.decisionKind == .selected)
  clash a b := a.conversationId == b.conversationId && a.turnId == b.turnId

/-- The command columns of `continuation_plans`. -/
structure PlanCommandRow where
  continuationPlanId : String
  operationId : String
  idempotencyKey : String
  requestSha256 : String
  createdAtMicros : Int
  deriving DecidableEq

def planCommands : Schema PlanCommandRow String where
  key row := row.continuationPlanId
  check row :=
    row.continuationPlanId.length == 36 && row.operationId.length == 36 &&
      0 < row.idempotencyKey.utf8ByteSize && row.idempotencyKey.utf8ByteSize ≤ 256 &&
      row.requestSha256.length == 64 && 0 < row.createdAtMicros
  clash a b := a.operationId == b.operationId || a.idempotencyKey == b.idempotencyKey

structure StoredContextPackRow where
  contextPackId : String
  pack : ContextPackRow
  createdAtMicros : Int
  deriving DecidableEq

def contextPacks : Schema StoredContextPackRow String where
  key row := row.contextPackId
  check row :=
    row.contextPackId.length == 36 && row.pack.packRevision == 1 &&
      1024 ≤ row.pack.policyMaxBytes && row.pack.policyMaxBytes ≤ 262144 &&
      1 ≤ row.pack.policyRecentItemLimit && row.pack.policyRecentItemLimit ≤ 256 &&
      2 ≤ row.pack.manifestJson.utf8ByteSize && row.pack.manifestJson.utf8ByteSize ≤ 1048576 &&
      row.pack.manifestSha256.length == 64 && row.pack.compiledSha256.length == 64 &&
      1 ≤ row.pack.byteLength && row.pack.byteLength ≤ 262144 &&
      0 ≤ row.pack.omittedSourceCount && row.pack.omittedSourceCount ≤ 512 &&
      0 < row.createdAtMicros

/-- The store with the columns and tables of thread establishment: one row of
`sessionThreads` for each session and one of `planCommands` for each plan. -/
structure ThreadStore extends SqliteStore where
  sessionThreads : Table sessionThreads
  decisions : Table decisions
  planCommands : Table planCommands
  contextPacks : Table contextPacks
  /-- `role_profiles` has a row of the role `task`. -/
  taskProfile : Bool

def ThreadStore.empty : ThreadStore where
  toSqliteStore := SqliteStore.empty
  sessionThreads := Table.empty
  decisions := Table.empty
  planCommands := Table.empty
  contextPacks := Table.empty
  taskProfile := false

def ThreadStore.fenceOf (store : ThreadStore) (id : RuntimeSessionId) : Option ThreadStartFence :=
  (store.sessionThreads.find? id).bind (·.fence)

def ThreadStore.bindingKeyOf (store : ThreadStore) (id : RuntimeSessionId) : Option String :=
  (store.runtimeSessions.find? id).bind (·.threadStartBindingKey)

def ThreadStore.responseShaOf (store : ThreadStore) (id : RuntimeSessionId) : Option String :=
  (store.sessionThreads.find? id).bind (·.responseSha256)

/-- Exact coordinates of a Conversation, its session and its revision-one Turn. -/
structure PrepareConversationProcessGeneration where
  conversationId : ConversationId
  expectedConversationRevision : Int
  runtimeSessionId : RuntimeSessionId
  expectedRuntimeSessionRevision : Int
  turnId : TurnId
  expectedTurnRevision : Int
  continuationPlanId : String
  routingDecisionId : String
  selectedAccountId : AccountId
  processGenerationId : ProcessGenerationId
  deriving DecidableEq

/-- `ReconcileConversationThreadEstablishment` has the same fields. -/
abbrev ReconcileConversationThreadEstablishment := PrepareConversationProcessGeneration

inductive ConversationProcessGenerationRejection where
  | missingTurn | inactiveTurn | staleTurn | authorityUnavailable | invalidInput
  deriving DecidableEq, Repr

structure ConversationProcessGenerationReadback where
  request : PrepareConversationProcessGeneration
  admissionRevision : Option Int
  rejection : Option ConversationProcessGenerationRejection
  deriving DecidableEq

inductive PrepareConversationProcessGenerationOutcome where
  | fresh (admission : FreshConversationProcessGeneration)
      (readback : ConversationProcessGenerationReadback)
  | replayed (readback : ConversationProcessGenerationReadback)
  | rejected (readback : ConversationProcessGenerationReadback)
  deriving DecidableEq

inductive RuntimeSessionThreadEstablishmentRejection where
  | invalidInput | authorityUnavailable
  deriving DecidableEq, Repr

structure FenceRuntimeSessionThreadStart where
  conversationId : ConversationId
  expectedConversationRevision : Int
  runtimeSessionId : RuntimeSessionId
  expectedRevision : Int
  turnId : TurnId
  expectedTurnRevision : Int
  continuationPlanId : String
  processGenerationId : ProcessGenerationId
  processGenerationRevision : Int
  processExecutionEpochId : ProcessExecutionEpochId
  threadStartRequestId : Int
  threadStartRequestSha256 : String
  deriving DecidableEq

structure RuntimeSessionThreadFenceReadback where
  fenceIdempotencyKey : String
  conversationId : ConversationId
  conversationRevision : Int
  runtimeSessionId : RuntimeSessionId
  priorRevision : Int
  revision : Int
  turnId : TurnId
  turnRevision : Int
  continuationPlanId : String
  routingDecisionId : String
  selectedAccountId : AccountId
  processGenerationId : ProcessGenerationId
  processGenerationRevision : Int
  processExecutionEpochId : ProcessExecutionEpochId
  threadStartRequestId : Int
  threadStartRequestSha256 : String
  deriving DecidableEq

inductive FenceRuntimeSessionThreadStartOutcome where
  | fresh (readback : RuntimeSessionThreadFenceReadback)
  | replayed (readback : RuntimeSessionThreadFenceReadback)
  | rejected (rejection : RuntimeSessionThreadEstablishmentRejection)
  deriving DecidableEq

structure SuccessfulRuntimeSessionThreadStart where
  responseId : Int
  responseSha256 : String
  codexThreadId : String
  deriving DecidableEq

structure BindRuntimeSessionThread where
  conversationId : ConversationId
  expectedConversationRevision : Int
  runtimeSessionId : RuntimeSessionId
  expectedRevision : Int
  turnId : TurnId
  expectedTurnRevision : Int
  continuationPlanId : String
  fenceIdempotencyKey : String
  threadStartRequestId : Int
  threadStartRequestSha256 : String
  successfulResponse : SuccessfulRuntimeSessionThreadStart
  deriving DecidableEq

structure RuntimeSessionThreadBindingReadback where
  conversationId : ConversationId
  conversationRevision : Int
  runtimeSessionId : RuntimeSessionId
  priorRevision : Int
  revision : Int
  turnId : TurnId
  turnRevision : Int
  fencePriorRevision : Int
  fenceRevision : Int
  continuationPlanId : String
  fenceIdempotencyKey : String
  bindingIdempotencyKey : String
  threadStartRequestId : Int
  threadStartRequestSha256 : String
  threadStartResponseId : Int
  threadStartResponseSha256 : String
  codexThreadId : String
  deriving DecidableEq

inductive BindRuntimeSessionThreadOutcome where
  | applied (readback : RuntimeSessionThreadBindingReadback)
  | replayed (readback : RuntimeSessionThreadBindingReadback)
  | rejected (rejection : RuntimeSessionThreadEstablishmentRejection)
  deriving DecidableEq

inductive ConversationPreEffectEvidenceKind where
  | admissionRejected | spawnNotCreated | processDead
  deriving DecidableEq, Repr

structure ConversationThreadStartNonEffect where
  processGenerationRevision : Option Int
  kind : ConversationPreEffectEvidenceKind
  evidenceId : String
  deriving DecidableEq

inductive ConversationThreadEstablishmentReadback where
  | bound (readback : RuntimeSessionThreadBindingReadback)
  | fenced (readback : RuntimeSessionThreadFenceReadback)
  | definitelyNotStarted (proof : ConversationThreadStartNonEffect)
  | unknown
  deriving DecidableEq

/-- `validate_sha`. -/
def validateSha (value : String) : Except StoreError Unit :=
  if isSha256 value then .ok () else .error (.invalidInput "SHA-256 value is invalid")

/-- `i64::checked_add(1)` of a session revision. -/
def nextRevision (revision : Int) : Except StoreError Int :=
  if revision < i64Max then .ok (revision + 1)
  else .error (.invalidInput "RuntimeSession revision overflow")

/-- `process_admission_sha` and `reconciliation_process_admission_sha`. -/
def processAdmissionSha (host : Host) (request : PrepareConversationProcessGeneration) : String :=
  host.digest
    [request.conversationId.text, toString request.expectedConversationRevision,
      request.runtimeSessionId.text, toString request.expectedRuntimeSessionRevision,
      request.turnId.text, toString request.expectedTurnRevision, request.continuationPlanId,
      request.routingDecisionId, request.selectedAccountId.text, request.processGenerationId.text]

/-- The evidence that a same-thread plan names still stands for its session. -/
def sameThreadEvidenceHolds (store : ThreadStore) (plan : ContinuationPlanRow)
    (source : RuntimeSessionRow) : Bool :=
  store.providerAttempts.rows.any fun prior =>
    plan.sameThreadAttemptId == some prior.attemptId.text &&
      prior.runtimeSessionId == source.runtimeSessionId &&
      (prior.state == .succeeded || prior.state == .failedDefinitive) &&
      store.positiveEvidence.rows.any fun evidence =>
        evidence.evidence.attemptId == prior.attemptId &&
          plan.sameThreadEvidenceId == some evidence.evidence.evidenceId.text &&
          source.codexThreadId.isSome && evidence.evidence.providerThreadId == source.codexThreadId

/-- The three alternatives of the admission query. -/
def planAdmits (store : ThreadStore) (request : PrepareConversationProcessGeneration)
    (plan : ContinuationPlanRow) (source : RuntimeSessionRow) : Bool :=
  let sourceNamed := plan.sourceRuntimeSessionId == request.runtimeSessionId &&
    plan.sourceRuntimeSessionRevision == request.expectedRuntimeSessionRevision &&
    source.revision == request.expectedRuntimeSessionRevision
  match plan.kind with
  | .initialThread =>
    plan.runtimeSessionId == some source.runtimeSessionId && sourceNamed &&
      source.state == .starting
  | .sameThread =>
    plan.runtimeSessionId.isNone && sourceNamed && source.state == .active &&
      source.hasAcknowledgedTurn && plan.codexThreadId == source.codexThreadId &&
      sameThreadEvidenceHolds store plan source
  | .contextPackFallback =>
    plan.runtimeSessionId == some request.runtimeSessionId &&
      ((store.runtimeSessions.find? request.runtimeSessionId).any fun fallback =>
        fallback.revision == request.expectedRuntimeSessionRevision &&
          fallback.state == .starting && fallback.accountId == plan.selectedAccountId) &&
      source.state == .ended && source.revision == plan.sourceRuntimeSessionRevision + 1 &&
      store.contextPacks.rows.any fun pack =>
        plan.fallbackContextPackId == some pack.contextPackId &&
          pack.pack.conversationId == plan.conversationId.text

/-- The `EXISTS` over plan, decision, source session and Conversation. -/
def admissionPlanHolds (store : ThreadStore) (request : PrepareConversationProcessGeneration) :
    Bool :=
  (store.continuationPlans.find? request.continuationPlanId).any fun plan =>
    plan.routingDecisionId == request.routingDecisionId &&
      (store.decisions.find? plan.routingDecisionId).isSome &&
      plan.conversationId == request.conversationId && plan.turnId == request.turnId &&
      plan.selectedAccountId == request.selectedAccountId &&
      ((store.conversations.find? plan.conversationId).any fun conversation =>
        conversation.revision == request.expectedConversationRevision &&
          conversation.state == .active) &&
      (store.runtimeSessions.find? plan.sourceRuntimeSessionId).any (planAdmits store request plan)

/-- `process_admission_authority`. -/
def processAdmissionAuthority (store : ThreadStore)
    (request : PrepareConversationProcessGeneration) :
    Option ConversationProcessGenerationRejection :=
  match (store.turns.find? request.turnId).filter fun turn =>
      turn.conversationId == request.conversationId &&
        turn.runtimeSessionId == some request.runtimeSessionId with
  | none => some .missingTurn
  | some turn =>
    if turn.status ≠ .active then some .inactiveTurn
    else if turn.revision ≠ request.expectedTurnRevision then some .staleTurn
    else if admissionPlanHolds store request then none
    else some .authorityUnavailable

/-- The receipt that stands for an admission. -/
def admissionReceipt (key requestSha256 : String)
    (request : PrepareConversationProcessGeneration) (now : Int) : ReceiptRow where
  idempotencyKey := key
  requestSha256 := requestSha256
  operation := "prepare_quick_task_process_generation"
  entityId := request.processGenerationId.text
  response := .other "\x7b\x7d"
  completedAtMicros := now

def prepareConversationProcessGeneration (host : Host) (key : String)
    (request : PrepareConversationProcessGeneration) (now : Int) (store : ThreadStore) :
    Except StoreError (PrepareConversationProcessGenerationOutcome × ThreadStore) := do
  validateKey host key
  let requestSha256 := processAdmissionSha host request
  match store.runtimeCommandReceipts.find? key with
  | some stored =>
    if stored.requestSha256 ≠ requestSha256 then .error .idempotencyConflict
    else .ok (.replayed ⟨request, some 1, none⟩, store)
  | none =>
    match processAdmissionAuthority store request with
    | some rejection => .ok (.rejected ⟨request, none, some rejection⟩, store)
    | none => do
      let receipts ← execute <| store.runtimeCommandReceipts.insert <|
        admissionReceipt key requestSha256 request now
      .ok (.fresh
          ⟨key, requestSha256, request.processGenerationId, request.selectedAccountId,
            request.runtimeSessionId⟩ ⟨request, some 1, none⟩,
        { store with runtimeCommandReceipts := receipts })

/-- The readback of a fence; binding advanced the session once, so that increment is removed.
A stored revision is positive, so the prior revision exists. -/
def fenceReadback (session : RuntimeSessionRow) (fence : ThreadStartFence)
    (conversationRevision requestId : Int) : RuntimeSessionThreadFenceReadback :=
  let revision := if session.threadStartBindingKey.isNone then session.revision
    else session.revision - 1
  { fenceIdempotencyKey := fence.fenceKey
    conversationId := session.conversationId
    conversationRevision := conversationRevision
    runtimeSessionId := session.runtimeSessionId
    priorRevision := revision - 1
    revision := revision
    turnId := fence.turnId
    turnRevision := 1
    continuationPlanId := fence.continuationPlanId
    routingDecisionId := fence.routingDecisionId
    selectedAccountId := session.accountId
    processGenerationId := fence.processGenerationId
    processGenerationRevision := fence.processGenerationRevision
    processExecutionEpochId := fence.processExecutionEpochId
    threadStartRequestId := requestId
    threadStartRequestSha256 := fence.requestSha256 }

/-- `read_thread_fence`. -/
def readThreadFence (store : ThreadStore) (id : RuntimeSessionId) :
    Except StoreError RuntimeSessionThreadFenceReadback := do
  let session ← execute (store.runtimeSessions.find? id)
  let fence ← execute (store.fenceOf id)
  let conversation ← execute (store.conversations.find? session.conversationId)
  let requestId ← execute session.threadStartRequestId
  .ok (fenceReadback session fence conversation.revision requestId)

/-- The readback of a binding. -/
def bindingReadback (session : RuntimeSessionRow) (fence : RuntimeSessionThreadFenceReadback)
    (bindingKey : String) (responseId : Int) (responseSha256 codexThreadId : String) :
    RuntimeSessionThreadBindingReadback where
  conversationId := fence.conversationId
  conversationRevision := fence.conversationRevision
  runtimeSessionId := session.runtimeSessionId
  priorRevision := fence.revision
  revision := session.revision
  turnId := fence.turnId
  turnRevision := fence.turnRevision
  fencePriorRevision := fence.priorRevision
  fenceRevision := fence.revision
  continuationPlanId := fence.continuationPlanId
  fenceIdempotencyKey := fence.fenceIdempotencyKey
  bindingIdempotencyKey := bindingKey
  threadStartRequestId := fence.threadStartRequestId
  threadStartRequestSha256 := fence.threadStartRequestSha256
  threadStartResponseId := responseId
  threadStartResponseSha256 := responseSha256
  codexThreadId := codexThreadId

/-- `read_thread_binding`. -/
def readThreadBinding (store : ThreadStore) (id : RuntimeSessionId) :
    Except StoreError RuntimeSessionThreadBindingReadback := do
  let fence ← readThreadFence store id
  let session ← execute ((store.runtimeSessions.find? id).filter fun row => row.state == .active)
  let bindingKey ← execute session.threadStartBindingKey
  let responseId ← execute session.threadStartResponseId
  let responseSha256 ← execute (store.responseShaOf id)
  let codexThreadId ← execute session.codexThreadId
  .ok (bindingReadback session fence bindingKey responseId responseSha256 codexThreadId)

/-- `thread_fence_authority`: the decision and account of the plan that the fence names. -/
def threadFenceAuthority (store : ThreadStore) (fence : FenceRuntimeSessionThreadStart) :
    Option (String × AccountId) := do
  let plan ← store.continuationPlans.find? fence.continuationPlanId
  let _ ← store.decisions.find? plan.routingDecisionId
  let session ← store.runtimeSessions.find? (executionSessionId plan)
  let conversation ← store.conversations.find? plan.conversationId
  let turn ← store.turns.find? plan.turnId
  let process ← store.processGenerations.find? fence.processGenerationId
  guard (plan.conversationId = fence.conversationId ∧
    executionSessionId plan = fence.runtimeSessionId ∧ plan.kind ≠ .sameThread ∧
    plan.turnId = fence.turnId)
  guard (session.revision = fence.expectedRevision ∧ session.state = .starting)
  guard (conversation.revision = fence.expectedConversationRevision ∧
    conversation.state = .active)
  guard (turn.revision = fence.expectedTurnRevision ∧ turn.status = .active)
  guard (process.generation.revision = fence.processGenerationRevision ∧
    process.generation.state = .ready ∧
    process.runtimeSessionId = some session.runtimeSessionId ∧
    process.generation.executionEpochId = fence.processExecutionEpochId ∧
    process.generation.accountId = plan.selectedAccountId)
  some (plan.routingDecisionId, plan.selectedAccountId)

/-- `fence_matches`. -/
def fenceMatches (readback : RuntimeSessionThreadFenceReadback)
    (fence : FenceRuntimeSessionThreadStart) : Bool :=
  readback.conversationId == fence.conversationId &&
    readback.conversationRevision == fence.expectedConversationRevision &&
    readback.runtimeSessionId == fence.runtimeSessionId &&
    readback.priorRevision == fence.expectedRevision && readback.turnId == fence.turnId &&
    readback.turnRevision == fence.expectedTurnRevision &&
    readback.continuationPlanId == fence.continuationPlanId &&
    readback.processGenerationId == fence.processGenerationId &&
    readback.processGenerationRevision == fence.processGenerationRevision &&
    readback.processExecutionEpochId == fence.processExecutionEpochId &&
    readback.threadStartRequestId == fence.threadStartRequestId &&
    readback.threadStartRequestSha256 == fence.threadStartRequestSha256

/-- The columns a fence sets. -/
def fenceColumns (key routingDecisionId : String) (fence : FenceRuntimeSessionThreadStart) :
    ThreadStartFence where
  fenceKey := key
  requestSha256 := fence.threadStartRequestSha256
  turnId := fence.turnId
  continuationPlanId := fence.continuationPlanId
  routingDecisionId := routingDecisionId
  processGenerationId := fence.processGenerationId
  processGenerationRevision := fence.processGenerationRevision
  processExecutionEpochId := fence.processExecutionEpochId

def freshFence (key routingDecisionId : String) (selectedAccountId : AccountId) (revision : Int)
    (fence : FenceRuntimeSessionThreadStart) : RuntimeSessionThreadFenceReadback where
  fenceIdempotencyKey := key
  conversationId := fence.conversationId
  conversationRevision := fence.expectedConversationRevision
  runtimeSessionId := fence.runtimeSessionId
  priorRevision := fence.expectedRevision
  revision := revision
  turnId := fence.turnId
  turnRevision := fence.expectedTurnRevision
  continuationPlanId := fence.continuationPlanId
  routingDecisionId := routingDecisionId
  selectedAccountId := selectedAccountId
  processGenerationId := fence.processGenerationId
  processGenerationRevision := fence.processGenerationRevision
  processExecutionEpochId := fence.processExecutionEpochId
  threadStartRequestId := fence.threadStartRequestId
  threadStartRequestSha256 := fence.threadStartRequestSha256

/-- The session row of a fence or binding update, as its `WHERE` clause selects it. -/
def startingSession (store : ThreadStore) (id : RuntimeSessionId) (revision : Int) :
    Option RuntimeSessionRow :=
  (store.runtimeSessions.find? id).filter fun session =>
    session.revision == revision && session.state == .starting

/-- The two halves of an update of one `runtime_sessions` row. -/
def updateSession (store : ThreadStore) (id : RuntimeSessionId)
    (change : RuntimeSessionRow → RuntimeSessionRow)
    (changeThread : SessionThreadRow → SessionThreadRow) : Except StoreError ThreadStore := do
  let sessions ← execute (store.runtimeSessions.updateKey id change)
  let threads ← execute (store.sessionThreads.updateKey id changeThread)
  .ok { store with runtimeSessions := sessions, sessionThreads := threads }

/-- The part of the fence after its authority is known. -/
def writeFence (key routingDecisionId : String) (selectedAccountId : AccountId)
    (fence : FenceRuntimeSessionThreadStart) (now : Int) (store : ThreadStore) :
    Except StoreError (FenceRuntimeSessionThreadStartOutcome × ThreadStore) := do
  let revision ← nextRevision fence.expectedRevision
  match startingSession store fence.runtimeSessionId fence.expectedRevision with
  | none => .ok (.rejected .authorityUnavailable, store)
  | some _ => do
    let after ← updateSession store fence.runtimeSessionId
      (fun row =>
        { row with
          threadStartRequestId := some fence.threadStartRequestId
          revision
          updatedAtMicros := now })
      (fun row => { row with fence := some (fenceColumns key routingDecisionId fence) })
    .ok (.fresh (freshFence key routingDecisionId selectedAccountId revision fence), after)

def validateFence (host : Host) (key : String) (fence : FenceRuntimeSessionThreadStart) :
    Except StoreError Unit := do
  validateKey host key
  validateSha fence.threadStartRequestSha256
  if fence.threadStartRequestId ≤ 0 ∨ fence.expectedRevision ≤ 0 ∨
      fence.expectedTurnRevision ≠ 1 ∨ fence.processGenerationRevision ≤ 0 then
    .error (.invalidInput "RuntimeSession thread fence is invalid")
  else .ok ()

/-- A fence of a session that has one already: a replay, or refused. -/
def replayFence (key existingKey : String) (fence : FenceRuntimeSessionThreadStart)
    (store : ThreadStore) :
    Except StoreError (FenceRuntimeSessionThreadStartOutcome × ThreadStore) := do
  let readback ← readThreadFence store fence.runtimeSessionId
  if existingKey = key ∧ fenceMatches readback fence = true then .ok (.replayed readback, store)
  else .ok (.rejected .authorityUnavailable, store)

def fenceRuntimeSessionThreadStart (host : Host) (key : String)
    (fence : FenceRuntimeSessionThreadStart) (now : Int) (store : ThreadStore) :
    Except StoreError (FenceRuntimeSessionThreadStartOutcome × ThreadStore) := do
  validateFence host key fence
  match store.fenceOf fence.runtimeSessionId with
  | some existing => replayFence key existing.fenceKey fence store
  | none =>
    match threadFenceAuthority store fence with
    | none => .ok (.rejected .authorityUnavailable, store)
    | some (routingDecisionId, selectedAccountId) =>
      writeFence key routingDecisionId selectedAccountId fence now store

/-- `binding_matches`. -/
def bindingMatches (readback : RuntimeSessionThreadBindingReadback)
    (binding : BindRuntimeSessionThread) : Bool :=
  readback.conversationId == binding.conversationId &&
    readback.conversationRevision == binding.expectedConversationRevision &&
    readback.turnRevision == binding.expectedTurnRevision &&
    readback.threadStartRequestSha256 == binding.threadStartRequestSha256 &&
    readback.threadStartResponseId == binding.successfulResponse.responseId &&
    readback.threadStartResponseSha256 == binding.successfulResponse.responseSha256 &&
    readback.runtimeSessionId == binding.runtimeSessionId &&
    readback.priorRevision == binding.expectedRevision && readback.turnId == binding.turnId &&
    readback.continuationPlanId == binding.continuationPlanId &&
    readback.fenceIdempotencyKey == binding.fenceIdempotencyKey &&
    readback.threadStartRequestId == binding.threadStartRequestId &&
    readback.codexThreadId == binding.successfulResponse.codexThreadId

/-- `binding_matches_fence`. -/
def bindingMatchesFence (binding : BindRuntimeSessionThread)
    (fence : RuntimeSessionThreadFenceReadback) : Bool :=
  binding.conversationId == fence.conversationId &&
    binding.expectedConversationRevision == fence.conversationRevision &&
    binding.runtimeSessionId == fence.runtimeSessionId &&
    binding.expectedRevision == fence.revision && binding.turnId == fence.turnId &&
    binding.expectedTurnRevision == fence.turnRevision &&
    binding.continuationPlanId == fence.continuationPlanId &&
    binding.fenceIdempotencyKey == fence.fenceIdempotencyKey &&
    binding.threadStartRequestId == fence.threadStartRequestId &&
    binding.threadStartRequestSha256 == fence.threadStartRequestSha256

def freshBinding (key : String) (revision : Int) (fence : RuntimeSessionThreadFenceReadback)
    (binding : BindRuntimeSessionThread) : RuntimeSessionThreadBindingReadback where
  conversationId := binding.conversationId
  conversationRevision := binding.expectedConversationRevision
  runtimeSessionId := binding.runtimeSessionId
  priorRevision := binding.expectedRevision
  revision := revision
  turnId := binding.turnId
  turnRevision := binding.expectedTurnRevision
  fencePriorRevision := fence.priorRevision
  fenceRevision := fence.revision
  continuationPlanId := binding.continuationPlanId
  fenceIdempotencyKey := binding.fenceIdempotencyKey
  bindingIdempotencyKey := key
  threadStartRequestId := binding.threadStartRequestId
  threadStartRequestSha256 := binding.threadStartRequestSha256
  threadStartResponseId := binding.successfulResponse.responseId
  threadStartResponseSha256 := binding.successfulResponse.responseSha256
  codexThreadId := binding.successfulResponse.codexThreadId

/-- The part of the binding after the fence it names was compared. -/
def writeBinding (key : String) (fence : RuntimeSessionThreadFenceReadback)
    (binding : BindRuntimeSessionThread) (now : Int) (store : ThreadStore) :
    Except StoreError (BindRuntimeSessionThreadOutcome × ThreadStore) := do
  let revision ← nextRevision binding.expectedRevision
  match (startingSession store binding.runtimeSessionId binding.expectedRevision).filter fun _ =>
      (store.fenceOf binding.runtimeSessionId).map (·.fenceKey)
        == some binding.fenceIdempotencyKey with
  | none => .ok (.rejected .authorityUnavailable, store)
  | some _ => do
    let after ← updateSession store binding.runtimeSessionId
      (fun row =>
        { row with
          codexThreadId := some binding.successfulResponse.codexThreadId
          state := .active
          threadStartResponseId := some binding.successfulResponse.responseId
          threadStartBindingKey := some key
          revision
          updatedAtMicros := now })
      (fun row => { row with responseSha256 := some binding.successfulResponse.responseSha256 })
    .ok (.applied (freshBinding key revision fence binding), after)

def validateBinding (host : Host) (key : String) (binding : BindRuntimeSessionThread) :
    Except StoreError Unit := do
  validateKey host key
  validateKey host binding.fenceIdempotencyKey
  validateSha binding.threadStartRequestSha256
  validateSha binding.successfulResponse.responseSha256
  let threadId := binding.successfulResponse.codexThreadId
  if binding.successfulResponse.responseId ≠ binding.threadStartRequestId ∨
      threadId.isEmpty = true ∨ maxProviderThreadIdBytes < threadId.utf8ByteSize ∨
      threadId.toList.any (fun c => isControl c || c == '"' || c == '\\') = true then
    .error (.invalidInput "RuntimeSession thread binding is invalid")
  else .ok ()

/-- A binding of a session that has one already: a replay, or refused. -/
def replayBinding (key existingKey : String) (binding : BindRuntimeSessionThread)
    (store : ThreadStore) :
    Except StoreError (BindRuntimeSessionThreadOutcome × ThreadStore) := do
  let readback ← readThreadBinding store binding.runtimeSessionId
  if existingKey = key ∧ bindingMatches readback binding = true then
    .ok (.replayed readback, store)
  else .ok (.rejected .authorityUnavailable, store)

def bindRuntimeSessionThread (host : Host) (key : String) (binding : BindRuntimeSessionThread)
    (now : Int) (store : ThreadStore) :
    Except StoreError (BindRuntimeSessionThreadOutcome × ThreadStore) := do
  validateBinding host key binding
  match store.bindingKeyOf binding.runtimeSessionId with
  | some existingKey => replayBinding key existingKey binding store
  | none => do
    let fence ← readThreadFence store binding.runtimeSessionId
    if bindingMatchesFence binding fence = false then
      .ok (.rejected .authorityUnavailable, store)
    else writeBinding key fence binding now store

/-- `MIN` of a text column. -/
def minText : List String → Option String
  | [] => none
  | first :: rest => some (rest.foldl (fun least key => if key < least then key else least) first)

/-- The receipts that admitted exactly these coordinates. -/
def admissionEvidence (host : Host) (store : ThreadStore)
    (request : ReconcileConversationThreadEstablishment) : Option String :=
  minText <| (store.runtimeCommandReceipts.rows.filter fun receipt =>
    receipt.operation == "prepare_quick_task_process_generation" &&
      receipt.entityId == request.processGenerationId.text &&
      receipt.requestSha256 == processAdmissionSha host request).map (·.idempotencyKey)

/-- What the generation row, or its absence with an admission receipt, proves. -/
def readNonEffect (host : Host) (store : ThreadStore)
    (request : ReconcileConversationThreadEstablishment) :
    ConversationThreadEstablishmentReadback :=
  match store.processGenerations.find? request.processGenerationId with
  | some row =>
    match row.generation.state, row.generation.deathEvidenceId with
    | .dead, some evidenceId =>
      .definitelyNotStarted ⟨some row.generation.revision, .processDead, evidenceId.text⟩
    | _, _ => .unknown
  | none =>
    match admissionEvidence host store request with
    | some evidenceId => .definitelyNotStarted ⟨none, .admissionRejected, evidenceId⟩
    | none => .unknown

def reconcileConversationThreadEstablishment (host : Host)
    (request : ReconcileConversationThreadEstablishment) (store : ThreadStore) :
    Except StoreError ConversationThreadEstablishmentReadback :=
  match store.fenceOf request.runtimeSessionId, store.bindingKeyOf request.runtimeSessionId with
  | some _, some _ => do
    let binding ← readThreadBinding store request.runtimeSessionId
    .ok (.bound binding)
  | some _, none => do
    let fence ← readThreadFence store request.runtimeSessionId
    .ok (.fenced fence)
  | none, _ => .ok (readNonEffect host store request)

end Decodex.Source.Store.ThreadStarts
