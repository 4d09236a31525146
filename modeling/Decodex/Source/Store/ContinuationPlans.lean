import Decodex.Source.Store.Conversations
import Decodex.Source.Store.ThreadStarts

/-!
# Continuation plans

Source: database/src/continuations.rs:20-151 (requests, effects, authorities), 153-321 (the two
commands), 323-939 (statements, readers, `persist_context_pack`), 1112-1131 (digests);
decodex-core/src/continuation.rs:12-140 (plan values). The label, profile and credential
columns that a new session copies are left out: nothing here reads them. The generated
identities are the parameter `fresh`; `fallback_runtime_session_id` is held parsed.
-/
namespace Decodex.Source.Store.ContinuationPlans

open Decodex.Library
open Decodex.Source.Core
open Decodex.Source.Core.ContextPacks (ContextPack PossibleSideEffects)
open Decodex.Source.Store.ContextPackRows
open Decodex.Source.Store.Conversations (bindFallbackTurn)
open Decodex.Source.Store.ProviderAttempts (generationProvedDead latestAttempt)
open Decodex.Source.Store.ThreadStarts

structure PlanContinuation where
  operationId : String
  routingDecisionId : String
  expectedConsumerRevision : Int
  planId : String
  fallbackRuntimeSessionId : RuntimeSessionId
  fallbackAccountSnapshotId : String
  fallbackContextPackId : String
  deriving DecidableEq

structure PlanInitialThreadContinuation where
  operationId : String
  routingDecisionId : String
  expectedConversationRevision : Int
  planId : String
  deriving DecidableEq

/-- The identities one command generates. -/
structure GeneratedIdentities where
  runtimeSessionId : RuntimeSessionId
  accountSnapshotId : String
  profileSnapshotId : String
  deriving DecidableEq

/-- `serde_json` and the blob store. -/
structure PackHost where
  toJson : List PersistedContextSourceManifest → Option String
  fromJson : String → Option (List PersistedContextSourceManifest)
  digest : List UInt8 → BlobHash
  putBlob : List UInt8 → Option BlobHash
  readBlob : BlobHash → Option (List UInt8)

/-- `ExecutionConsumer::ConversationTurn`. -/
structure ExecutionConsumer where
  conversationId : ConversationId
  conversationRevision : Int
  sourceRuntimeSessionId : Option RuntimeSessionId
  sourceRuntimeSessionRevision : Option Int
  turnId : TurnId
  deriving DecidableEq

/-- `SameThreadContinuationEvidence::ProviderAttempt`. -/
structure SameThreadContinuationEvidence where
  attemptId : ProviderAttemptId
  attemptRevision : Int
  evidenceId : ProviderEvidenceId
  deriving DecidableEq

structure ContinuationPlan where
  planId : String
  operationId : String
  routingDecisionId : String
  consumer : ExecutionConsumer
  conversationId : ConversationId
  sourceRuntimeSessionId : RuntimeSessionId
  sourceRuntimeSessionRevision : Int
  selectedAccountId : AccountId
  kind : ContinuationKind
  codexThreadId : Option String
  fallbackContextPackId : Option String
  fallbackRuntimeSessionId : Option RuntimeSessionId
  sameThreadEvidence : Option SameThreadContinuationEvidence
  replayPermitted : Bool
  dispatchEnabled : Bool
  plannedAtMicros : Int
  deriving DecidableEq

structure ContinuationPlanEffect where
  plan : ContinuationPlan
  runtimeSession : Option RuntimeSessionRow
  fallbackContextPack : Option ContextPack
  uncertainPredecessorAttemptId : Option ProviderAttemptId
  deriving DecidableEq

inductive ContinuationRejection where
  | missingDecision | sameThreadUnavailable | staleConsumerRevision
  deriving DecidableEq, Repr

inductive ContinuationCommandOutcome where
  | success (effect : ContinuationPlanEffect)
  | rejected (rejection : ContinuationRejection)
  deriving DecidableEq

/-- `read_plan_kind`: the evidence of a same-thread plan. -/
def readPlanKind (store : ThreadStore) (plan : ContinuationPlanRow) :
    Except StoreError (Option SameThreadContinuationEvidence) :=
  match plan.kind with
  | .initialThread | .contextPackFallback => .ok none
  | .sameThread => do
    let attemptId ← someOrIncompatible "same-thread attempt"
      (plan.sameThreadAttemptId.bind CanonicalUuidV4.parse?)
    let evidenceId ← someOrIncompatible "same-thread evidence"
      (plan.sameThreadEvidenceId.bind CanonicalUuidV4.parse?)
    let attempt ← execute (store.providerAttempts.find? attemptId)
    .ok (some ⟨attemptId, attempt.revision, evidenceId⟩)

/-- The Context Pack of a fallback plan, read through the blob store. -/
def readFallbackPack (packs : Option PackHost) (store : ThreadStore) (plan : ContinuationPlanRow) :
    Except StoreError (Option ContextPack) :=
  if plan.kind ≠ .contextPackFallback then .ok none
  else do
    let packId ← someOrIncompatible "fallback Context Pack identity" plan.fallbackContextPackId
    let host ← someOrIncompatible "fallback Context Pack blob owner" packs
    let stored ← execute (store.contextPacks.find? packId)
    let pack ← readContextPack host.digest host.fromJson host.readBlob plan.conversationId
      stored.pack
    .ok (some pack)

/-- The latest attempt of a fallback's source, when its outcome is unknown. -/
def uncertainPredecessor (store : ThreadStore) (plan : ContinuationPlanRow) :
    Option ProviderAttemptId :=
  if plan.kind = .contextPackFallback then
    ((latestAttempt store.toSqliteStore plan.sourceRuntimeSessionId).filter fun attempt =>
      attempt.state == .unknown).map (·.attemptId)
  else none

/-- The session a plan starts, when it starts one. -/
def readPlanSession (store : ThreadStore) (plan : ContinuationPlanRow) :
    Except StoreError (Option RuntimeSessionRow) :=
  match plan.runtimeSessionId with
  | none => .ok none
  | some id => do
    let session ← execute (store.runtimeSessions.find? id)
    .ok (some session)

/-- `read_plan_effect`. -/
def readPlanEffect (packs : Option PackHost) (store : ThreadStore) (planId : String) :
    Except StoreError ContinuationPlanEffect := do
  let plan ← execute (store.continuationPlans.find? planId)
  let command ← execute (store.planCommands.find? planId)
  let decision ← execute (store.decisions.find? plan.routingDecisionId)
  let evidence ← readPlanKind store plan
  let session ← readPlanSession store plan
  let pack ← readFallbackPack packs store plan
  let named := plan.kind != .initialThread
  .ok
    { plan :=
        { planId := planId
          operationId := command.operationId
          routingDecisionId := plan.routingDecisionId
          consumer :=
            { conversationId := plan.conversationId
              conversationRevision := decision.conversationRevision
              sourceRuntimeSessionId :=
                if named then some plan.sourceRuntimeSessionId else none
              sourceRuntimeSessionRevision :=
                if named then some plan.sourceRuntimeSessionRevision else none
              turnId := plan.turnId }
          conversationId := plan.conversationId
          sourceRuntimeSessionId := plan.sourceRuntimeSessionId
          sourceRuntimeSessionRevision := plan.sourceRuntimeSessionRevision
          selectedAccountId := plan.selectedAccountId
          kind := plan.kind
          codexThreadId := plan.codexThreadId
          fallbackContextPackId := plan.fallbackContextPackId
          fallbackRuntimeSessionId :=
            if plan.kind = .contextPackFallback then session.map (·.runtimeSessionId) else none
          sameThreadEvidence := evidence
          replayPermitted := false
          dispatchEnabled := false
          plannedAtMicros := command.createdAtMicros }
      runtimeSession := session
      fallbackContextPack := pack
      uncertainPredecessorAttemptId := uncertainPredecessor store plan }

/-- The command row an idempotency key names. -/
def findPlanCommand (store : ThreadStore) (key : String) : Option PlanCommandRow :=
  store.planCommands.rows.find? fun row => row.idempotencyKey == key

/-- A session no fence has reached. -/
def startingSessionRow (id : RuntimeSessionId) (conversationId : ConversationId)
    (accountId : AccountId) (accountRevision now : Int) : RuntimeSessionRow where
  runtimeSessionId := id
  conversationId := conversationId
  accountId := accountId
  accountRevision := accountRevision
  codexThreadId := none
  state := .starting
  lastKnownTurnId := none
  threadStartRequestId := none
  threadStartResponseId := none
  threadStartBindingKey := none
  hasAcknowledgedTurn := false
  revision := 1
  createdAtMicros := now
  updatedAtMicros := now
  endedAtMicros := none

def insertSession (store : ThreadStore) (row : RuntimeSessionRow)
    (accountSnapshotId profileSnapshotId : String) : Except StoreError ThreadStore := do
  let sessions ← execute (store.runtimeSessions.insert row)
  let threads ← execute <| store.sessionThreads.insert
    ⟨row.runtimeSessionId, accountSnapshotId, profileSnapshotId, none, none⟩
  .ok { store with runtimeSessions := sessions, sessionThreads := threads }

def insertPlan (store : ThreadStore) (plan : ContinuationPlanRow)
    (operationId key requestSha256 : String) (now : Int) : Except StoreError ThreadStore := do
  let plans ← execute (store.continuationPlans.insert plan)
  let commands ← execute <| store.planCommands.insert
    ⟨plan.continuationPlanId, operationId, key, requestSha256, now⟩
  .ok { store with continuationPlans := plans, planCommands := commands }

/-- `initial_request_sha`. -/
def initialRequestSha (host : Host) (request : PlanInitialThreadContinuation) : String :=
  host.digest [request.operationId, request.routingDecisionId,
    toString request.expectedConversationRevision, request.planId]

structure InitialContinuationAuthority where
  conversationId : ConversationId
  turnId : TurnId
  accountId : AccountId
  accountRevision : Int
  deriving DecidableEq

/-- `read_initial_continuation_authority`. -/
def readInitialContinuationAuthority (store : ThreadStore)
    (request : PlanInitialThreadContinuation) : Option InitialContinuationAuthority := do
  let decision ← store.decisions.find? request.routingDecisionId
  let conversation ← store.conversations.find? decision.conversationId
  let selected ← decision.account
  let account ← store.accounts.find? selected.1
  guard (store.taskProfile = true)
  guard (decision.authorityShape = .conversationAccountRegistry ∧
    decision.decisionKind = .selected ∧ conversation.state = .active)
  guard (conversation.revision = request.expectedConversationRevision ∧
    decision.conversationRevision = request.expectedConversationRevision ∧
    selected.2 = account.revision)
  some ⟨decision.conversationId, decision.turnId, selected.1, selected.2⟩

def initialPlan (request : PlanInitialThreadContinuation) (id : RuntimeSessionId)
    (authority : InitialContinuationAuthority) : ContinuationPlanRow where
  continuationPlanId := request.planId
  conversationId := authority.conversationId
  turnId := authority.turnId
  routingDecisionId := request.routingDecisionId
  sourceRuntimeSessionId := id
  sourceRuntimeSessionRevision := 1
  selectedAccountId := authority.accountId
  runtimeSessionId := some id
  kind := .initialThread
  codexThreadId := none
  fallbackContextPackId := none
  sameThreadAttemptId := none
  sameThreadEvidenceId := none

/-- The writes of `plan_initial_thread_continuation`; the credential binding is copied from
the account's credential row, which must be there. -/
def writeInitialPlan (fresh : GeneratedIdentities) (key requestSha256 : String)
    (request : PlanInitialThreadContinuation) (authority : InitialContinuationAuthority)
    (now : Int) (store : ThreadStore) : Except StoreError ThreadStore := do
  let _ ← execute (store.accountCredentials.find? authority.accountId)
  let opened ← insertSession store
    (startingSessionRow fresh.runtimeSessionId authority.conversationId authority.accountId
      authority.accountRevision now) fresh.accountSnapshotId fresh.profileSnapshotId
  insertPlan opened (initialPlan request fresh.runtimeSessionId authority) request.operationId key
    requestSha256 now

def planInitialThreadContinuation (host : Host) (fresh : GeneratedIdentities) (key : String)
    (request : PlanInitialThreadContinuation) (now : Int) (store : ThreadStore) :
    Except StoreError (ContinuationCommandOutcome × ThreadStore) := do
  validateKey host key
  if request.expectedConversationRevision ≤ 0 then
    .error (.invalidInput "Conversation revision must be positive")
  else
    match findPlanCommand store key with
    | some stored =>
      if stored.requestSha256 ≠ initialRequestSha host request then .error .idempotencyConflict
      else do
        let effect ← readPlanEffect none store stored.continuationPlanId
        .ok (.success effect, store)
    | none =>
      match readInitialContinuationAuthority store request with
      | none => .ok (.rejected .missingDecision, store)
      | some authority => do
        let after ← writeInitialPlan fresh key (initialRequestSha host request) request authority
          now store
        let effect ← readPlanEffect none after request.planId
        .ok (.success effect, after)

/-- `continuation_request_sha`. -/
def continuationRequestSha (host : Host) (request : PlanContinuation) : String :=
  host.digest [request.operationId, request.routingDecisionId,
    toString request.expectedConsumerRevision, request.planId,
    request.fallbackRuntimeSessionId.text, request.fallbackAccountSnapshotId,
    request.fallbackContextPackId]

structure ExistingContinuationAuthority where
  conversationId : ConversationId
  turnId : TurnId
  sourceRuntimeSessionId : RuntimeSessionId
  sourceRuntimeSessionRevision : Int
  accountId : AccountId
  codexThreadId : String
  accountRevision : Int
  hasAcknowledgedTurn : Bool
  latestAttemptId : Option ProviderAttemptId
  latestAttemptState : Option ProviderAttemptState
  latestEvidenceId : Option ProviderEvidenceId
  latestEvidenceThreadId : Option String
  latestUnknownIsRecoverable : Bool
  deriving DecidableEq

/-- The evidence an attempt's terminal state names. -/
def terminalEvidence (store : ThreadStore) (attempt : ProviderAttempt) :
    Option ProviderPositiveEvidence :=
  ((attempt.terminalEvidenceId.bind store.positiveEvidence.find?).filter fun row =>
    row.evidence.attemptId == attempt.attemptId).map (·.evidence)

/-- An unknown attempt on a failed turn whose process is proved dead. -/
def unknownIsRecoverable (store : ThreadStore) (attempt : ProviderAttempt) : Bool :=
  attempt.state == .unknown &&
    ((store.turns.find? attempt.consumer.turnId).any fun turn => turn.status == .failed) &&
    generationProvedDead store.toSqliteStore attempt.processGenerationId

/-- The turn of the decision is active, at its first revision, on the source session. -/
def currentTurnHolds (store : ThreadStore) (decision : RoutingDecisionRow)
    (session : RuntimeSessionRow) : Bool :=
  (store.turns.find? decision.turnId).any fun turn =>
    turn.conversationId == decision.conversationId &&
      turn.runtimeSessionId == some session.runtimeSessionId && turn.status == .active &&
      turn.revision == 1

/-- `read_continuation_authority`. -/
def readContinuationAuthority (store : ThreadStore) (request : PlanContinuation) :
    Option ExistingContinuationAuthority := do
  let decision ← store.decisions.find? request.routingDecisionId
  let source ← decision.source
  let session ← store.runtimeSessions.find? source.runtimeSessionId
  let thread ← store.sessionThreads.find? source.runtimeSessionId
  let codexThreadId ← session.codexThreadId
  let selected ← decision.account
  guard (decision.authorityShape = .conversationContinuation ∧
    decision.conversationRevision = request.expectedConsumerRevision ∧
    decision.decisionKind = .selected)
  guard (session.state = .active ∧ session.revision = source.runtimeSessionRevision ∧
    selected.1 = session.accountId)
  guard (source.accountSnapshotId = request.fallbackAccountSnapshotId ∧
    source.accountSnapshotId = thread.accountSnapshotId ∧
    source.profileSnapshotId = thread.profileSnapshotId)
  guard (currentTurnHolds store decision session = true)
  let latest := latestAttempt store.toSqliteStore session.runtimeSessionId
  let evidence := latest.bind (terminalEvidence store)
  some
    { conversationId := decision.conversationId
      turnId := decision.turnId
      sourceRuntimeSessionId := source.runtimeSessionId
      sourceRuntimeSessionRevision := source.runtimeSessionRevision
      accountId := selected.1
      codexThreadId := codexThreadId
      accountRevision := session.accountRevision
      hasAcknowledgedTurn := session.hasAcknowledgedTurn
      latestAttemptId := latest.map (·.attemptId)
      latestAttemptState := latest.map (·.state)
      latestEvidenceId := evidence.map (·.evidenceId)
      latestEvidenceThreadId := evidence.bind (·.providerThreadId)
      latestUnknownIsRecoverable := latest.any (unknownIsRecoverable store) }

/-- `has_same_thread_evidence`. -/
def hasSameThreadEvidence (authority : ExistingContinuationAuthority) : Bool :=
  (authority.latestAttemptState == some .succeeded ||
      authority.latestAttemptState == some .failedDefinitive) &&
    authority.latestEvidenceThreadId == some authority.codexThreadId &&
    authority.latestAttemptId.isSome && authority.latestEvidenceId.isSome

/-- `can_plan_context_fallback`; every session has the profile role `task`. -/
def canPlanContextFallback (authority : ExistingContinuationAuthority)
    (fallbackPack : ContextPack) : Bool :=
  let fallbackAllowed := authority.hasAcknowledgedTurn &&
    match authority.latestAttemptState with
    | some .unknown => authority.latestUnknownIsRecoverable
    | some .notSubmitted | some .canceled => true
    | _ => false
  fallbackAllowed && fallbackPack.conversationId == authority.conversationId &&
    fallbackPack.possibleSideEffects == PossibleSideEffects.unknown

/-- The row of `insert_same_thread_plan`. -/
def sameThreadPlan (request : PlanContinuation) (authority : ExistingContinuationAuthority) :
    ContinuationPlanRow where
  continuationPlanId := request.planId
  conversationId := authority.conversationId
  turnId := authority.turnId
  routingDecisionId := request.routingDecisionId
  sourceRuntimeSessionId := authority.sourceRuntimeSessionId
  sourceRuntimeSessionRevision := authority.sourceRuntimeSessionRevision
  selectedAccountId := authority.accountId
  runtimeSessionId := none
  kind := .sameThread
  codexThreadId := some authority.codexThreadId
  fallbackContextPackId := none
  sameThreadAttemptId := authority.latestAttemptId.map (·.text)
  sameThreadEvidenceId := authority.latestEvidenceId.map (·.text)

/-- The row of `insert_fallback_plan`. -/
def fallbackPlan (request : PlanContinuation) (authority : ExistingContinuationAuthority) :
    ContinuationPlanRow where
  continuationPlanId := request.planId
  conversationId := authority.conversationId
  turnId := authority.turnId
  routingDecisionId := request.routingDecisionId
  sourceRuntimeSessionId := authority.sourceRuntimeSessionId
  sourceRuntimeSessionRevision := authority.sourceRuntimeSessionRevision
  selectedAccountId := authority.accountId
  runtimeSessionId := some request.fallbackRuntimeSessionId
  kind := .contextPackFallback
  codexThreadId := none
  fallbackContextPackId := some request.fallbackContextPackId
  sameThreadAttemptId := none
  sameThreadEvidenceId := none

/-- `i64::try_from` of a size. -/
def fitsI64 (reason : String) (size : Nat) : Except StoreError Unit :=
  if (size : Int) ≤ i64Max then .ok () else .error (.invalidInput reason)

/-- `persist_context_pack`. -/
def persistContextPack (contextPackId : String) (pack : ContextPack) (manifestJson : String)
    (now : Int) (store : ThreadStore) : Except StoreError ThreadStore := do
  fitsI64 "Context Pack policy is too large" pack.policy.maxBytes
  fitsI64 "Context Pack policy is too large" pack.policy.recentItemLimit
  let stored ← execute <| store.contextPacks.insert
    ⟨contextPackId, contextPackRow pack manifestJson, now⟩
  .ok { store with contextPacks := stored }

/-- `end_fallback_source`: the number of sessions it ended. -/
def endFallbackSource (authority : ExistingContinuationAuthority) (now : Int)
    (store : ThreadStore) : Except StoreError (Nat × ThreadStore) :=
  match (store.runtimeSessions.find? authority.sourceRuntimeSessionId).filter fun session =>
      session.revision == authority.sourceRuntimeSessionRevision && session.state == .active with
  | none => .ok (0, store)
  | some _ => do
    let sessions ← execute <| store.runtimeSessions.updateKey authority.sourceRuntimeSessionId
      fun row =>
        { row with
          state := .ended
          revision := row.revision + 1
          updatedAtMicros := now
          endedAtMicros := some now }
    .ok (1, { store with runtimeSessions := sessions })

/-- The fallback half of `plan_continuation`; `none` when an update changed no row, and then
the transaction is dropped. -/
def writeFallback (fresh : GeneratedIdentities) (key requestSha256 : String)
    (request : PlanContinuation) (authority : ExistingContinuationAuthority) (pack : ContextPack)
    (manifestJson : String) (now : Int) (store : ThreadStore) :
    Except StoreError (Option ThreadStore) := do
  let packed ← persistContextPack request.fallbackContextPackId pack manifestJson now store
  let ended ← endFallbackSource authority now packed
  if ended.1 ≠ 1 then .ok none
  else do
    let opened ← insertSession ended.2
      (startingSessionRow request.fallbackRuntimeSessionId authority.conversationId
        authority.accountId authority.accountRevision now)
      fresh.accountSnapshotId fresh.profileSnapshotId
    let bound ← bindFallbackTurn authority.turnId authority.conversationId
      authority.sourceRuntimeSessionId request.fallbackRuntimeSessionId now opened.toSqliteStore
    if bound.1 ≠ 1 then .ok none
    else do
      let planned ← insertPlan { opened with toSqliteStore := bound.2 }
        (fallbackPlan request authority) request.operationId key requestSha256 now
      .ok (some planned)

/-- The writes of `plan_continuation` once its authority is read. -/
def writeContinuation (fresh : GeneratedIdentities) (key requestSha256 : String)
    (request : PlanContinuation) (authority : ExistingContinuationAuthority) (pack : ContextPack)
    (manifestJson : String) (now : Int) (store : ThreadStore) :
    Except StoreError (Except ContinuationRejection ThreadStore) :=
  if hasSameThreadEvidence authority then do
    let planned ← insertPlan store (sameThreadPlan request authority) request.operationId key
      requestSha256 now
    .ok (.ok planned)
  else if canPlanContextFallback authority pack = false then .ok (.error .sameThreadUnavailable)
  else do
    let written ← writeFallback fresh key requestSha256 request authority pack manifestJson now
      store
    match written with
    | none => .ok (.error .staleConsumerRevision)
    | some after => .ok (.ok after)

/-- What precedes the transaction: the pack is verified and stored, its manifest written. -/
def storeFallbackPack (packs : PackHost) (fallbackPack : ContextPack) :
    Except StoreError String := do
  (fallbackPack.verify packs.digest).mapError fun _ =>
    .invalidInput "fallback Context Pack is invalid"
  match packs.putBlob fallbackPack.bytes with
  | none => .error .blob
  | some compiledDigest =>
    if compiledDigest ≠ fallbackPack.digest then
      .error (.incompatible "Context Pack blob digest differs")
    else do
      let manifestJson ← serializeContextManifest packs.toJson fallbackPack
      fitsI64 "fallback Context Pack is too large" fallbackPack.bytes.length
      fitsI64 "fallback Context Pack manifest is too large" fallbackPack.omittedSourceCount
      .ok manifestJson

/-- A replayed fallback plan holds the pack of the first call. -/
def replayedPackMatches (effect : ContinuationPlanEffect) (fallbackPack : ContextPack) : Bool :=
  effect.plan.kind != .contextPackFallback ||
    effect.fallbackContextPack.any fun pack => pack.digest == fallbackPack.digest

/-- `read_plan_replay`. -/
def readPlanReplay (packs : PackHost) (store : ThreadStore) (key requestSha256 : String)
    (fallbackPack : ContextPack) : Except StoreError (Option ContinuationPlanEffect) :=
  match findPlanCommand store key with
  | none => .ok none
  | some stored =>
    if stored.requestSha256 ≠ requestSha256 then .error .idempotencyConflict
    else do
      let effect ← readPlanEffect (some packs) store stored.continuationPlanId
      if replayedPackMatches effect fallbackPack then .ok (some effect)
      else .error .idempotencyConflict

/-- The part of `plan_continuation` for a key that has no plan. -/
def planFreshContinuation (packs : PackHost) (fresh : GeneratedIdentities)
    (key requestSha256 : String) (request : PlanContinuation) (fallbackPack : ContextPack)
    (manifestJson : String) (now : Int) (store : ThreadStore) :
    Except StoreError (ContinuationCommandOutcome × ThreadStore) :=
  match readContinuationAuthority store request with
  | none => .ok (.rejected .sameThreadUnavailable, store)
  | some authority => do
    let written ← writeContinuation fresh key requestSha256 request authority fallbackPack
      manifestJson now store
    match written with
    | .error rejection => .ok (.rejected rejection, store)
    | .ok after => do
      let effect ← readPlanEffect (some packs) after request.planId
      .ok (.success effect, after)

def planContinuation (host : Host) (packs : PackHost) (fresh : GeneratedIdentities) (key : String)
    (request : PlanContinuation) (fallbackPack : ContextPack) (now : Int) (store : ThreadStore) :
    Except StoreError (ContinuationCommandOutcome × ThreadStore) := do
  validateKey host key
  if request.expectedConsumerRevision ≤ 0 then
    .error (.invalidInput "execution consumer revision must be positive")
  else do
    let manifestJson ← storeFallbackPack packs fallbackPack
    let requestSha256 := continuationRequestSha host request
    let replay ← readPlanReplay packs store key requestSha256 fallbackPack
    match replay with
    | some effect => .ok (.success effect, store)
    | none =>
      planFreshContinuation packs fresh key requestSha256 request fallbackPack manifestJson now
        store

end Decodex.Source.Store.ContinuationPlans
