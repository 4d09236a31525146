import Decodex.Source.Store.ConversationStatements

/-!
# Provider attempts

Source: database/src/provider_attempts.rs:49-486 (operations), 546-586
(`provider_attempt_terminal_evidence_matches`), 569-634 (`transition_attempt`), 636-672
(outcomes), 674-788 (replay, fence, authority join), 868-1002 (evidence match, duplicate
risk), 1028-1054 (readbacks). An operation that returns without committing leaves the
store as it was; `now` is the clock reading of the call. Row parsing is left out: rows are
held parsed.
-/
namespace Decodex.Source.Store.ProviderAttempts

open Decodex.Library
open Decodex.Source.Core

inductive ProviderAttemptRejection where
  | identityConflict | authorityUnavailable | attemptMissing | staleAttempt | evidenceConflict
  | invalidEvidence | evidenceMismatch
  deriving DecidableEq, Repr

structure ProviderAttemptMutation where
  revision : Int
  state : ProviderAttemptState
  recordedAtMicros : Int
  deriving DecidableEq, Repr

structure ConversationTurnFence where
  conversationId : ConversationId
  conversationRevision : Int
  turnId : TurnId
  turnRevision : Int
  deriving DecidableEq

/-- The token of a fresh preparation; only `prepare_provider_attempt` builds one. -/
structure FreshPreparedProviderAttempt where
  attemptId : ProviderAttemptId
  revision : Int
  preparedAtMicros : Int
  conversationTurnFence : Option ConversationTurnFence
  deriving DecidableEq

structure FreshProviderDispatchFence where
  attemptId : ProviderAttemptId
  attemptRevision : Int
  processGenerationId : ProcessGenerationId
  processGenerationRevision : Int
  authorizedAtMicros : Int
  deriving DecidableEq

inductive PrepareProviderAttemptOutcome where
  | fresh (token : FreshPreparedProviderAttempt)
  | replayed (actual : ProviderAttemptMutation)
  | rejected (rejection : ProviderAttemptRejection) (actual : ProviderAttemptMutation)
  deriving DecidableEq

inductive AuthorizeProviderDispatchOutcome where
  | fresh (fence : FreshProviderDispatchFence)
  | replayed (actual : ProviderAttemptMutation)
  | rejected (rejection : ProviderAttemptRejection) (actual : ProviderAttemptMutation)
  deriving DecidableEq

inductive ProviderAttemptMutationOutcome where
  | applied (mutation : ProviderAttemptMutation)
  | replayed (actual : ProviderAttemptMutation)
  | rejected (rejection : ProviderAttemptRejection) (actual : ProviderAttemptMutation)
  deriving DecidableEq

def mutation (attempt : ProviderAttempt) : ProviderAttemptMutation :=
  ⟨attempt.revision, attempt.state, attempt.updatedAtMicros⟩

def emptyMutation : ProviderAttemptMutation := ⟨0, .prepared, 0⟩

def replayedPreparation (existing : ProviderAttempt) (preparation : ProviderAttemptPreparation)
    (processGenerationId : ProcessGenerationId) : PrepareProviderAttemptOutcome :=
  if existing.consumer = preparation.consumer ∧
      existing.continuationPlanId = preparation.continuationPlanId ∧
      existing.processGenerationId = processGenerationId ∧
      existing.requestId = preparation.requestId ∧
      existing.requestDigest = preparation.requestDigest ∧
      existing.providerKeys = preparation.providerKeys ∧
      existing.duplicateRisk = preparation.duplicateRisk then
    .replayed (mutation existing)
  else .rejected .identityConflict (mutation existing)

def preparationTurnFence (preparation : ProviderAttemptPreparation)
    (expected : Option Int × Option Int) : Except StoreError ConversationTurnFence :=
  match expected with
  | (none, _) =>
    .error (.invalidInput "Conversation ProviderAttempt requires a Conversation revision")
  | (some _, none) =>
    .error (.invalidInput "Conversation ProviderAttempt requires a Turn revision")
  | (some conversationRevision, some turnRevision) =>
    if conversationRevision ≤ 0 ∨ turnRevision ≠ 1 then
      .error (.invalidInput "Conversation ProviderAttempt revision is invalid")
    else
      .ok ⟨preparation.consumer.conversationId, conversationRevision,
        preparation.consumer.turnId, turnRevision⟩

structure PreparedAttemptAuthority where
  routingDecisionId : String
  runtimeSessionId : RuntimeSessionId
  runtimeSessionRevision : Int
  accountId : AccountId
  planKind : ContinuationKind
  sourceRuntimeSessionId : RuntimeSessionId
  deriving DecidableEq

/-- `COALESCE(p.runtime_session_id, p.source_runtime_session_id)`. -/
def executionSessionId (plan : ContinuationPlanRow) : RuntimeSessionId :=
  plan.runtimeSessionId.getD plan.sourceRuntimeSessionId

/-- The session conditions of one plan kind. -/
def planSessionsMatch (plan : ContinuationPlanRow) (source execution : RuntimeSessionRow) : Bool :=
  match plan.kind with
  | .initialThread | .sameThread =>
    execution.runtimeSessionId == source.runtimeSessionId && source.state == .active
  | .contextPackFallback =>
    plan.runtimeSessionId == some execution.runtimeSessionId && execution.state == .active &&
      source.state == .ended && source.revision == plan.sourceRuntimeSessionRevision + 1

/-- `read_prepared_attempt_authority`; every joined row is named by its primary key. -/
def readPreparedAttemptAuthority (store : SqliteStore) (preparation : ProviderAttemptPreparation)
    (processGenerationId : ProcessGenerationId) (processGenerationRevision : Int)
    (processExecutionEpochId : ProcessExecutionEpochId) (bindingKey : Option String)
    (fence : ConversationTurnFence) : Option PreparedAttemptAuthority := do
  let plan ← store.continuationPlans.find? preparation.continuationPlanId
  let source ← store.runtimeSessions.find? plan.sourceRuntimeSessionId
  let execution ← store.runtimeSessions.find? (executionSessionId plan)
  let conversation ← store.conversations.find? plan.conversationId
  let turn ← store.turns.find? plan.turnId
  let process ← store.processGenerations.find? processGenerationId
  guard (plan.routingDecisionId ∈ store.routingDecisions)
  guard (plan.conversationId = fence.conversationId ∧ plan.turnId = fence.turnId)
  guard (conversation.revision = fence.conversationRevision ∧ conversation.state = .active)
  guard (turn.revision = fence.turnRevision ∧ turn.status = .active ∧
    turn.runtimeSessionId = some execution.runtimeSessionId)
  guard (process.generation.revision = processGenerationRevision ∧
    process.generation.state = .ready ∧
    process.generation.executionEpochId = processExecutionEpochId ∧
    process.generation.accountId = plan.selectedAccountId ∧
    process.runtimeSessionId = some execution.runtimeSessionId)
  guard (bindingKey = none ∨ execution.threadStartBindingKey = bindingKey)
  guard (planSessionsMatch plan source execution = true)
  some
    { routingDecisionId := plan.routingDecisionId
      runtimeSessionId := execution.runtimeSessionId
      runtimeSessionRevision := execution.revision
      accountId := plan.selectedAccountId
      planKind := plan.kind
      sourceRuntimeSessionId := plan.sourceRuntimeSessionId }

/-- `ORDER BY created_at_micros DESC, attempt_id DESC`: whether `a` comes before `b`. -/
def laterAttempt (a b : ProviderAttempt) : Bool :=
  b.createdAtMicros < a.createdAtMicros ||
    (a.createdAtMicros == b.createdAtMicros && b.attemptId.text < a.attemptId.text)

/-- The first attempt of a session in that order. -/
def latestAttempt (store : SqliteStore) (sessionId : RuntimeSessionId) : Option ProviderAttempt :=
  (store.providerAttempts.rows.filter fun row => row.runtimeSessionId == sessionId).foldl
    (fun latest row =>
      match latest with
      | none => some row
      | some best => if laterAttempt row best then some row else some best) none

/-- The generation is dead and its own evidence row says so. -/
def generationProvedDead (store : SqliteStore) (id : ProcessGenerationId) : Bool :=
  match store.processGenerations.find? id with
  | none => false
  | some row =>
    row.generation.state == .dead && store.deathEvidence.rows.any fun death =>
      death.evidence.generationId == id &&
        row.generation.deathEvidenceId == some death.evidence.evidenceId

/-- The predecessor an acknowledged successor names is the latest, unknown attempt of the
source session, on a failed turn whose process is proved dead. -/
def predecessorMatches (store : SqliteStore) (predecessorId : ProviderAttemptId)
    (conversationId : ConversationId) (sourceSessionId : RuntimeSessionId) (turnId : TurnId) :
    Bool :=
  match store.providerAttempts.find? predecessorId with
  | none => false
  | some predecessor =>
    predecessor.consumer.conversationId == conversationId &&
      predecessor.runtimeSessionId == sourceSessionId &&
      predecessor.consumer.turnId != turnId && predecessor.state == .unknown &&
      ((store.turns.find? predecessor.consumer.turnId).any fun turn => turn.status == .failed) &&
      generationProvedDead store predecessor.processGenerationId &&
      (latestAttempt store sourceSessionId).map (·.attemptId) == some predecessor.attemptId

def duplicateRiskMatchesPlan (host : Host) (store : SqliteStore) (risk : ProviderDuplicateRisk)
    (conversationId : ConversationId) (turnId : TurnId) (planKind : ContinuationKind)
    (sourceSessionId : RuntimeSessionId) (continuationPlanId : String) : Bool :=
  if planKind ≠ .contextPackFallback then risk == .originalIntent
  else
    match risk with
    | .originalIntent =>
      !store.providerAttempts.rows.any fun row =>
        row.runtimeSessionId == sourceSessionId && row.state == .unknown
    | .acknowledgedSuccessor predecessorId acknowledgementDigest =>
      acknowledgementDigest == host.digest
          ["silent-recovery-successor", predecessorId.text, turnId.text, continuationPlanId] &&
        predecessorMatches store predecessorId conversationId sourceSessionId turnId

/-- The inserted row. -/
def preparedAttempt (preparation : ProviderAttemptPreparation)
    (processGenerationId : ProcessGenerationId) (processGenerationRevision : Int)
    (processExecutionEpochId : ProcessExecutionEpochId) (authority : PreparedAttemptAuthority)
    (now : Int) : ProviderAttempt where
  attemptId := preparation.attemptId
  consumer := preparation.consumer
  continuationPlanId := preparation.continuationPlanId
  routingDecisionId := authority.routingDecisionId
  runtimeSessionId := authority.runtimeSessionId
  runtimeSessionRevision := authority.runtimeSessionRevision
  accountId := authority.accountId
  processGenerationId := processGenerationId
  processGenerationRevision := processGenerationRevision
  processExecutionEpochId := processExecutionEpochId
  requestId := preparation.requestId
  requestDigest := preparation.requestDigest
  providerKeys := preparation.providerKeys
  duplicateRisk := preparation.duplicateRisk
  state := .prepared
  unknownReason := none
  terminalEvidenceId := none
  revision := 1
  createdAtMicros := now
  updatedAtMicros := now

def prepareProviderAttempt (host : Host) (preparation : ProviderAttemptPreparation)
    (processGenerationId : ProcessGenerationId) (processGenerationRevision : Int)
    (processExecutionEpochId : ProcessExecutionEpochId) (bindingKey : Option String)
    (expectedConversationTurnRevisions : Option Int × Option Int) (now : Int)
    (store : SqliteStore) : Except StoreError (PrepareProviderAttemptOutcome × SqliteStore) :=
  match preparation.validate with
  | .error _ => .error (.invalidInput "ProviderAttempt preparation is malformed")
  | .ok () =>
    if processGenerationRevision ≤ 0 then
      .error (.invalidInput "ProviderAttempt generation revision must be positive")
    else do
      let fence ← preparationTurnFence preparation expectedConversationTurnRevisions
      match store.providerAttempts.find? preparation.attemptId with
      | some existing =>
        .ok (replayedPreparation existing preparation processGenerationId, store)
      | none =>
        match readPreparedAttemptAuthority store preparation processGenerationId
            processGenerationRevision processExecutionEpochId bindingKey fence with
        | none => .ok (.rejected .authorityUnavailable emptyMutation, store)
        | some authority =>
          if duplicateRiskMatchesPlan host store preparation.duplicateRisk fence.conversationId
              fence.turnId authority.planKind authority.sourceRuntimeSessionId
              preparation.continuationPlanId then do
            let attempts ← execute <| store.providerAttempts.insert <|
              preparedAttempt preparation processGenerationId processGenerationRevision
                processExecutionEpochId authority now
            .ok (.fresh ⟨preparation.attemptId, 1, now, some fence⟩,
              { store with providerAttempts := attempts })
          else .ok (.rejected .authorityUnavailable emptyMutation, store)

/-- `process_ready`. -/
def processReady (store : SqliteStore) (processGenerationId : ProcessGenerationId)
    (processGenerationRevision : Int) : Bool :=
  (store.processGenerations.find? processGenerationId).any fun row =>
    row.generation.revision == processGenerationRevision && row.generation.state == .ready

/-- `turn_ready`; a token without a fence is never ready. -/
def turnReady (store : SqliteStore) (fence : Option ConversationTurnFence) : Bool :=
  fence.any fun fence =>
    (store.conversations.find? fence.conversationId).any (fun conversation =>
        conversation.revision == fence.conversationRevision && conversation.state == .active) &&
      (store.turns.find? fence.turnId).any fun turn =>
        turn.conversationId == fence.conversationId && turn.revision == fence.turnRevision &&
          turn.status == .active

def authorizeProviderAttemptDispatch (prepared : FreshPreparedProviderAttempt)
    (processGenerationId : ProcessGenerationId) (processGenerationRevision : Int) (now : Int)
    (store : SqliteStore) : Except StoreError (AuthorizeProviderDispatchOutcome × SqliteStore) :=
  match store.providerAttempts.find? prepared.attemptId with
  | none => .ok (.rejected .attemptMissing emptyMutation, store)
  | some current =>
    if current.state = .dispatchAuthorized ∧
        current.revision = saturatingSucc prepared.revision then
      .ok (.replayed (mutation current), store)
    else if current.revision ≠ prepared.revision ∨ current.state ≠ .prepared ∨
        current.processGenerationId ≠ processGenerationId ∨
        current.processGenerationRevision ≠ processGenerationRevision ∨
        processReady store processGenerationId processGenerationRevision = false ∨
        turnReady store prepared.conversationTurnFence = false then
      .ok (.rejected .staleAttempt (mutation current), store)
    else do
      let revision := prepared.revision + 1
      let attempts ← execute <| store.providerAttempts.updateKey prepared.attemptId fun row =>
        { row with state := .dispatchAuthorized, revision, updatedAtMicros := now }
      .ok (.fresh
          ⟨prepared.attemptId, revision, processGenerationId, processGenerationRevision, now⟩,
        { store with providerAttempts := attempts })

def transitionAttempt (attemptId : ProviderAttemptId) (expectedRevision : Int)
    (expectedState targetState : ProviderAttemptState)
    (reason : Option ProviderAttemptUnknownReason) (now : Int) (store : SqliteStore) :
    Except StoreError (ProviderAttemptMutationOutcome × SqliteStore) :=
  if expectedRevision ≤ 0 then
    .error (.invalidInput "ProviderAttempt revision must be positive")
  else
    match store.providerAttempts.find? attemptId with
    | none => .ok (.rejected .attemptMissing emptyMutation, store)
    | some current =>
      if current.state = targetState ∧ current.revision = saturatingSucc expectedRevision ∧
          current.unknownReason = reason then
        .ok (.replayed (mutation current), store)
      else if current.revision ≠ expectedRevision ∨ current.state ≠ expectedState then
        .ok (.rejected .staleAttempt (mutation current), store)
      else do
        let revision := expectedRevision + 1
        let attempts ← execute <| store.providerAttempts.updateKey attemptId fun row =>
          { row with
            state := targetState
            unknownReason := reason
            revision
            updatedAtMicros := now }
        .ok (.applied ⟨revision, targetState, now⟩,
          { store with providerAttempts := attempts })

def cancelProviderAttempt (attemptId : ProviderAttemptId) (expectedRevision now : Int)
    (store : SqliteStore) : Except StoreError (ProviderAttemptMutationOutcome × SqliteStore) :=
  transitionAttempt attemptId expectedRevision .prepared .canceled none now store

def markProviderAttemptUnknown (attemptId : ProviderAttemptId) (expectedRevision : Int)
    (reason : ProviderAttemptUnknownReason) (now : Int) (store : SqliteStore) :
    Except StoreError (ProviderAttemptMutationOutcome × SqliteStore) :=
  if reason = .restoreProjection then
    .error (.invalidInput "restore projection is not a live transition")
  else
    transitionAttempt attemptId expectedRevision .dispatchAuthorized .unknown (some reason) now
      store

/-- `positive_evidence_matches`: the stored row agrees in every field the caller supplies. -/
def positiveEvidenceMatches (store : SqliteStore) (evidence : ProviderPositiveEvidence) : Bool :=
  store.positiveEvidence.rows.any fun row => row.evidence == evidence

/-- The attempt row that positive evidence closes. -/
def evidencedAttempt (evidence : ProviderPositiveEvidence) (revision now : Int)
    (row : ProviderAttempt) : ProviderAttempt :=
  { row with
    state := evidence.outcome.state
    unknownReason := none
    terminalEvidenceId := some evidence.evidenceId
    revision
    updatedAtMicros := now }

def recordProviderAttemptPositiveEvidence (expectedRevision : Int)
    (evidence : ProviderPositiveEvidence) (now : Int) (store : SqliteStore) :
    Except StoreError (ProviderAttemptMutationOutcome × SqliteStore) :=
  match store.providerAttempts.find? evidence.attemptId with
  | none => .ok (.rejected .attemptMissing emptyMutation, store)
  | some current =>
    if current.state.isTerminal then
      if current.terminalEvidenceId = some evidence.evidenceId ∧
          positiveEvidenceMatches store evidence = true then
        .ok (.replayed (mutation current), store)
      else .ok (.rejected .evidenceConflict (mutation current), store)
    else
      match evidence.validate with
      | .error _ => .ok (.rejected .invalidEvidence (mutation current), store)
      | .ok () =>
        if current.revision ≠ expectedRevision ∨
            (current.state ≠ .dispatchAuthorized ∧ current.state ≠ .unknown) ∨
            current.requestId ≠ evidence.requestId ∨
            current.providerKeys.contains evidence.providerKey = false then
          .ok (.rejected .evidenceMismatch (mutation current), store)
        else do
          let rows ← execute <| store.positiveEvidence.insert ⟨evidence, now⟩
          let revision := expectedRevision + 1
          let attempts ← execute <| store.providerAttempts.updateKey evidence.attemptId <|
            evidencedAttempt evidence revision now
          let store ← finalize { store with positiveEvidence := rows, providerAttempts := attempts }
            current evidence now
          .ok (.applied ⟨revision, evidence.outcome.state, now⟩, store)

/-- The attempt row that the restore projection leaves. -/
def restoredAttempt (now : Int) (row : ProviderAttempt) : ProviderAttempt :=
  { row with
    state := .unknown
    unknownReason := some .restoreProjection
    revision := row.revision + 1
    updatedAtMicros := now }

def projectable (row : ProviderAttempt) : Bool :=
  row.state == .prepared || row.state == .dispatchAuthorized

def projectProviderAttemptsAfterSupervisorLoss (now : Int) (store : SqliteStore) :
    Except StoreError (Nat × SqliteStore) := do
  let attempts ← execute <| store.providerAttempts.updateWhere projectable (restoredAttempt now)
  .ok ((store.providerAttempts.rows.filter projectable).length,
    { store with providerAttempts := attempts })

theorem prepareProviderAttempt_effects {host : Host} {preparation : ProviderAttemptPreparation}
    {generationId : ProcessGenerationId} {generationRevision : Int}
    {epochId : ProcessExecutionEpochId} {bindingKey : Option String}
    {expected : Option Int × Option Int} {now : Int} {store after : SqliteStore}
    {outcome : PrepareProviderAttemptOutcome}
    (success : prepareProviderAttempt host preparation generationId generationRevision epochId
      bindingKey expected now store = .ok (outcome, after)) :
    after = store ∨ ∃ authority attempts,
      store.providerAttempts.insert (preparedAttempt preparation generationId generationRevision
        epochId authority now) = some attempts ∧
      after = { store with providerAttempts := attempts } := by
  unfold prepareProviderAttempt at success
  split at success
  · cases success
  · split at success
    · cases success
    · obtain ⟨fence, _, success⟩ := bind_ok success
      split at success
      · cases success
        exact .inl rfl
      · split at success
        · cases success
          exact .inl rfl
        · rename_i authority _
          split at success
          · obtain ⟨attempts, inserted, success⟩ := bind_ok success
            cases success
            exact .inr ⟨authority, attempts, execute_eq_ok.mp inserted, rfl⟩
          · cases success
            exact .inl rfl

/-- A dispatch is authorized from the prepared state only, and only then is a fence fresh. -/
theorem authorizeProviderAttemptDispatch_effects {prepared : FreshPreparedProviderAttempt}
    {generationId : ProcessGenerationId} {generationRevision now : Int}
    {store after : SqliteStore} {outcome : AuthorizeProviderDispatchOutcome}
    (success : authorizeProviderAttemptDispatch prepared generationId generationRevision now store
      = .ok (outcome, after)) :
    (after = store ∧ ∀ fence, outcome ≠ .fresh fence) ∨ ∃ current attempts fence,
      store.providerAttempts.find? prepared.attemptId = some current ∧
      current.state = .prepared ∧
      store.providerAttempts.updateKey prepared.attemptId (fun row =>
        { row with
          state := .dispatchAuthorized
          revision := prepared.revision + 1
          updatedAtMicros := now }) = some attempts ∧
      after = { store with providerAttempts := attempts } ∧
      outcome = .fresh fence ∧ fence.attemptId = prepared.attemptId := by
  unfold authorizeProviderAttemptDispatch at success
  split at success
  · cases success
    exact .inl ⟨rfl, by simp⟩
  · rename_i current found
    split at success
    · cases success
      exact .inl ⟨rfl, by simp⟩
    · split at success
      · cases success
        exact .inl ⟨rfl, by simp⟩
      · rename_i admitted
        obtain ⟨attempts, updated, success⟩ := bind_ok success
        cases success
        simp only [not_or, not_not] at admitted
        exact .inr ⟨current, attempts, _, found, admitted.2.1, execute_eq_ok.mp updated, rfl, rfl,
          rfl⟩

theorem transitionAttempt_effects {attemptId : ProviderAttemptId} {expectedRevision now : Int}
    {expectedState targetState : ProviderAttemptState}
    {reason : Option ProviderAttemptUnknownReason} {store after : SqliteStore}
    {outcome : ProviderAttemptMutationOutcome}
    (success : transitionAttempt attemptId expectedRevision expectedState targetState reason now
      store = .ok (outcome, after)) :
    after = store ∨ ∃ current attempts,
      store.providerAttempts.find? attemptId = some current ∧
      current.state = expectedState ∧
      store.providerAttempts.updateKey attemptId (fun row =>
        { row with
          state := targetState
          unknownReason := reason
          revision := expectedRevision + 1
          updatedAtMicros := now }) = some attempts ∧
      after = { store with providerAttempts := attempts } := by
  unfold transitionAttempt at success
  split at success
  · cases success
  · split at success
    · cases success
      exact .inl rfl
    · rename_i current found
      split at success
      · cases success
        exact .inl rfl
      · split at success
        · cases success
          exact .inl rfl
        · rename_i admitted
          obtain ⟨attempts, updated, success⟩ := bind_ok success
          cases success
          simp only [not_or, not_not] at admitted
          exact .inr ⟨current, attempts, found, admitted.2, execute_eq_ok.mp updated, rfl⟩

/-- Recorded evidence closes an attempt that may have been dispatched, whose request and key
it names, and stores the evidence row with it. -/
theorem recordProviderAttemptPositiveEvidence_effects {expectedRevision now : Int}
    {evidence : ProviderPositiveEvidence} {store after : SqliteStore}
    {outcome : ProviderAttemptMutationOutcome}
    (success : recordProviderAttemptPositiveEvidence expectedRevision evidence now store
      = .ok (outcome, after)) :
    (after = store ∧ ∀ mutation, outcome ≠ .applied mutation) ∨
    ∃ current rows attempts,
      store.providerAttempts.find? evidence.attemptId = some current ∧
      evidence.validate = .ok () ∧
      (current.state = .dispatchAuthorized ∨ current.state = .unknown) ∧
      current.requestId = evidence.requestId ∧
      current.providerKeys.contains evidence.providerKey = true ∧
      store.positiveEvidence.insert ⟨evidence, now⟩ = some rows ∧
      store.providerAttempts.updateKey evidence.attemptId
        (evidencedAttempt evidence (expectedRevision + 1) now) = some attempts ∧
      finalize { store with positiveEvidence := rows, providerAttempts := attempts } current
        evidence now = .ok after ∧
      outcome = .applied ⟨expectedRevision + 1, evidence.outcome.state, now⟩ := by
  unfold recordProviderAttemptPositiveEvidence at success
  split at success
  · cases success
    exact .inl ⟨rfl, by simp⟩
  · rename_i current found
    split at success
    · split at success <;>
        cases success <;>
        exact .inl ⟨rfl, by simp⟩
    · split at success
      · cases success
        exact .inl ⟨rfl, by simp⟩
      · split at success
        · cases success
          exact .inl ⟨rfl, by simp⟩
        · rename_i valid admitted
          simp only [not_or, not_and_or, not_not, Bool.not_eq_false] at admitted
          obtain ⟨_, state, request, key⟩ := admitted
          obtain ⟨rows, inserted, success⟩ := bind_ok success
          obtain ⟨attempts, updated, success⟩ := bind_ok success
          obtain ⟨finalized, settled, success⟩ := bind_ok success
          cases success
          exact .inr ⟨current, rows, attempts, found, valid, state, request, key,
            execute_eq_ok.mp inserted, execute_eq_ok.mp updated, settled, rfl⟩

theorem projectProviderAttempts_effects {now : Int} {store after : SqliteStore} {count : Nat}
    (success : projectProviderAttemptsAfterSupervisorLoss now store = .ok (count, after)) :
    ∃ attempts, store.providerAttempts.updateWhere projectable (restoredAttempt now)
        = some attempts ∧
      after = { store with providerAttempts := attempts } := by
  obtain ⟨attempts, updated, success⟩ := bind_ok success
  cases success
  exact ⟨attempts, execute_eq_ok.mp updated, rfl⟩

end Decodex.Source.Store.ProviderAttempts
