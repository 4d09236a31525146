import Decodex.Source.Store.Schema

/-!
# Process generations

Source: database/src/process_generations.rs:36-102 (outcomes, conversation admission),
182-511 (transitions), 545-671 (`prepare_bound_generation`), 712-777 (`account_authority`),
924-946 (readbacks). The page readers and row parsing are left out: rows are held parsed.
A rejected preparation commits as it stands; it has changed nothing.
-/
namespace Decodex.Source.Store.ProcessGenerations

open Decodex.Library
open Decodex.Source.Core

inductive ProcessGenerationRejection where
  | identityConflict | conversationAuthorityUnavailable | restoreAuthorityUnavailable
  | accountMissing | accountQuarantined | accountLifecycleUnready | callbackCapabilityUnready
  | generationMissing | staleGeneration | evidenceConflict | evidenceMismatch
  deriving DecidableEq, Repr

structure ProcessGenerationMutation where
  revision : Int
  state : ProcessGenerationState
  recordedAtMicros : Int
  deriving DecidableEq, Repr

structure FreshProcessGenerationFence where
  generationId : ProcessGenerationId
  revision : Int
  fencedAtMicros : Int
  deriving DecidableEq

inductive PrepareProcessGenerationOutcome where
  | fresh (fence : FreshProcessGenerationFence)
  | replayed (actual : ProcessGenerationMutation)
  | rejected (rejection : ProcessGenerationRejection) (actual : ProcessGenerationMutation)
  deriving DecidableEq

inductive ProcessGenerationMutationOutcome where
  | applied (mutation : ProcessGenerationMutation)
  | replayed (actual : ProcessGenerationMutation)
  | rejected (rejection : ProcessGenerationRejection) (actual : ProcessGenerationMutation)
  deriving DecidableEq

def mutation (generation : ProcessGeneration) : ProcessGenerationMutation :=
  ⟨generation.revision, generation.state, generation.updatedAtMicros⟩

def emptyMutation : ProcessGenerationMutation := ⟨0, .starting, 0⟩

def rejected (rejection : ProcessGenerationRejection) (generation : ProcessGeneration) :
    ProcessGenerationMutationOutcome :=
  .rejected rejection (mutation generation)

/-- `read_generation`. -/
def readGeneration (store : SqliteStore) (id : ProcessGenerationId) : Option ProcessGeneration :=
  (store.processGenerations.find? id).map (·.generation)

/-- `i64::try_from(binding.credential.version.get())`. -/
def credentialVersion (binding : ProcessGenerationAccountBinding) : Except StoreError Int :=
  if (binding.credential.version.toNat : Int) ≤ i64Max then
    .ok binding.credential.version.toNat
  else .error (.invalidInput "credential version overflows SQLite integer")

/-- An operation of the account that is neither settled nor superseded. -/
def accountOperationPending (store : SqliteStore) (accountId : AccountId) : Bool :=
  store.accountOperations.rows.any fun operation =>
    operation.accountId == accountId && operation.phase != .committed &&
      operation.phase != .cancelled && operation.supersededByOperationId.isNone

def callbackCapability (store : SqliteStore) (profile : String) : Bool :=
  store.accountCapability.any fun capability =>
    capability.loginChatgptAuthTokens && capability.refreshCallback &&
      capability.callbackProfileSha256 == profile

/-- The stored credential is exactly the bound one. -/
def credentialExact (credential : AccountCredentialRow) (bound : CredentialBinding)
    (version : Int) : Bool :=
  credential.schemaVersion == bound.schemaVersion.get &&
    credential.credentialVersion == version && credential.fingerprint == bound.fingerprint &&
    credential.writerOperationId == bound.writerOperationId &&
    credential.providerAccountId == bound.providerAccountId

def accountAuthority (store : SqliteStore) (accountId : AccountId)
    (binding : ProcessGenerationAccountBinding) :
    Except StoreError (Option ProcessGenerationRejection) :=
  match store.accounts.find? accountId with
  | none => .ok (some .accountMissing)
  | some account =>
    if account.revision ≠ binding.accountRevision ∨ account.enabled = false ∨
        account.tombstonedAtMicros.isSome = true ∨
        account.credentialStoreObservation ≠ .exact ∨
        accountOperationPending store accountId = true then
      .ok (some .accountLifecycleUnready)
    else if callbackCapability store binding.refreshCallbackProfileSha256 = false then
      .ok (some .callbackCapabilityUnready)
    else do
      let version ← credentialVersion binding
      if (store.accountCredentials.find? accountId).any fun credential =>
          credentialExact credential binding.credential version then .ok none
      else .ok (some .accountLifecycleUnready)

/-- The existing row was prepared by the same intent. -/
def sameIntent (existing : ProcessGeneration) (intent : ProcessGenerationIntent) : Bool :=
  existing.accountId == intent.accountId &&
    existing.executionEpochId == intent.executionAuthorization.epochId &&
    existing.runnerIdentity == intent.runnerIdentity &&
    existing.intendedBootId == intent.intendedBootId &&
    existing.controlKind == intent.controlKind && existing.isolationKind == intent.isolationKind

/-- The account has a generation that is not dead. -/
def accountQuarantined (store : SqliteStore) (accountId : AccountId) : Bool :=
  store.processGenerations.rows.any fun row =>
    row.generation.accountId == accountId && row.generation.state != .dead

/-- `INSERT OR IGNORE INTO process_execution_epochs`. -/
def insertEpochOrIgnore (store : SqliteStore) (authorization : ProcessExecutionAuthorization)
    (now : Int) : SqliteStore :=
  match store.processExecutionEpochs.insert
      ⟨authorization.epochId, authorization.authorizationDigest, now⟩ with
  | some epochs => { store with processExecutionEpochs := epochs }
  | none => store

/-- The inserted row. -/
def startingRow (intent : ProcessGenerationIntent) (binding : ProcessGenerationAccountBinding)
    (runtimeSessionId : Option RuntimeSessionId) (admissionKey : Option String) (now : Int) :
    ProcessGenerationRow where
  generation :=
    { generationId := intent.generationId
      accountId := intent.accountId
      executionEpochId := intent.executionAuthorization.epochId
      runnerIdentity := intent.runnerIdentity
      intendedBootId := intent.intendedBootId
      controlKind := intent.controlKind
      isolationKind := intent.isolationKind
      processIdentity := none
      state := .starting
      authorityLossReason := none
      deathEvidenceId := none
      revision := 1
      createdAtMicros := now
      updatedAtMicros := now }
  runtimeSessionId := runtimeSessionId
  binding := binding
  quickTaskAdmissionKey := admissionKey

/-- `runtime_session_id TEXT REFERENCES runtime_sessions`, which no query here reads. -/
def sessionReferenceHolds (store : SqliteStore) (id : Option RuntimeSessionId) : Bool :=
  id.all fun id => (store.runtimeSessions.find? id).isSome

/-- `prepare_bound_generation`, inside the transaction of its caller. The credential version
was checked by the account authority, so its second conversion cannot fail. -/
def prepareBoundGeneration (intent : ProcessGenerationIntent)
    (binding : ProcessGenerationAccountBinding) (runtimeSessionId : Option RuntimeSessionId)
    (admissionKey : Option String) (epochNow now : Int) (store : SqliteStore) :
    Except StoreError (PrepareProcessGenerationOutcome × SqliteStore) :=
  match readGeneration store intent.generationId with
  | some existing =>
    if sameIntent existing intent then .ok (.replayed (mutation existing), store)
    else .ok (.rejected .identityConflict (mutation existing), store)
  | none => do
    match ← accountAuthority store intent.accountId binding with
    | some rejection => .ok (.rejected rejection emptyMutation, store)
    | none =>
      if accountQuarantined store intent.accountId then
        .ok (.rejected .accountQuarantined emptyMutation, store)
      else
        let store := insertEpochOrIgnore store intent.executionAuthorization epochNow
        match store.processExecutionEpochs.find? intent.executionAuthorization.epochId with
        | none => .error sqliteError
        | some epoch =>
          if epoch.authorizationSha256 ≠ intent.executionAuthorization.authorizationDigest then
            .ok (.rejected .restoreAuthorityUnavailable emptyMutation, store)
          else if sessionReferenceHolds store runtimeSessionId = false then .error sqliteError
          else do
            let generations ← execute <| store.processGenerations.insert <|
              startingRow intent binding runtimeSessionId admissionKey now
            .ok (.fresh ⟨intent.generationId, 1, now⟩,
              { store with processGenerations := generations })

/-- `FreshConversationProcessGeneration`, with the request fields its consumer reads. -/
structure FreshConversationProcessGeneration where
  idempotencyKey : String
  requestSha256 : String
  processGenerationId : ProcessGenerationId
  selectedAccountId : AccountId
  runtimeSessionId : RuntimeSessionId
  deriving DecidableEq

/-- The admission receipt is durable. -/
def admissionReceiptMatches (store : SqliteStore)
    (admission : FreshConversationProcessGeneration) (generationId : ProcessGenerationId) : Bool :=
  (store.runtimeCommandReceipts.find? admission.idempotencyKey).any fun receipt =>
    receipt.requestSha256 == admission.requestSha256 &&
      receipt.operation == "prepare_quick_task_process_generation" &&
      receipt.entityId == generationId.text

def prepareConversationBoundProcessGeneration (intent : ProcessGenerationIntent)
    (binding : ProcessGenerationAccountBinding) (admission : FreshConversationProcessGeneration)
    (epochNow now : Int) (store : SqliteStore) :
    Except StoreError (PrepareProcessGenerationOutcome × SqliteStore) :=
  if admission.processGenerationId ≠ intent.generationId ∨
      intent.accountId ≠ admission.selectedAccountId then
    .error (.invalidInput "Conversation admission and ProcessGeneration identity differ")
  else if admissionReceiptMatches store admission intent.generationId = false then
    .ok (.rejected .conversationAuthorityUnavailable emptyMutation, store)
  else
    prepareBoundGeneration intent binding (some admission.runtimeSessionId)
      (some admission.idempotencyKey) epochNow now store

/-- `UPDATE process_generations SET change WHERE generation_id = ?`. -/
def updateGeneration (store : SqliteStore) (id : ProcessGenerationId)
    (change : ProcessGeneration → ProcessGeneration) : Except StoreError SqliteStore := do
  let generations ← execute <| store.processGenerations.updateKey id fun row =>
    { row with generation := change row.generation }
  .ok { store with processGenerations := generations }

def bindProcessGenerationIdentity (generationId : ProcessGenerationId) (expectedRevision : Int)
    (identity : ProcessIdentity) (now : Int) (store : SqliteStore) :
    Except StoreError (ProcessGenerationMutationOutcome × SqliteStore) :=
  if expectedRevision ≤ 0 ∨ identity.processId ≠ identity.processGroupId ∨
      identity.processId ≠ identity.sessionId then
    .error (.invalidInput "ProcessGeneration identity is invalid")
  else
    match readGeneration store generationId with
    | none => .error (incompatible "generation missing")
    | some current =>
      if current.revision = saturatingSucc expectedRevision ∧
          current.processIdentity = some identity then
        .ok (.replayed (mutation current), store)
      else if current.revision ≠ expectedRevision ∨ current.state ≠ .starting ∨
          current.processIdentity.isSome = true ∨
          identity.bootId ≠ current.intendedBootId then
        .ok (rejected .staleGeneration current, store)
      else do
        let store ← updateGeneration store generationId fun row =>
          { row with
            processIdentity := some identity
            revision := expectedRevision + 1
            updatedAtMicros := now }
        .ok (.applied ⟨expectedRevision + 1, .starting, now⟩, store)

/-- `mutate_generation`: read the row, or reject. -/
def mutateGeneration (generationId : ProcessGenerationId) (store : SqliteStore)
    (operation : ProcessGeneration →
      Except StoreError (ProcessGenerationMutationOutcome × SqliteStore)) :
    Except StoreError (ProcessGenerationMutationOutcome × SqliteStore) :=
  match readGeneration store generationId with
  | none => .ok (.rejected .generationMissing emptyMutation, store)
  | some current => operation current

def transitionGeneration (generationId : ProcessGenerationId) (expectedRevision : Int)
    (expectedStates : List ProcessGenerationState) (targetState : ProcessGenerationState)
    (now : Int) (store : SqliteStore) :
    Except StoreError (ProcessGenerationMutationOutcome × SqliteStore) :=
  if expectedRevision ≤ 0 then
    .error (.invalidInput "ProcessGeneration revision must be positive")
  else
    mutateGeneration generationId store fun current =>
      if current.state = targetState ∧ current.revision = saturatingSucc expectedRevision then
        .ok (.replayed (mutation current), store)
      else if current.revision ≠ expectedRevision ∨ current.state ∉ expectedStates ∨
          current.processIdentity.isNone = true then
        .ok (rejected .staleGeneration current, store)
      else do
        let store ← updateGeneration store current.generationId fun row =>
          { row with
            state := targetState
            revision := expectedRevision + 1
            updatedAtMicros := now
            authorityLossReason := none }
        .ok (.applied ⟨expectedRevision + 1, targetState, now⟩, store)

def markProcessGenerationReady (generationId : ProcessGenerationId) (expectedRevision now : Int)
    (store : SqliteStore) : Except StoreError (ProcessGenerationMutationOutcome × SqliteStore) :=
  transitionGeneration generationId expectedRevision [.starting] .ready now store

/-- Readiness is not a prerequisite of termination: every live state may be stopping. -/
def markProcessGenerationStopping (generationId : ProcessGenerationId)
    (expectedRevision now : Int) (store : SqliteStore) :
    Except StoreError (ProcessGenerationMutationOutcome × SqliteStore) :=
  transitionGeneration generationId expectedRevision
    [.starting, .ready, .stopping, .deathUnknown] .stopping now store

def markProcessGenerationDeathUnknown (generationId : ProcessGenerationId)
    (expectedRevision : Int) (reason : ProcessAuthorityLossReason) (now : Int)
    (store : SqliteStore) : Except StoreError (ProcessGenerationMutationOutcome × SqliteStore) :=
  mutateGeneration generationId store fun current =>
    if current.state = .deathUnknown ∧ current.authorityLossReason = some reason ∧
        current.revision = saturatingSucc expectedRevision then
      .ok (.replayed (mutation current), store)
    else if current.revision ≠ expectedRevision ∨ current.state = .dead then
      .ok (rejected .staleGeneration current, store)
    else do
      let store ← updateGeneration store current.generationId fun row =>
        { row with
          state := .deathUnknown
          authorityLossReason := some reason
          revision := expectedRevision + 1
          updatedAtMicros := now }
      .ok (.applied ⟨expectedRevision + 1, .deathUnknown, now⟩, store)

/-- A prior-boot proof carries no process identity: the boot that ended is not the intended
one. Every other proof carries exactly the generation's identity. -/
def deathIdentityMatches (evidence : ProcessDeathEvidence) (current : ProcessGeneration) : Bool :=
  if evidence.kind = .priorBootEnded then
    evidence.processIdentity.isNone && evidence.observedBootId != current.intendedBootId
  else evidence.processIdentity == current.processIdentity

def recordProcessGenerationDeath (expectedRevision : Int) (evidence : ProcessDeathEvidence)
    (now : Int) (store : SqliteStore) :
    Except StoreError (ProcessGenerationMutationOutcome × SqliteStore) :=
  mutateGeneration evidence.generationId store fun current =>
    if current.state = .dead then
      if current.deathEvidenceId = some evidence.evidenceId then
        .ok (.replayed (mutation current), store)
      else .ok (rejected .evidenceConflict current, store)
    else if current.revision ≠ expectedRevision ∨
        deathIdentityMatches evidence current = false then
      .ok (rejected .evidenceMismatch current, store)
    else do
      let rows ← execute <| store.deathEvidence.insert ⟨evidence, now⟩
      let store ← updateGeneration { store with deathEvidence := rows } current.generationId
        fun row =>
          { row with
            state := .dead
            authorityLossReason := none
            deathEvidenceId := some evidence.evidenceId
            revision := expectedRevision + 1
            updatedAtMicros := now }
      .ok (.applied ⟨expectedRevision + 1, .dead, now⟩, store)

/-- `state NOT IN ('dead', 'death_unknown')`. -/
def losesSupervisor (row : ProcessGenerationRow) : Bool :=
  row.generation.state != .dead && row.generation.state != .deathUnknown

/-- The row that the restart projection leaves. -/
def supervisorRestarted (now : Int) (row : ProcessGenerationRow) : ProcessGenerationRow :=
  { row with
    generation :=
      { row.generation with
        state := .deathUnknown
        authorityLossReason := some .supervisorRestarted
        revision := row.generation.revision + 1
        updatedAtMicros := now } }

def projectProcessGenerationsAfterSupervisorLoss (now : Int) (store : SqliteStore) :
    Except StoreError (Nat × SqliteStore) := do
  let generations ← execute <|
    store.processGenerations.updateWhere losesSupervisor (supervisorRestarted now)
  .ok ((store.processGenerations.rows.filter losesSupervisor).length,
    { store with processGenerations := generations })

theorem readGeneration_eq_some {store : SqliteStore} {id : ProcessGenerationId}
    {current : ProcessGeneration} (found : readGeneration store id = some current) :
    (∃ row, store.processGenerations.find? id = some row ∧ row.generation = current) ∧
      current.generationId = id := by
  simp only [readGeneration, Option.map_eq_some_iff] at found
  obtain ⟨row, found, rfl⟩ := found
  exact ⟨⟨row, found, rfl⟩, Table.key_of_find? found⟩

/-- How the row of one generation can change without dying. -/
inductive LiveMove (before : ProcessGeneration) : ProcessGeneration → Prop
  | bound (identity : ProcessIdentity) (revision now : Int) (starting : before.state = .starting)
      (unbound : before.processIdentity = none)
      (boot : identity.bootId = before.intendedBootId) :
      LiveMove before
        { before with
          processIdentity := some identity
          revision
          updatedAtMicros := now }
  | moved (target : ProcessGenerationState) (reason : Option ProcessAuthorityLossReason)
      (revision now : Int) (live : before.state ≠ .dead)
      (stays : target ≠ .dead ∧ target ≠ .starting)
      (ready : target = .ready → before.state = .starting) :
      LiveMove before
        { before with
          state := target
          authorityLossReason := reason
          revision
          updatedAtMicros := now }

/-- The row of a generation that death evidence closes. -/
def deadGeneration (evidence : ProcessDeathEvidence) (revision now : Int)
    (row : ProcessGeneration) : ProcessGeneration :=
  { row with
    state := .dead
    authorityLossReason := none
    deathEvidenceId := some evidence.evidenceId
    revision
    updatedAtMicros := now }

/-- What one operation does to the two generation tables. -/
inductive GenerationChange (store after : SqliteStore) : Prop
  | kept (generations : after.processGenerations = store.processGenerations)
      (evidence : after.deathEvidence = store.deathEvidence)
  | started (row : ProcessGenerationRow)
      (inserted : store.processGenerations.insert row = some after.processGenerations)
      (starting : row.generation.state = .starting)
      (evidence : after.deathEvidence = store.deathEvidence)
  | updated (id : ProcessGenerationId) (row : ProcessGenerationRow)
      (change : ProcessGeneration → ProcessGeneration)
      (found : store.processGenerations.find? id = some row)
      (move : LiveMove row.generation (change row.generation))
      (updated : store.processGenerations.updateKey id
        (fun row => { row with generation := change row.generation })
        = some after.processGenerations)
      (keeps : ∀ row, (change row).generationId = row.generationId)
      (evidence : after.deathEvidence = store.deathEvidence)
  | restarted (now : Int)
      (updated : store.processGenerations.updateWhere losesSupervisor (supervisorRestarted now)
        = some after.processGenerations)
      (evidence : after.deathEvidence = store.deathEvidence)
  | died (evidence : ProcessDeathEvidence) (row : ProcessGenerationRow) (revision now : Int)
      (found : store.processGenerations.find? evidence.generationId = some row)
      (live : row.generation.state ≠ .dead)
      (identity : deathIdentityMatches evidence row.generation = true)
      (inserted : store.deathEvidence.insert ⟨evidence, now⟩ = some after.deathEvidence)
      (updated : store.processGenerations.updateKey evidence.generationId
        (fun row => { row with generation := deadGeneration evidence revision now row.generation })
        = some after.processGenerations)

theorem insertEpochOrIgnore_effects (store : SqliteStore)
    (authorization : ProcessExecutionAuthorization) (now : Int) :
    ∃ epochs, insertEpochOrIgnore store authorization now =
      { store with processExecutionEpochs := epochs } := by
  unfold insertEpochOrIgnore
  split
  · exact ⟨_, rfl⟩
  · exact ⟨store.processExecutionEpochs, rfl⟩

theorem prepareBoundGeneration_change {intent : ProcessGenerationIntent}
    {binding : ProcessGenerationAccountBinding} {runtimeSessionId : Option RuntimeSessionId}
    {admissionKey : Option String} {epochNow now : Int} {store after : SqliteStore}
    {outcome : PrepareProcessGenerationOutcome}
    (success : prepareBoundGeneration intent binding runtimeSessionId admissionKey epochNow now
      store = .ok (outcome, after)) : GenerationChange store after := by
  unfold prepareBoundGeneration at success
  split at success
  · split at success <;>
      cases success <;>
      exact .kept rfl rfl
  · obtain ⟨authority, _, success⟩ := bind_ok success
    split at success
    · cases success
      exact .kept rfl rfl
    · split at success
      · cases success
        exact .kept rfl rfl
      · obtain ⟨epochs, epochsInserted⟩ :=
          insertEpochOrIgnore_effects store intent.executionAuthorization epochNow
        simp only [epochsInserted] at success
        split at success
        · cases success
        · split at success
          · cases success
            exact .kept rfl rfl
          · split at success
            · cases success
            · obtain ⟨generations, inserted, success⟩ := bind_ok success
              cases success
              exact .started _ (execute_eq_ok.mp inserted) rfl rfl

theorem prepareConversationBound_change {intent : ProcessGenerationIntent}
    {binding : ProcessGenerationAccountBinding} {admission : FreshConversationProcessGeneration}
    {epochNow now : Int} {store after : SqliteStore} {outcome : PrepareProcessGenerationOutcome}
    (success : prepareConversationBoundProcessGeneration intent binding admission epochNow now
      store = .ok (outcome, after)) : GenerationChange store after := by
  unfold prepareConversationBoundProcessGeneration at success
  split at success
  · cases success
  · split at success
    · cases success
      exact .kept rfl rfl
    · exact prepareBoundGeneration_change success

/-- A committed update of one generation is one of its live moves. -/
theorem updateGeneration_change {store after : SqliteStore} {id : ProcessGenerationId}
    {current : ProcessGeneration} {change : ProcessGeneration → ProcessGeneration}
    (success : updateGeneration store id change = .ok after)
    (found : readGeneration store id = some current) (move : LiveMove current (change current))
    (keeps : ∀ row, (change row).generationId = row.generationId) :
    GenerationChange store after := by
  obtain ⟨generations, updated, success⟩ := bind_ok success
  cases success
  obtain ⟨⟨row, rowFound, rfl⟩, _⟩ := readGeneration_eq_some found
  exact .updated id row change rowFound move (execute_eq_ok.mp updated) keeps rfl

theorem bindProcessGenerationIdentity_change {generationId : ProcessGenerationId}
    {expectedRevision now : Int} {identity : ProcessIdentity} {store after : SqliteStore}
    {outcome : ProcessGenerationMutationOutcome}
    (success : bindProcessGenerationIdentity generationId expectedRevision identity now store
      = .ok (outcome, after)) : GenerationChange store after := by
  unfold bindProcessGenerationIdentity at success
  split at success
  · cases success
  · split at success
    · cases success
    · rename_i current found
      split at success
      · cases success
        exact .kept rfl rfl
      · split at success
        · cases success
          exact .kept rfl rfl
        · rename_i admitted
          obtain ⟨_, committed, success⟩ := bind_ok success
          cases success
          simp only [not_or, not_not, Bool.not_eq_true, Option.isSome_eq_false_iff,
            Option.isNone_iff_eq_none] at admitted
          obtain ⟨_, starting, unbound, boot⟩ := admitted
          exact updateGeneration_change committed found
            (.bound identity _ _ starting unbound boot) fun _ => rfl

/-- A committed mutation found no row, or ran its operation on the row it read. -/
theorem mutateGeneration_ok {generationId : ProcessGenerationId} {store after : SqliteStore}
    {operation : ProcessGeneration →
      Except StoreError (ProcessGenerationMutationOutcome × SqliteStore)}
    {outcome : ProcessGenerationMutationOutcome}
    (success : mutateGeneration generationId store operation = .ok (outcome, after)) :
    after = store ∨ ∃ current, readGeneration store generationId = some current ∧
      operation current = .ok (outcome, after) := by
  unfold mutateGeneration at success
  split at success
  · cases success
    exact .inl rfl
  · exact .inr ⟨_, ‹_›, success⟩

theorem transitionGeneration_change {generationId : ProcessGenerationId}
    {expectedRevision now : Int} {expectedStates : List ProcessGenerationState}
    {targetState : ProcessGenerationState} {store after : SqliteStore}
    {outcome : ProcessGenerationMutationOutcome}
    (success : transitionGeneration generationId expectedRevision expectedStates targetState now
      store = .ok (outcome, after))
    (live : .dead ∉ expectedStates) (stays : targetState ≠ .dead ∧ targetState ≠ .starting)
    (ready : targetState = .ready → expectedStates = [.starting]) :
    GenerationChange store after := by
  unfold transitionGeneration at success
  split at success
  · cases success
  · rcases mutateGeneration_ok success with rfl | ⟨current, found, success⟩
    · exact .kept rfl rfl
    · split at success
      · cases success
        exact .kept rfl rfl
      · split at success
        · cases success
          exact .kept rfl rfl
        · rename_i admitted
          obtain ⟨_, committed, success⟩ := bind_ok success
          cases success
          simp only [not_or, not_not] at admitted
          obtain ⟨_, expected, _⟩ := admitted
          rw [(readGeneration_eq_some found).2] at committed
          refine updateGeneration_change committed found
            (.moved targetState none _ _ (fun dead => live (dead ▸ expected)) stays ?_) fun _ => rfl
          intro target
          simpa [ready target] using expected

theorem markProcessGenerationDeathUnknown_change {generationId : ProcessGenerationId}
    {expectedRevision now : Int} {reason : ProcessAuthorityLossReason}
    {store after : SqliteStore} {outcome : ProcessGenerationMutationOutcome}
    (success : markProcessGenerationDeathUnknown generationId expectedRevision reason now store
      = .ok (outcome, after)) : GenerationChange store after := by
  rcases mutateGeneration_ok success with rfl | ⟨current, found, success⟩
  · exact .kept rfl rfl
  · split at success
    · cases success
      exact .kept rfl rfl
    · split at success
      · cases success
        exact .kept rfl rfl
      · rename_i admitted
        obtain ⟨_, committed, success⟩ := bind_ok success
        cases success
        simp only [not_or, not_not] at admitted
        rw [(readGeneration_eq_some found).2] at committed
        exact updateGeneration_change committed found
          (.moved .deathUnknown (some reason) _ _ admitted.2 ⟨nofun, nofun⟩ nofun) fun _ => rfl

theorem recordProcessGenerationDeath_change {expectedRevision now : Int}
    {evidence : ProcessDeathEvidence} {store after : SqliteStore}
    {outcome : ProcessGenerationMutationOutcome}
    (success : recordProcessGenerationDeath expectedRevision evidence now store
      = .ok (outcome, after)) : GenerationChange store after := by
  rcases mutateGeneration_ok success with rfl | ⟨current, found, success⟩
  · exact .kept rfl rfl
  · split at success
    · split at success <;>
        cases success <;>
        exact .kept rfl rfl
    · rename_i live
      split at success
      · cases success
        exact .kept rfl rfl
      · rename_i admitted
        obtain ⟨rows, inserted, success⟩ := bind_ok success
        obtain ⟨_, committed, success⟩ := bind_ok success
        cases success
        obtain ⟨generations, updated, committed⟩ := bind_ok committed
        cases committed
        simp only [not_or, not_not, Bool.not_eq_false] at admitted
        obtain ⟨⟨row, rowFound, rfl⟩, key⟩ := readGeneration_eq_some found
        rw [key] at updated
        exact .died evidence row _ now rowFound live admitted.2 (execute_eq_ok.mp inserted)
          (execute_eq_ok.mp updated)

theorem projectProcessGenerations_change {now : Int} {store after : SqliteStore} {count : Nat}
    (success : projectProcessGenerationsAfterSupervisorLoss now store = .ok (count, after)) :
    GenerationChange store after := by
  obtain ⟨generations, updated, success⟩ := bind_ok success
  cases success
  exact .restarted now (execute_eq_ok.mp updated) rfl

end Decodex.Source.Store.ProcessGenerations
