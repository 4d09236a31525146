import Decodex.Source.Store.AgentProcess
import Decodex.Source.Store.ContinuationPlans

/-!
# What an operation can change of a session's thread

The generation operations leave sessions and plans alone and never move a generation to
another session. Planning opens sessions and ends one; a fence and a binding each write the
columns of one session. Everything else in the store is free.
-/
namespace Decodex.Source.Store.ThreadStarts

open Decodex.Library
open Decodex.Source.Core
open Decodex.Source.Store.AgentProcess
open Decodex.Source.Store.ContinuationPlans
open Decodex.Source.Store.ProcessGenerations

/-- The session each generation belongs to, when the generation is there. -/
def ownerOf (store : SqliteStore) (id : ProcessGenerationId) : Option (Option RuntimeSessionId) :=
  (store.processGenerations.find? id).map (·.runtimeSessionId)

/-- Sessions and plans stay, and every generation keeps its owner. -/
structure OwnersKept (store after : SqliteStore) : Prop where
  sessions : after.runtimeSessions = store.runtimeSessions
  plans : after.continuationPlans = store.continuationPlans
  owners : ∀ id, ownerOf after id = ownerOf store id

/-- Sessions and plans stay, and one generation appears under an owner. -/
structure OwnerAdded (store after : SqliteStore) (id : ProcessGenerationId)
    (owner : Option RuntimeSessionId) : Prop where
  sessions : after.runtimeSessions = store.runtimeSessions
  plans : after.continuationPlans = store.continuationPlans
  added : ownerOf after id = some owner
  others : ∀ other, other ≠ id → ownerOf after other = ownerOf store other

theorem OwnersKept.refl (store : SqliteStore) : OwnersKept store store := ⟨rfl, rfl, fun _ => rfl⟩

theorem updateGeneration_owners {store after : SqliteStore} {id : ProcessGenerationId}
    {change : ProcessGeneration → ProcessGeneration}
    (success : updateGeneration store id change = .ok after)
    (keeps : ∀ row, (change row).generationId = row.generationId) : OwnersKept store after := by
  obtain ⟨generations, updated, ending⟩ := bind_ok success
  cases ending
  refine ⟨rfl, rfl, fun other => ?_⟩
  have view := Table.find?_updateKey (execute_eq_ok.mp updated)
    (fun row => keeps row.generation) other
  unfold ownerOf
  rw [view]
  split
  · simp only [Option.map_map]
    rfl
  · rfl

theorem bindProcessGenerationIdentity_owners {generationId : ProcessGenerationId}
    {expectedRevision now : Int} {identity : ProcessIdentity} {store after : SqliteStore}
    {outcome : ProcessGenerationMutationOutcome}
    (success : bindProcessGenerationIdentity generationId expectedRevision identity now store
      = .ok (outcome, after)) : OwnersKept store after := by
  unfold bindProcessGenerationIdentity at success
  split at success
  · cases success
  · split at success
    · cases success
    · split at success
      · cases success
        exact .refl _
      · split at success
        · cases success
          exact .refl _
        · obtain ⟨_, committed, ending⟩ := bind_ok success
          cases ending
          exact updateGeneration_owners committed fun _ => rfl

theorem transitionGeneration_owners {generationId : ProcessGenerationId}
    {expectedRevision now : Int} {expectedStates : List ProcessGenerationState}
    {targetState : ProcessGenerationState} {store after : SqliteStore}
    {outcome : ProcessGenerationMutationOutcome}
    (success : transitionGeneration generationId expectedRevision expectedStates targetState now
      store = .ok (outcome, after)) : OwnersKept store after := by
  unfold transitionGeneration at success
  split at success
  · cases success
  · rcases mutateGeneration_ok success with rfl | ⟨current, _, success⟩
    · exact .refl _
    · split at success
      · cases success
        exact .refl _
      · split at success
        · cases success
          exact .refl _
        · obtain ⟨_, committed, ending⟩ := bind_ok success
          cases ending
          exact updateGeneration_owners committed fun _ => rfl

theorem markProcessGenerationDeathUnknown_owners {generationId : ProcessGenerationId}
    {expectedRevision now : Int} {reason : ProcessAuthorityLossReason}
    {store after : SqliteStore} {outcome : ProcessGenerationMutationOutcome}
    (success : markProcessGenerationDeathUnknown generationId expectedRevision reason now store
      = .ok (outcome, after)) : OwnersKept store after := by
  rcases mutateGeneration_ok success with rfl | ⟨current, _, success⟩
  · exact .refl _
  · split at success
    · cases success
      exact .refl _
    · split at success
      · cases success
        exact .refl _
      · obtain ⟨_, committed, ending⟩ := bind_ok success
        cases ending
        exact updateGeneration_owners committed fun _ => rfl

theorem recordProcessGenerationDeath_owners {expectedRevision now : Int}
    {evidence : ProcessDeathEvidence} {store after : SqliteStore}
    {outcome : ProcessGenerationMutationOutcome}
    (success : recordProcessGenerationDeath expectedRevision evidence now store
      = .ok (outcome, after)) : OwnersKept store after := by
  rcases mutateGeneration_ok success with rfl | ⟨current, _, success⟩
  · exact .refl _
  · split at success
    · split at success <;>
        cases success <;>
        exact .refl _
    · split at success
      · cases success
        exact .refl _
      · obtain ⟨rows, _, success⟩ := bind_ok success
        obtain ⟨_, committed, ending⟩ := bind_ok success
        cases ending
        have kept := updateGeneration_owners committed fun _ => rfl
        exact ⟨kept.sessions, kept.plans, kept.owners⟩

theorem projectProcessGenerations_owners {now : Int} {store after : SqliteStore} {count : Nat}
    (success : projectProcessGenerationsAfterSupervisorLoss now store = .ok (count, after)) :
    OwnersKept store after := by
  obtain ⟨generations, updated, ending⟩ := bind_ok success
  cases ending
  refine ⟨rfl, rfl, fun id => ?_⟩
  have view := Table.find?_updateWhere (execute_eq_ok.mp updated) (fun _ _ => rfl) id
  unfold ownerOf
  rw [view, Option.map_map]
  congr 1
  funext row
  simp only [Function.comp_apply]
  split <;> rfl

/-- A preparation that is not fresh adds nothing; a fresh one adds its own generation. -/
theorem prepareBoundGeneration_owners {intent : ProcessGenerationIntent}
    {binding : ProcessGenerationAccountBinding} {owner : Option RuntimeSessionId}
    {admissionKey : Option String} {epochNow now : Int} {store after : SqliteStore}
    {outcome : PrepareProcessGenerationOutcome}
    (success : prepareBoundGeneration intent binding owner admissionKey epochNow now store
      = .ok (outcome, after)) :
    OwnersKept store after ∨ (outcome = .fresh ⟨intent.generationId, 1, now⟩ ∧
      OwnerAdded store after intent.generationId owner) := by
  unfold prepareBoundGeneration at success
  split at success
  · split at success <;>
      cases success <;>
      exact .inl (.refl _)
  · obtain ⟨authority, _, success⟩ := bind_ok success
    split at success
    · cases success
      exact .inl (.refl _)
    · split at success
      · cases success
        exact .inl (.refl _)
      · obtain ⟨epochs, epochsInserted⟩ :=
          insertEpochOrIgnore_effects store intent.executionAuthorization epochNow
        simp only [epochsInserted] at success
        split at success
        · cases success
        · split at success
          · cases success
            exact .inl ⟨rfl, rfl, fun _ => rfl⟩
          · split at success
            · cases success
            · obtain ⟨generations, inserted, ending⟩ := bind_ok success
              cases ending
              have view := Table.find?_insert (execute_eq_ok.mp inserted)
              have key : processGenerations.key (startingRow intent binding owner admissionKey now)
                  = intent.generationId := rfl
              refine .inr ⟨rfl, rfl, rfl, ?_, fun other differs => ?_⟩
              · unfold ownerOf
                rw [view, if_pos key]
                rfl
              · unfold ownerOf
                rw [view, key, if_neg (Ne.symm differs)]

theorem prepareConversationBound_owners {intent : ProcessGenerationIntent}
    {binding : ProcessGenerationAccountBinding} {admission : FreshConversationProcessGeneration}
    {epochNow now : Int} {store after : SqliteStore} {outcome : PrepareProcessGenerationOutcome}
    (success : prepareConversationBoundProcessGeneration intent binding admission epochNow now
      store = .ok (outcome, after)) :
    OwnersKept store after ∨ ∃ fence owner, outcome = .fresh fence ∧
      OwnerAdded store after fence.generationId owner := by
  unfold prepareConversationBoundProcessGeneration at success
  split at success
  · cases success
  · split at success
    · cases success
      exact .inl (.refl _)
    · rcases prepareBoundGeneration_owners success with kept | ⟨rfl, added⟩
      · exact .inl kept
      · exact .inr ⟨_, _, rfl, added⟩

/-- A generation prepared for an Agent belongs to no session. -/
theorem prepareAgentBound_owners {host : Host} {intent : ProcessGenerationIntent}
    {binding : ProcessGenerationAccountBinding} {rootId operationKey : String}
    {epochNow now bindingNow : Int} {store after : SqliteStore}
    {outcome : PrepareProcessGenerationOutcome}
    (success : prepareAgentBoundProcessGeneration host intent binding rootId operationKey epochNow
      now bindingNow store = .ok (outcome, after)) :
    OwnersKept store after ∨ ∃ id, OwnerAdded store after id none := by
  unfold prepareAgentBoundProcessGeneration at success
  split at success
  · cases success
  · split at success
    · cases success
    · dsimp only at success
      split at success
      · split at success
        · cases success
          exact .inl (.refl _)
        · split at success
          · cases success
          · cases success
            exact .inl (.refl _)
      · obtain ⟨busy, _, success⟩ := bind_ok success
        split at success
        · cases success
          exact .inl (.refl _)
        · split at success
          · cases success
            exact .inl (.refl _)
          · obtain ⟨⟨inner, prepared⟩, nested, success⟩ := bind_ok success
            split at success
            · rename_i fence _ same
              cases same
              split at success
              · obtain ⟨bindings, _, ending⟩ := bind_ok success
                cases ending
                rcases prepareBoundGeneration_owners nested with kept | ⟨_, added⟩
                · exact .inl ⟨kept.sessions, kept.plans, kept.owners⟩
                · exact .inr ⟨_, added.sessions, added.plans, added.added, added.others⟩
              · cases success
            · cases success
              exact .inl (.refl _)

/-- How a session row moves while its thread columns stay; every write advances it. -/
inductive SessionMove (row : RuntimeSessionRow) : RuntimeSessionRow → Prop
  | kept : SessionMove row row
  | moved (state : RuntimeSessionState) (lastKnownTurnId : Option String)
      (hasAcknowledgedTurn : Bool) (revision updatedAtMicros : Int)
      (endedAtMicros : Option Int) (newer : row.revision < revision) :
      SessionMove row
        { row with
          state, lastKnownTurnId, hasAcknowledgedTurn, revision, updatedAtMicros, endedAtMicros }

/-- What a session move cannot touch. -/
structure ColumnsSame (row row' : RuntimeSessionRow) : Prop where
  id : row'.runtimeSessionId = row.runtimeSessionId
  conversation : row'.conversationId = row.conversationId
  account : row'.accountId = row.accountId
  request : row'.threadStartRequestId = row.threadStartRequestId
  response : row'.threadStartResponseId = row.threadStartResponseId
  binding : row'.threadStartBindingKey = row.threadStartBindingKey
  thread : row'.codexThreadId = row.codexThreadId

theorem SessionMove.columns {row row' : RuntimeSessionRow} (move : SessionMove row row') :
    ColumnsSame row row' := by
  cases move <;> exact ⟨rfl, rfl, rfl, rfl, rfl, rfl, rfl⟩

/-- Every session is still there and has only moved; no session is new. -/
structure SessionsMoved (before after : Table runtimeSessions) : Prop where
  moves : ∀ id row, before.find? id = some row →
    ∃ row', after.find? id = some row' ∧ SessionMove row row'
  absent : ∀ id, before.find? id = none → after.find? id = none

theorem SessionsMoved.refl (table : Table runtimeSessions) : SessionsMoved table table :=
  ⟨fun _ row found => ⟨row, found, .kept⟩, fun _ missing => missing⟩

theorem sessionsMoved_of_update {before after : Table runtimeSessions} {id : RuntimeSessionId}
    {change : RuntimeSessionRow → RuntimeSessionRow}
    (updated : before.updateKey id change = some after)
    (moves : ∀ row, SessionMove row (change row)) : SessionsMoved before after := by
  have keeps : ∀ row, runtimeSessions.key (change row) = runtimeSessions.key row := by
    intro row
    have move := moves row
    generalize change row = next at move
    cases move <;> rfl
  have view := Table.find?_updateKey updated keeps
  refine ⟨fun other row found => ?_, fun other missing => ?_⟩
  · rw [view, found]
    split
    · exact ⟨_, rfl, moves row⟩
    · exact ⟨row, rfl, .kept⟩
  · rw [view, missing]
    split <;> rfl

/-- A plan and the session it starts name one Conversation and one account. -/
def PlanStarts (plan : ContinuationPlanRow) (row : RuntimeSessionRow) : Prop :=
  plan.runtimeSessionId = some row.runtimeSessionId ∧
    plan.conversationId = row.conversationId ∧ plan.selectedAccountId = row.accountId

/-- A session no fence has reached. -/
structure Unfenced (row : RuntimeSessionRow) : Prop where
  request : row.threadStartRequestId = none
  binding : row.threadStartBindingKey = none

/-- What a planning operation does: sessions may move, and one may open with its plan. -/
inductive PlanChange (store after : ThreadStore) : Prop
  | kept (same : after = store)
  | sameThread (plan : ContinuationPlanRow)
      (kind : plan.kind = .sameThread)
      (planned : store.continuationPlans.insert plan = some after.continuationPlans)
      (sessions : after.runtimeSessions = store.runtimeSessions)
      (threads : after.sessionThreads = store.sessionThreads)
      (generations : after.processGenerations = store.processGenerations)
  | opened (middle : Table runtimeSessions) (row : RuntimeSessionRow) (thread : SessionThreadRow)
      (plan : ContinuationPlanRow)
      (moved : SessionsMoved store.runtimeSessions middle)
      (inserted : middle.insert row = some after.runtimeSessions)
      (threaded : store.sessionThreads.insert thread = some after.sessionThreads)
      (planned : store.continuationPlans.insert plan = some after.continuationPlans)
      (starts : PlanStarts plan row)
      (unfenced : Unfenced row ∧ thread.fence = none)
      (same : thread.runtimeSessionId = row.runtimeSessionId)
      (generations : after.processGenerations = store.processGenerations)

/-- Planning leaves the generations alone. -/
theorem PlanChange.generations {store after : ThreadStore} (change : PlanChange store after) :
    after.processGenerations = store.processGenerations := by
  cases change with
  | kept same => rw [same]
  | sameThread plan kind planned sessions threads generations => exact generations
  | opened middle row thread plan moved inserted threaded planned starts unfenced same generations =>
    exact generations

theorem writeInitialPlan_change {fresh : GeneratedIdentities} {key requestSha256 : String}
    {request : PlanInitialThreadContinuation} {authority : InitialContinuationAuthority}
    {now : Int} {store after : ThreadStore}
    (success : writeInitialPlan fresh key requestSha256 request authority now store = .ok after) :
    PlanChange store after := by
  obtain ⟨_, _, success⟩ := bind_ok success
  obtain ⟨opened, openedOk, planning⟩ := bind_ok success
  obtain ⟨sessions, inserted, success⟩ := bind_ok openedOk
  obtain ⟨threads, threaded, ending⟩ := bind_ok success
  cases ending
  obtain ⟨plans, planned, success⟩ := bind_ok planning
  obtain ⟨commands, _, ending⟩ := bind_ok success
  cases ending
  exact .opened _ _ _ _ (.refl _) (execute_eq_ok.mp inserted) (execute_eq_ok.mp threaded)
    (execute_eq_ok.mp planned) ⟨rfl, rfl, rfl⟩ ⟨⟨rfl, rfl⟩, rfl⟩ rfl rfl

theorem planInitialThreadContinuation_change {host : Host} {fresh : GeneratedIdentities}
    {key : String} {request : PlanInitialThreadContinuation} {now : Int}
    {store after : ThreadStore} {outcome : ContinuationCommandOutcome}
    (success : planInitialThreadContinuation host fresh key request now store
      = .ok (outcome, after)) : PlanChange store after := by
  obtain ⟨_, _, success⟩ := bind_ok success
  split at success
  · cases success
  · split at success
    · split at success
      · cases success
      · obtain ⟨_, _, ending⟩ := bind_ok success
        cases ending
        exact .kept rfl
    · split at success
      · cases success
        exact .kept rfl
      · obtain ⟨next, written, success⟩ := bind_ok success
        obtain ⟨_, _, ending⟩ := bind_ok success
        cases ending
        exact writeInitialPlan_change written

theorem endFallbackSource_moves {authority : ExistingContinuationAuthority} {now : Int}
    {store : ThreadStore} {result : Nat × ThreadStore}
    (success : endFallbackSource authority now store = .ok result) :
    ∃ sessions, result.2 = { store with runtimeSessions := sessions } ∧
      SessionsMoved store.runtimeSessions sessions := by
  unfold endFallbackSource at success
  split at success
  · cases success
    exact ⟨store.runtimeSessions, rfl, .refl _⟩
  · obtain ⟨sessions, updated, ending⟩ := bind_ok success
    cases ending
    refine ⟨sessions, rfl, sessionsMoved_of_update (execute_eq_ok.mp updated) fun row => ?_⟩
    exact .moved .ended row.lastKnownTurnId row.hasAcknowledgedTurn (row.revision + 1) now
      (some now) (by omega)

theorem bindFallbackTurn_frame {turnId : TurnId} {conversationId : ConversationId}
    {source fallback : RuntimeSessionId} {now : Int} {store : SqliteStore}
    {result : Nat × SqliteStore}
    (success : Conversations.bindFallbackTurn turnId conversationId source fallback now store
      = .ok result) : ∃ turns, result.2 = { store with turns } := by
  unfold Conversations.bindFallbackTurn at success
  split at success
  · cases success
    exact ⟨store.turns, rfl⟩
  · obtain ⟨turns, _, ending⟩ := bind_ok success
    cases ending
    exact ⟨turns, rfl⟩

theorem writeFallback_change {fresh : GeneratedIdentities} {key requestSha256 : String}
    {request : PlanContinuation} {authority : ExistingContinuationAuthority}
    {pack : ContextPacks.ContextPack} {manifestJson : String} {now : Int}
    {store after : ThreadStore}
    (success : writeFallback fresh key requestSha256 request authority pack manifestJson now store
      = .ok (some after)) : PlanChange store after := by
  obtain ⟨packed, packing, success⟩ := bind_ok success
  obtain ⟨_, _, packing⟩ := bind_ok packing
  obtain ⟨_, _, packing⟩ := bind_ok packing
  obtain ⟨stored, _, ending⟩ := bind_ok packing
  cases ending
  obtain ⟨⟨count, ended⟩, endOk, success⟩ := bind_ok success
  obtain ⟨middle, endedEq, moved⟩ := endFallbackSource_moves endOk
  dsimp only at endedEq success
  subst endedEq
  split at success
  · cases success
  · obtain ⟨opened, openedOk, success⟩ := bind_ok success
    obtain ⟨sessions, inserted, openedOk⟩ := bind_ok openedOk
    obtain ⟨threads, threaded, ending⟩ := bind_ok openedOk
    cases ending
    obtain ⟨⟨turnCount, bound⟩, boundOk, success⟩ := bind_ok success
    obtain ⟨turns, boundEq⟩ := bindFallbackTurn_frame boundOk
    dsimp only at boundEq success
    subst boundEq
    split at success
    · cases success
    · obtain ⟨planned, planOk, ending⟩ := bind_ok success
      cases ending
      obtain ⟨plans, insertedPlan, planOk⟩ := bind_ok planOk
      obtain ⟨commands, _, ending⟩ := bind_ok planOk
      cases ending
      exact .opened middle _ _ _ moved (execute_eq_ok.mp inserted) (execute_eq_ok.mp threaded)
        (execute_eq_ok.mp insertedPlan) ⟨rfl, rfl, rfl⟩ ⟨⟨rfl, rfl⟩, rfl⟩ rfl rfl

theorem writeContinuation_change {fresh : GeneratedIdentities} {key requestSha256 : String}
    {request : PlanContinuation} {authority : ExistingContinuationAuthority}
    {pack : ContextPacks.ContextPack} {manifestJson : String} {now : Int}
    {store after : ThreadStore}
    (success : writeContinuation fresh key requestSha256 request authority pack manifestJson now
      store = .ok (.ok after)) : PlanChange store after := by
  unfold writeContinuation at success
  split at success
  · obtain ⟨planned, planOk, ending⟩ := bind_ok success
    cases ending
    obtain ⟨plans, inserted, planOk⟩ := bind_ok planOk
    obtain ⟨commands, _, ending⟩ := bind_ok planOk
    cases ending
    exact .sameThread _ rfl (execute_eq_ok.mp inserted) rfl rfl rfl
  · split at success
    · cases success
    · obtain ⟨written, writing, success⟩ := bind_ok success
      split at success
      · cases success
      · cases success
        exact writeFallback_change writing

theorem planContinuation_change {host : Host} {packs : PackHost} {fresh : GeneratedIdentities}
    {key : String} {request : PlanContinuation} {fallbackPack : ContextPacks.ContextPack}
    {now : Int} {store after : ThreadStore} {outcome : ContinuationCommandOutcome}
    (success : planContinuation host packs fresh key request fallbackPack now store
      = .ok (outcome, after)) : PlanChange store after := by
  obtain ⟨_, _, success⟩ := bind_ok success
  split at success
  · cases success
  · obtain ⟨manifestJson, _, success⟩ := bind_ok success
    obtain ⟨replay, _, success⟩ := bind_ok success
    split at success
    · cases success
      exact .kept rfl
    · unfold planFreshContinuation at success
      split at success
      · cases success
        exact .kept rfl
      · obtain ⟨written, writing, success⟩ := bind_ok success
        split at success
        · cases success
          exact .kept rfl
        · obtain ⟨_, _, ending⟩ := bind_ok success
          cases ending
          exact writeContinuation_change writing

/-- An admission writes its receipt, if anything. -/
theorem prepareConversationProcessGeneration_frame {host : Host} {key : String}
    {request : PrepareConversationProcessGeneration} {now : Int} {store after : ThreadStore}
    {outcome : PrepareConversationProcessGenerationOutcome}
    (success : prepareConversationProcessGeneration host key request now store
      = .ok (outcome, after)) :
    ∃ receipts, after = { store with runtimeCommandReceipts := receipts } := by
  obtain ⟨_, _, success⟩ := bind_ok success
  dsimp only at success
  split at success
  · split at success
    · cases success
    · cases success
      exact ⟨store.runtimeCommandReceipts, rfl⟩
  · split at success
    · cases success
      exact ⟨store.runtimeCommandReceipts, rfl⟩
    · obtain ⟨receipts, _, ending⟩ := bind_ok success
      cases ending
      exact ⟨receipts, rfl⟩

/-- The session row a fence leaves. -/
def fencedRow (fence : FenceRuntimeSessionThreadStart) (now : Int) (row : RuntimeSessionRow) :
    RuntimeSessionRow :=
  { row with
    threadStartRequestId := some fence.threadStartRequestId
    revision := fence.expectedRevision + 1
    updatedAtMicros := now }

/-- The session row a binding leaves. -/
def boundRow (key : String) (binding : BindRuntimeSessionThread) (now : Int)
    (row : RuntimeSessionRow) : RuntimeSessionRow :=
  { row with
    codexThreadId := some binding.successfulResponse.codexThreadId
    state := .active
    threadStartResponseId := some binding.successfulResponse.responseId
    threadStartBindingKey := some key
    revision := binding.expectedRevision + 1
    updatedAtMicros := now }

/-- The rest of the store after an update of one session. -/
structure OneSession (store after : ThreadStore) : Prop where
  plans : after.continuationPlans = store.continuationPlans
  conversations : after.conversations = store.conversations
  generations : after.processGenerations = store.processGenerations

/-- What a fresh fence read and wrote. -/
structure FenceWrite (key : String) (fence : FenceRuntimeSessionThreadStart)
    (readback : RuntimeSessionThreadFenceReadback) (store after : ThreadStore) : Prop where
  wrote : ∃ routingDecisionId selectedAccountId row now,
    threadFenceAuthority store fence = some (routingDecisionId, selectedAccountId) ∧
    startingSession store fence.runtimeSessionId fence.expectedRevision = some row ∧
    readback = freshFence key routingDecisionId selectedAccountId (fence.expectedRevision + 1)
      fence ∧
    store.runtimeSessions.updateKey fence.runtimeSessionId (fencedRow fence now)
      = some after.runtimeSessions ∧
    store.sessionThreads.updateKey fence.runtimeSessionId
      (fun row => { row with fence := some (fenceColumns key routingDecisionId fence) })
      = some after.sessionThreads
  unfenced : store.fenceOf fence.runtimeSessionId = none
  turnRevision : fence.expectedTurnRevision = 1
  rest : OneSession store after

/-- What an applied binding read and wrote. -/
structure BindingWrite (key : String) (binding : BindRuntimeSessionThread)
    (readback : RuntimeSessionThreadBindingReadback) (store after : ThreadStore) : Prop where
  wrote : ∃ fence row now,
    readThreadFence store binding.runtimeSessionId = .ok fence ∧
    bindingMatchesFence binding fence = true ∧
    startingSession store binding.runtimeSessionId binding.expectedRevision = some row ∧
    readback = freshBinding key (binding.expectedRevision + 1) fence binding ∧
    store.runtimeSessions.updateKey binding.runtimeSessionId (boundRow key binding now)
      = some after.runtimeSessions ∧
    store.sessionThreads.updateKey binding.runtimeSessionId
      (fun row => { row with responseSha256 := some binding.successfulResponse.responseSha256 })
      = some after.sessionThreads
  unbound : store.bindingKeyOf binding.runtimeSessionId = none
  response : binding.successfulResponse.responseId = binding.threadStartRequestId
  named : (store.fenceOf binding.runtimeSessionId).map (·.fenceKey)
    = some binding.fenceIdempotencyKey
  rest : OneSession store after

theorem nextRevision_ok {revision next : Int} (h : nextRevision revision = .ok next) :
    next = revision + 1 := by
  unfold nextRevision at h
  split at h
  · cases h
    rfl
  · cases h

theorem updateSession_ok {store after : ThreadStore} {id : RuntimeSessionId}
    {change : RuntimeSessionRow → RuntimeSessionRow}
    {changeThread : SessionThreadRow → SessionThreadRow}
    (success : updateSession store id change changeThread = .ok after) :
    store.runtimeSessions.updateKey id change = some after.runtimeSessions ∧
      store.sessionThreads.updateKey id changeThread = some after.sessionThreads ∧
      OneSession store after := by
  obtain ⟨sessions, updated, success⟩ := bind_ok success
  obtain ⟨threads, threadsUpdated, ending⟩ := bind_ok success
  cases ending
  exact ⟨execute_eq_ok.mp updated, execute_eq_ok.mp threadsUpdated, rfl, rfl, rfl⟩

theorem validateFence_turnRevision {host : Host} {key : String}
    {fence : FenceRuntimeSessionThreadStart} (valid : validateFence host key fence = .ok ()) :
    fence.expectedTurnRevision = 1 := by
  obtain ⟨_, _, valid⟩ := bind_ok valid
  obtain ⟨_, _, valid⟩ := bind_ok valid
  split at valid
  · cases valid
  · rename_i accepted
    by_contra differs
    exact accepted (.inr (.inr (.inl differs)))

theorem validateBinding_response {host : Host} {key : String} {binding : BindRuntimeSessionThread}
    (valid : validateBinding host key binding = .ok ()) :
    binding.successfulResponse.responseId = binding.threadStartRequestId := by
  obtain ⟨_, _, valid⟩ := bind_ok valid
  obtain ⟨_, _, valid⟩ := bind_ok valid
  obtain ⟨_, _, valid⟩ := bind_ok valid
  obtain ⟨_, _, valid⟩ := bind_ok valid
  dsimp only at valid
  split at valid
  · cases valid
  · rename_i accepted
    by_contra differs
    exact accepted (.inl differs)

/-- A fence writes, or reads back the fence that is there, or changes nothing. -/
theorem fence_outcome {host : Host} {key : String} {fence : FenceRuntimeSessionThreadStart}
    {now : Int} {store after : ThreadStore} {outcome : FenceRuntimeSessionThreadStartOutcome}
    (success : fenceRuntimeSessionThreadStart host key fence now store = .ok (outcome, after)) :
    (∃ readback, outcome = .fresh readback ∧ FenceWrite key fence readback store after) ∨
      (after = store ∧ ((∃ rejection, outcome = .rejected rejection) ∨
        ∃ readback, outcome = .replayed readback ∧
          readThreadFence store fence.runtimeSessionId = .ok readback)) := by
  obtain ⟨_, valid, success⟩ := bind_ok success
  split at success
  · obtain ⟨readback, read, success⟩ := bind_ok success
    split at success
    · cases success
      exact .inr ⟨rfl, .inr ⟨readback, rfl, read⟩⟩
    · cases success
      exact .inr ⟨rfl, .inl ⟨_, rfl⟩⟩
  · rename_i unfenced
    split at success
    · cases success
      exact .inr ⟨rfl, .inl ⟨_, rfl⟩⟩
    · rename_i routingDecisionId selectedAccountId authority
      obtain ⟨revision, next, success⟩ := bind_ok success
      have advanced := nextRevision_ok next
      subst advanced
      split at success
      · cases success
        exact .inr ⟨rfl, .inl ⟨_, rfl⟩⟩
      · rename_i row starting
        obtain ⟨_, updated, ending⟩ := bind_ok success
        cases ending
        obtain ⟨sessions, threads, rest⟩ := updateSession_ok updated
        exact .inl ⟨_, rfl, ⟨_, _, row, now, authority, starting, rfl, sessions, threads⟩,
          unfenced, validateFence_turnRevision valid, rest⟩

theorem writeBinding_outcome {key : String} {fence : RuntimeSessionThreadFenceReadback}
    {binding : BindRuntimeSessionThread} {now : Int} {store after : ThreadStore}
    {outcome : BindRuntimeSessionThreadOutcome}
    (read : readThreadFence store binding.runtimeSessionId = .ok fence)
    (matched : bindingMatchesFence binding fence = true)
    (unbound : store.bindingKeyOf binding.runtimeSessionId = none)
    (response : binding.successfulResponse.responseId = binding.threadStartRequestId)
    (success : writeBinding key fence binding now store = .ok (outcome, after)) :
    (∃ readback, outcome = .applied readback ∧ BindingWrite key binding readback store after) ∨
      (after = store ∧ ∃ rejection, outcome = .rejected rejection) := by
  obtain ⟨revision, next, success⟩ := bind_ok success
  have advanced := nextRevision_ok next
  subst advanced
  split at success
  · cases success
    exact .inr ⟨rfl, _, rfl⟩
  · rename_i row selected
    obtain ⟨starting, named⟩ := Option.filter_eq_some_iff.mp selected
    obtain ⟨_, updated, ending⟩ := bind_ok success
    cases ending
    obtain ⟨sessions, threads, rest⟩ := updateSession_ok updated
    exact .inl ⟨_, rfl, ⟨fence, row, now, read, matched, starting, rfl, sessions, threads⟩,
      unbound, response, by simpa using named, rest⟩

/-- A binding writes, or reads back the binding that is there, or changes nothing. -/
theorem bind_outcome {host : Host} {key : String} {binding : BindRuntimeSessionThread}
    {now : Int} {store after : ThreadStore} {outcome : BindRuntimeSessionThreadOutcome}
    (success : bindRuntimeSessionThread host key binding now store = .ok (outcome, after)) :
    (∃ readback, outcome = .applied readback ∧ BindingWrite key binding readback store after) ∨
      (after = store ∧ ((∃ rejection, outcome = .rejected rejection) ∨
        ∃ readback, outcome = .replayed readback ∧
          readThreadBinding store binding.runtimeSessionId = .ok readback)) := by
  obtain ⟨_, valid, success⟩ := bind_ok success
  split at success
  · obtain ⟨readback, read, success⟩ := bind_ok success
    split at success
    · cases success
      exact .inr ⟨rfl, .inr ⟨readback, rfl, read⟩⟩
    · cases success
      exact .inr ⟨rfl, .inl ⟨_, rfl⟩⟩
  · rename_i unbound
    obtain ⟨fence, read, success⟩ := bind_ok success
    split at success
    · cases success
      exact .inr ⟨rfl, .inl ⟨_, rfl⟩⟩
    · rename_i matched
      rcases writeBinding_outcome read (by simpa using matched) unbound
        (validateBinding_response valid) success with wrote | ⟨same, rejected⟩
      · exact .inl wrote
      · exact .inr ⟨same, .inl rejected⟩

theorem startingSession_eq_some {store : ThreadStore} {id : RuntimeSessionId} {revision : Int}
    {row : RuntimeSessionRow} (h : startingSession store id revision = some row) :
    store.runtimeSessions.find? id = some row ∧ row.revision = revision ∧
      row.state = .starting := by
  obtain ⟨found, selected⟩ := Option.filter_eq_some_iff.mp h
  simp only [Bool.and_eq_true, beq_iff_eq] at selected
  exact ⟨found, selected⟩

/-- The rows behind a granted fence authority. -/
theorem threadFenceAuthority_eq_some {store : ThreadStore} {fence : FenceRuntimeSessionThreadStart}
    {routingDecisionId : String} {selectedAccountId : AccountId}
    (h : threadFenceAuthority store fence = some (routingDecisionId, selectedAccountId)) :
    ∃ plan session conversation process,
      store.continuationPlans.find? fence.continuationPlanId = some plan ∧
      store.runtimeSessions.find? fence.runtimeSessionId = some session ∧
      store.conversations.find? fence.conversationId = some conversation ∧
      store.processGenerations.find? fence.processGenerationId = some process ∧
      plan.conversationId = fence.conversationId ∧
      ProviderAttempts.executionSessionId plan = fence.runtimeSessionId ∧
      plan.kind ≠ .sameThread ∧ plan.selectedAccountId = selectedAccountId ∧
      conversation.revision = fence.expectedConversationRevision ∧
      process.generation.state = .ready ∧
      process.runtimeSessionId = some session.runtimeSessionId := by
  simp only [threadFenceAuthority, Option.bind_eq_bind, Option.bind_eq_some_iff, Option.guard_eq_some',
    Option.some.injEq, Prod.mk.injEq] at h
  obtain ⟨plan, planFound, _, _, session, sessionFound, conversation, conversationFound, turn, _,
    process, processFound, _, ⟨conversationNamed, sessionNamed, kind, _⟩, _, _, _,
    ⟨revision, _⟩, _, _, _, ⟨_, ready, owner, _⟩, _, account⟩ := h
  rw [sessionNamed] at sessionFound
  rw [conversationNamed] at conversationFound
  exact ⟨plan, session, conversation, process, planFound, sessionFound, conversationFound,
    processFound, conversationNamed, sessionNamed, kind, account, revision, ready, owner⟩

theorem readThreadFence_ok {store : ThreadStore} {id : RuntimeSessionId}
    {readback : RuntimeSessionThreadFenceReadback}
    (read : readThreadFence store id = .ok readback) :
    ∃ session fence conversation requestId,
      store.runtimeSessions.find? id = some session ∧ store.fenceOf id = some fence ∧
      store.conversations.find? session.conversationId = some conversation ∧
      session.threadStartRequestId = some requestId ∧
      readback = fenceReadback session fence conversation.revision requestId := by
  obtain ⟨session, sessionFound, read⟩ := bind_ok read
  obtain ⟨fence, fenceFound, read⟩ := bind_ok read
  obtain ⟨conversation, conversationFound, read⟩ := bind_ok read
  obtain ⟨requestId, requested, ending⟩ := bind_ok read
  cases ending
  exact ⟨session, fence, conversation, requestId, execute_eq_ok.mp sessionFound,
    execute_eq_ok.mp fenceFound, execute_eq_ok.mp conversationFound, execute_eq_ok.mp requested,
    rfl⟩

theorem readThreadFence_of {store : ThreadStore} {id : RuntimeSessionId}
    {session : RuntimeSessionRow} {fence : ThreadStartFence} {conversation : ConversationRow}
    {requestId : Int} (sessionFound : store.runtimeSessions.find? id = some session)
    (fenceFound : store.fenceOf id = some fence)
    (conversationFound : store.conversations.find? session.conversationId = some conversation)
    (requested : session.threadStartRequestId = some requestId) :
    readThreadFence store id
      = .ok (fenceReadback session fence conversation.revision requestId) := by
  simp [readThreadFence, sessionFound, fenceFound, conversationFound, requested, execute]

theorem readThreadBinding_ok {store : ThreadStore} {id : RuntimeSessionId}
    {readback : RuntimeSessionThreadBindingReadback}
    (read : readThreadBinding store id = .ok readback) :
    ∃ fence session bindingKey responseId responseSha256 codexThreadId,
      readThreadFence store id = .ok fence ∧ store.runtimeSessions.find? id = some session ∧
      session.state = .active ∧ session.threadStartBindingKey = some bindingKey ∧
      session.threadStartResponseId = some responseId ∧
      store.responseShaOf id = some responseSha256 ∧ session.codexThreadId = some codexThreadId ∧
      readback = bindingReadback session fence bindingKey responseId responseSha256
        codexThreadId := by
  obtain ⟨fence, fenceRead, read⟩ := bind_ok read
  obtain ⟨session, selected, read⟩ := bind_ok read
  obtain ⟨bindingKey, keyed, read⟩ := bind_ok read
  obtain ⟨responseId, answered, read⟩ := bind_ok read
  obtain ⟨responseSha256, hashed, read⟩ := bind_ok read
  obtain ⟨codexThreadId, threaded, ending⟩ := bind_ok read
  cases ending
  obtain ⟨sessionFound, active⟩ := Option.filter_eq_some_iff.mp (execute_eq_ok.mp selected)
  exact ⟨fence, session, bindingKey, responseId, responseSha256, codexThreadId, fenceRead,
    sessionFound, by simpa using active, execute_eq_ok.mp keyed, execute_eq_ok.mp answered,
    execute_eq_ok.mp hashed, execute_eq_ok.mp threaded, rfl⟩

theorem readThreadBinding_of {store : ThreadStore} {id : RuntimeSessionId}
    {fence : RuntimeSessionThreadFenceReadback} {session : RuntimeSessionRow}
    {bindingKey responseSha256 codexThreadId : String} {responseId : Int}
    (fenceRead : readThreadFence store id = .ok fence)
    (sessionFound : store.runtimeSessions.find? id = some session)
    (active : session.state = .active) (keyed : session.threadStartBindingKey = some bindingKey)
    (answered : session.threadStartResponseId = some responseId)
    (hashed : store.responseShaOf id = some responseSha256)
    (threaded : session.codexThreadId = some codexThreadId) :
    readThreadBinding store id
      = .ok (bindingReadback session fence bindingKey responseId responseSha256
          codexThreadId) := by
  have selected : (store.runtimeSessions.find? id).filter (fun row => row.state == .active)
      = some session := by
    rw [sessionFound]
    simp [active]
  unfold readThreadBinding
  rw [fenceRead, selected, hashed]
  simp only [execute, ok_bind]
  rw [keyed, answered, threaded]
  rfl

/-- What `binding_matches_fence` compared. -/
structure NamesFence (binding : BindRuntimeSessionThread)
    (fence : RuntimeSessionThreadFenceReadback) : Prop where
  conversation : binding.conversationId = fence.conversationId
  conversationRevision : binding.expectedConversationRevision = fence.conversationRevision
  session : binding.runtimeSessionId = fence.runtimeSessionId
  revision : binding.expectedRevision = fence.revision
  turn : binding.turnId = fence.turnId
  turnRevision : binding.expectedTurnRevision = fence.turnRevision
  plan : binding.continuationPlanId = fence.continuationPlanId
  key : binding.fenceIdempotencyKey = fence.fenceIdempotencyKey
  request : binding.threadStartRequestId = fence.threadStartRequestId
  requestSha : binding.threadStartRequestSha256 = fence.threadStartRequestSha256

theorem bindingMatchesFence_named {binding : BindRuntimeSessionThread}
    {fence : RuntimeSessionThreadFenceReadback} (h : bindingMatchesFence binding fence = true) :
    NamesFence binding fence := by
  simp only [bindingMatchesFence, Bool.and_eq_true, beq_iff_eq] at h
  obtain ⟨⟨⟨⟨⟨⟨⟨⟨⟨h1, h2⟩, h3⟩, h4⟩, h5⟩, h6⟩, h7⟩, h8⟩, h9⟩, h10⟩ := h
  exact ⟨h1, h2, h3, h4, h5, h6, h7, h8, h9, h10⟩

end Decodex.Source.Store.ThreadStarts
