import Decodex.Guarantees.ProcessGenerations
import Decodex.Source.Store.ThreadStartChanges

/-!
# The thread columns of a session

Runs of the committed operations on sessions, plans and generations, each with any arguments,
while the other operations of the store write between them: they may move a session but do
not touch its thread columns. Here is what every reachable store keeps and what one step does
to the columns of one session.
-/
namespace Decodex.Guarantees.ThreadStarts

open Decodex.Library
open Decodex.Source.Core Decodex.Source.Store Decodex.Source.Store.ThreadStarts
open Decodex.Source.Store.ContinuationPlans
open Decodex.Source.Store.ProcessGenerations
open Decodex.Source.Store.ProviderAttempts (executionSessionId)
open Decodex.Guarantees.ProcessGenerations

inductive ThreadEvent where
  | generation (event : GenerationEvent)
  | admission (outcome : PrepareConversationProcessGenerationOutcome)
  | planInitial (outcome : ContinuationCommandOutcome)
  | plan (outcome : ContinuationCommandOutcome)
  | fence (key : String) (fence : FenceRuntimeSessionThreadStart)
      (outcome : FenceRuntimeSessionThreadStartOutcome)
  | bind (key : String) (binding : BindRuntimeSessionThread)
      (outcome : BindRuntimeSessionThreadOutcome)
  | reconcile (request : ReconcileConversationThreadEstablishment)
      (readback : ConversationThreadEstablishmentReadback)
  | other

/-- What the operations that are not listed write: Conversations, Turns, decisions, accounts,
receipts and attempts at will, and the state of a session with a newer revision. -/
structure OtherWrites (store after : ThreadStore) : Prop where
  sessions : SessionsMoved store.runtimeSessions after.runtimeSessions
  threads : after.sessionThreads = store.sessionThreads
  plans : after.continuationPlans = store.continuationPlans
  generations : after.processGenerations = store.processGenerations

def ThreadStep (host : Host) (packs : PackHost) (store : ThreadStore) (event : ThreadEvent)
    (after : ThreadStore) : Prop :=
  match event with
  | .generation event => event ≠ .other ∧ ∃ next,
      GenerationStep host store.toSqliteStore event next ∧
        after = { store with toSqliteStore := next }
  | .admission outcome => ∃ key request now,
      prepareConversationProcessGeneration host key request now store = .ok (outcome, after)
  | .planInitial outcome => ∃ fresh key request now,
      planInitialThreadContinuation host fresh key request now store = .ok (outcome, after)
  | .plan outcome => ∃ fresh key request fallbackPack now,
      planContinuation host packs fresh key request fallbackPack now store = .ok (outcome, after)
  | .fence key fence outcome => ∃ now,
      fenceRuntimeSessionThreadStart host key fence now store = .ok (outcome, after)
  | .bind key binding outcome => ∃ now,
      bindRuntimeSessionThread host key binding now store = .ok (outcome, after)
  | .reconcile request readback =>
      reconcileConversationThreadEstablishment host request store = .ok readback ∧ after = store
  | .other => OtherWrites store after

/-- A fresh fence of a session. -/
def freshFenceOf (id : RuntimeSessionId) : ThreadEvent → Bool
  | .fence _ fence (.fresh _) => fence.runtimeSessionId == id
  | _ => false

/-- A fresh fence that names a generation. -/
def freshFenceWith (id : ProcessGenerationId) : ThreadEvent → Bool
  | .fence _ fence (.fresh _) => fence.processGenerationId == id
  | _ => false

/-- A Conversation preparation that created a generation. -/
def preparesGeneration (id : ProcessGenerationId) : ThreadEvent → Bool
  | .generation (.prepareConversation (.fresh fence)) => fence.generationId == id
  | _ => false

/-- What one operation does to sessions and plans. -/
inductive ThreadChange (event : ThreadEvent) (store after : ThreadStore) : Prop
  | moved (unbinding : ∀ key binding readback, event ≠ .bind key binding (.applied readback))
      (unfencing : ∀ key fence readback, event ≠ .fence key fence (.fresh readback))
      (sessions : SessionsMoved store.runtimeSessions after.runtimeSessions)
      (threads : after.sessionThreads = store.sessionThreads)
      (plans : after.continuationPlans = store.continuationPlans)
  | planned (unbinding : ∀ key binding readback, event ≠ .bind key binding (.applied readback))
      (unfencing : ∀ key fence readback, event ≠ .fence key fence (.fresh readback))
      (change : PlanChange store after)
  | fenced (key : String) (fence : FenceRuntimeSessionThreadStart)
      (readback : RuntimeSessionThreadFenceReadback)
      (named : event = .fence key fence (.fresh readback))
      (write : FenceWrite key fence readback store after)
  | bound (key : String) (binding : BindRuntimeSessionThread)
      (readback : RuntimeSessionThreadBindingReadback)
      (named : event = .bind key binding (.applied readback))
      (write : BindingWrite key binding readback store after)

/-- What a generation operation does to the owners of generations. -/
theorem generationStep_owners {host : Host} {store after : SqliteStore} {event : GenerationEvent}
    (listed : event ≠ .other) (step : GenerationStep host store event after) :
    OwnersKept store after ∨
      (∃ fence owner, event = .prepareConversation (.fresh fence) ∧
        OwnerAdded store after fence.generationId owner) ∨
      ∃ id, OwnerAdded store after id none := by
  cases event with
  | prepareConversation outcome =>
    obtain ⟨_, _, _, _, _, success⟩ := step
    rcases prepareConversationBound_owners success with kept | ⟨fence, owner, rfl, added⟩
    · exact .inl kept
    · exact .inr (.inl ⟨fence, owner, rfl, added⟩)
  | prepareAgent outcome =>
    obtain ⟨_, _, _, _, _, _, _, success⟩ := step
    rcases prepareAgentBound_owners success with kept | added
    · exact .inl kept
    · exact .inr (.inr added)
  | bindIdentity =>
    obtain ⟨_, _, _, _, success⟩ := step
    exact .inl (bindProcessGenerationIdentity_owners success)
  | ready =>
    obtain ⟨_, _, _, success⟩ := step
    exact .inl (transitionGeneration_owners success)
  | stopping =>
    obtain ⟨_, _, _, success⟩ := step
    exact .inl (transitionGeneration_owners success)
  | deathUnknown =>
    obtain ⟨_, _, _, _, success⟩ := step
    exact .inl (markProcessGenerationDeathUnknown_owners success)
  | death =>
    obtain ⟨_, _, _, success⟩ := step
    exact .inl (recordProcessGenerationDeath_owners success)
  | supervisorLoss =>
    obtain ⟨_, success⟩ := step
    exact .inl (projectProcessGenerations_owners success)
  | other => exact absurd rfl listed

/-- A generation operation leaves sessions and plans alone. -/
theorem generationStep_sessions {host : Host} {store after : SqliteStore} {event : GenerationEvent}
    (listed : event ≠ .other) (step : GenerationStep host store event after) :
    after.runtimeSessions = store.runtimeSessions ∧
      after.continuationPlans = store.continuationPlans := by
  rcases generationStep_owners listed step with kept | ⟨_, _, _, added⟩ | ⟨_, added⟩
  · exact ⟨kept.sessions, kept.plans⟩
  · exact ⟨added.sessions, added.plans⟩
  · exact ⟨added.sessions, added.plans⟩

variable {host : Host} {packs : PackHost}

theorem threadStep_change {store after : ThreadStore} {event : ThreadEvent}
    (step : ThreadStep host packs store event after) : ThreadChange event store after := by
  cases event with
  | generation event =>
    obtain ⟨listed, next, generationStep, rfl⟩ := step
    obtain ⟨sessions, plans⟩ := generationStep_sessions listed generationStep
    refine .moved (by simp) (by simp) ?_ rfl plans
    rw [sessions]
    exact .refl _
  | admission outcome =>
    obtain ⟨_, _, _, success⟩ := step
    obtain ⟨receipts, rfl⟩ := prepareConversationProcessGeneration_frame success
    exact .moved (by simp) (by simp) (.refl _) rfl rfl
  | planInitial outcome =>
    obtain ⟨_, _, _, _, success⟩ := step
    exact .planned (by simp) (by simp) (planInitialThreadContinuation_change success)
  | plan outcome =>
    obtain ⟨_, _, _, _, _, success⟩ := step
    exact .planned (by simp) (by simp) (planContinuation_change success)
  | fence key fence outcome =>
    obtain ⟨now, success⟩ := step
    rcases fence_outcome success with ⟨readback, rfl, write⟩ | ⟨rfl, ⟨_, rfl⟩ | ⟨_, rfl, _⟩⟩
    · exact .fenced key fence readback rfl write
    · exact .moved (by simp) (by simp) (.refl _) rfl rfl
    · exact .moved (by simp) (by simp) (.refl _) rfl rfl
  | bind key binding outcome =>
    obtain ⟨now, success⟩ := step
    rcases bind_outcome success with ⟨readback, rfl, write⟩ | ⟨rfl, ⟨_, rfl⟩ | ⟨_, rfl, _⟩⟩
    · exact .bound key binding readback rfl write
    · exact .moved (by simp) (by simp) (.refl _) rfl rfl
    · exact .moved (by simp) (by simp) (.refl _) rfl rfl
  | reconcile request readback =>
    obtain ⟨_, rfl⟩ := step
    exact .moved (by simp) (by simp) (.refl _) rfl rfl
  | other => exact .moved (by simp) (by simp) step.sessions step.threads step.plans

/-- The two halves of a session row exist together; a request identity comes with the fence
columns; a binding answers the fenced request; and a plan that starts a thread agrees with
its session. -/
structure Established (store : ThreadStore) : Prop where
  paired : ∀ id, (store.sessionThreads.find? id).isSome = (store.runtimeSessions.find? id).isSome
  fenced : ∀ id row, store.runtimeSessions.find? id = some row →
    row.threadStartRequestId.isSome = (store.fenceOf id).isSome
  bound : ∀ id row, store.runtimeSessions.find? id = some row →
    row.threadStartBindingKey.isSome = true →
      (store.fenceOf id).isSome = true ∧ row.threadStartResponseId = row.threadStartRequestId
  planned : ∀ planId plan, store.continuationPlans.find? planId = some plan →
    plan.kind ≠ .sameThread → ∃ row,
      store.runtimeSessions.find? (executionSessionId plan) = some row ∧
        plan.conversationId = row.conversationId ∧ plan.selectedAccountId = row.accountId

theorem established_empty : Established ThreadStore.empty where
  paired _ := rfl
  fenced _ _ found := by cases found
  bound _ _ found := by cases found
  planned _ _ found := by cases found

/-- The half with the thread columns of a session that is there. -/
theorem Established.thread {store : ThreadStore} (inv : Established store) {id : RuntimeSessionId}
    {row : RuntimeSessionRow} (found : store.runtimeSessions.find? id = some row) :
    ∃ thread, store.sessionThreads.find? id = some thread := by
  apply Option.isSome_iff_exists.mp
  rw [inv.paired id, found]
  rfl

theorem fenceOf_of_found {store : ThreadStore} {id : RuntimeSessionId} {thread : SessionThreadRow}
    (found : store.sessionThreads.find? id = some thread) : store.fenceOf id = thread.fence := by
  simp [ThreadStore.fenceOf, found]

/-- The rows of both halves after an update of one session that is there. -/
theorem oneSession_rows {store after : ThreadStore} {id : RuntimeSessionId}
    {change : RuntimeSessionRow → RuntimeSessionRow}
    {changeThread : SessionThreadRow → SessionThreadRow} {row : RuntimeSessionRow}
    {thread : SessionThreadRow} (found : store.runtimeSessions.find? id = some row)
    (threadFound : store.sessionThreads.find? id = some thread)
    (updated : store.runtimeSessions.updateKey id change = some after.runtimeSessions)
    (threadUpdated : store.sessionThreads.updateKey id changeThread = some after.sessionThreads)
    (keeps : ∀ row, (change row).runtimeSessionId = row.runtimeSessionId)
    (keepsThread : ∀ row, (changeThread row).runtimeSessionId = row.runtimeSessionId) :
    (∀ other, after.runtimeSessions.find? other =
        if other = id then some (change row) else store.runtimeSessions.find? other) ∧
      ∀ other, after.sessionThreads.find? other =
        if other = id then some (changeThread thread) else store.sessionThreads.find? other :=
  ⟨Table.find?_updateKey_of_found updated found keeps,
    Table.find?_updateKey_of_found threadUpdated threadFound keepsThread⟩

/-- One update of a session that keeps its identity, Conversation and account keeps the
invariant when the new row and thread columns do. -/
theorem established_update {store after : ThreadStore} {id : RuntimeSessionId}
    {row row' : RuntimeSessionRow} {thread' : SessionThreadRow} (inv : Established store)
    (found : store.runtimeSessions.find? id = some row)
    (rows : ∀ other, after.runtimeSessions.find? other =
      if other = id then some row' else store.runtimeSessions.find? other)
    (threads : ∀ other, after.sessionThreads.find? other =
      if other = id then some thread' else store.sessionThreads.find? other)
    (plans : after.continuationPlans = store.continuationPlans)
    (conversation : row'.conversationId = row.conversationId)
    (account : row'.accountId = row.accountId)
    (fenced : row'.threadStartRequestId.isSome = thread'.fence.isSome)
    (bound : row'.threadStartBindingKey.isSome = true →
      thread'.fence.isSome = true ∧ row'.threadStartResponseId = row'.threadStartRequestId) :
    Established after := by
  have fence : ∀ other, after.fenceOf other =
      if other = id then thread'.fence else store.fenceOf other := by
    intro other
    unfold ThreadStore.fenceOf
    rw [threads]
    split <;> rfl
  refine ⟨fun other => ?_, fun other seen seenFound => ?_, fun other seen seenFound isBound => ?_,
    fun planId plan planFound kind => ?_⟩
  · rw [rows, threads]
    split
    · rfl
    · exact inv.paired other
  · rw [rows] at seenFound
    rw [fence]
    split at seenFound
    · rename_i here
      cases seenFound
      rw [if_pos here]
      exact fenced
    · rename_i elsewhere
      rw [if_neg elsewhere]
      exact inv.fenced other seen seenFound
  · rw [rows] at seenFound
    rw [fence]
    split at seenFound
    · rename_i here
      cases seenFound
      rw [if_pos here]
      exact bound isBound
    · rename_i elsewhere
      rw [if_neg elsewhere]
      exact inv.bound other seen seenFound isBound
  · rw [plans] at planFound
    obtain ⟨session, sessionFound, sameConversation, sameAccount⟩ :=
      inv.planned planId plan planFound kind
    rw [rows]
    by_cases here : executionSessionId plan = id
    · rw [here, found] at sessionFound
      cases sessionFound
      exact ⟨row', by rw [if_pos here], sameConversation.trans conversation.symm,
        sameAccount.trans account.symm⟩
    · exact ⟨session, by rw [if_neg here]; exact sessionFound, sameConversation, sameAccount⟩

theorem established_moved {store after : ThreadStore} (inv : Established store)
    (sessions : SessionsMoved store.runtimeSessions after.runtimeSessions)
    (threads : after.sessionThreads = store.sessionThreads)
    (plans : after.continuationPlans = store.continuationPlans) : Established after := by
  have fence : ∀ id, after.fenceOf id = store.fenceOf id := by
    intro id
    unfold ThreadStore.fenceOf
    rw [threads]
  -- A session that is there afterwards was there before.
  have back : ∀ id row', after.runtimeSessions.find? id = some row' → ∃ row,
      store.runtimeSessions.find? id = some row ∧ SessionMove row row' := by
    intro id row' found
    cases before : store.runtimeSessions.find? id with
    | none =>
      rw [sessions.absent id before] at found
      cases found
    | some row =>
      obtain ⟨next, nextFound, move⟩ := sessions.moves id row before
      rw [found] at nextFound
      cases nextFound
      exact ⟨row, rfl, move⟩
  refine ⟨fun id => ?_, fun id row' found => ?_, fun id row' found isBound => ?_,
    fun planId plan planFound kind => ?_⟩
  · rw [threads, inv.paired id]
    cases before : store.runtimeSessions.find? id with
    | none => rw [sessions.absent id before]
    | some row =>
      obtain ⟨next, nextFound, _⟩ := sessions.moves id row before
      rw [nextFound]
      rfl
  · obtain ⟨row, rowFound, move⟩ := back id row' found
    rw [fence, move.columns.request]
    exact inv.fenced id row rowFound
  · obtain ⟨row, rowFound, move⟩ := back id row' found
    have columns := move.columns
    rw [columns.binding] at isBound
    rw [fence, columns.response, columns.request]
    exact inv.bound id row rowFound isBound
  · rw [plans] at planFound
    obtain ⟨row, rowFound, sameConversation, sameAccount⟩ := inv.planned planId plan planFound kind
    obtain ⟨next, nextFound, move⟩ := sessions.moves _ row rowFound
    exact ⟨next, nextFound, sameConversation.trans move.columns.conversation.symm,
      sameAccount.trans move.columns.account.symm⟩

/-- A session that opens with its plan. -/
theorem established_opened {store after : ThreadStore} {row : RuntimeSessionRow}
    {thread : SessionThreadRow} {plan : ContinuationPlanRow} (inv : Established store)
    (inserted : store.runtimeSessions.insert row = some after.runtimeSessions)
    (threaded : store.sessionThreads.insert thread = some after.sessionThreads)
    (planned : store.continuationPlans.insert plan = some after.continuationPlans)
    (starts : PlanStarts plan row) (unfenced : Unfenced row ∧ thread.fence = none)
    (same : thread.runtimeSessionId = row.runtimeSessionId) : Established after := by
  have rows := Table.find?_insert inserted
  have threads := Table.find?_insert threaded
  have plans := Table.find?_insert planned
  have rowKey : runtimeSessions.key row = row.runtimeSessionId := rfl
  simp only [sessionThreads_key, same, rowKey] at rows threads
  have fence : ∀ id, after.fenceOf id =
      if row.runtimeSessionId = id then none else store.fenceOf id := by
    intro id
    unfold ThreadStore.fenceOf
    rw [threads]
    split
    · exact unfenced.2
    · rfl
  refine ⟨fun id => ?_, fun id seen found => ?_, fun id seen found isBound => ?_,
    fun planId seen found kind => ?_⟩
  · rw [rows, threads]
    split
    · rfl
    · exact inv.paired id
  · rw [rows] at found
    rw [fence]
    split at found
    · rename_i here
      cases found
      rw [if_pos here, unfenced.1.request]
      rfl
    · rename_i elsewhere
      rw [if_neg elsewhere]
      exact inv.fenced id seen found
  · rw [rows] at found
    rw [fence]
    split at found
    · cases found
      rw [unfenced.1.binding] at isBound
      cases isBound
    · rename_i elsewhere
      rw [if_neg elsewhere]
      exact inv.bound id seen found isBound
  · rw [plans] at found
    split at found
    · cases found
      refine ⟨row, ?_, starts.2.1, starts.2.2⟩
      rw [rows, if_pos]
      simp [executionSessionId, starts.1]
    · obtain ⟨session, sessionFound, agrees⟩ := inv.planned planId seen found kind
      refine ⟨session, ?_, agrees⟩
      have fresh := Table.insert_fresh inserted
      rw [rows, if_neg]
      · exact sessionFound
      · intro here
        rw [rowKey, here, sessionFound] at fresh
        cases fresh

theorem established_change {store after : ThreadStore} {event : ThreadEvent}
    (inv : Established store) (change : ThreadChange event store after) : Established after := by
  cases change with
  | moved _ _ sessions threads plans => exact established_moved inv sessions threads plans
  | planned _ _ change =>
    cases change with
    | kept same =>
      rw [same]
      exact inv
    | sameThread plan kind planned sessions threads =>
      refine ⟨fun id => ?_, fun id row found => ?_, fun id row found isBound => ?_,
        fun planId seen found seenKind => ?_⟩
      · rw [sessions, threads]
        exact inv.paired id
      · rw [sessions] at found
        simpa only [ThreadStore.fenceOf, threads] using inv.fenced id row found
      · rw [sessions] at found
        simpa only [ThreadStore.fenceOf, threads] using inv.bound id row found isBound
      · rw [Table.find?_insert planned] at found
        rw [sessions]
        split at found
        · cases found
          exact absurd kind seenKind
        · exact inv.planned planId seen found seenKind
    | opened middle row thread plan moved inserted threaded planned starts unfenced same =>
      have ended : Established { store with runtimeSessions := middle } :=
        established_moved inv moved rfl rfl
      exact established_opened ended inserted threaded planned starts unfenced same
  | fenced key fence readback named write =>
    obtain ⟨decision, account, row, now, _, starting, _, updated, threadUpdated⟩ := write.wrote
    obtain ⟨found, _, _⟩ := startingSession_eq_some starting
    obtain ⟨thread, threadFound⟩ := inv.thread found
    obtain ⟨rows, threads⟩ := oneSession_rows found threadFound updated threadUpdated
      (fun _ => rfl) (fun _ => rfl)
    refine established_update inv found rows threads write.rest.plans rfl rfl rfl fun isBound => ?_
    -- The session was unfenced, so it cannot have been bound.
    have unfenced := (inv.bound _ row found isBound).1
    rw [write.unfenced] at unfenced
    cases unfenced
  | bound key binding readback named write =>
    obtain ⟨fence, row, now, read, matched, starting, _, updated, threadUpdated⟩ := write.wrote
    obtain ⟨found, _, _⟩ := startingSession_eq_some starting
    obtain ⟨thread, threadFound⟩ := inv.thread found
    obtain ⟨rows, threads⟩ := oneSession_rows found threadFound updated threadUpdated
      (fun _ => rfl) (fun _ => rfl)
    have fenced := inv.fenced _ row found
    rw [fenceOf_of_found threadFound] at fenced
    refine established_update inv found rows threads write.rest.plans rfl rfl fenced fun _ => ?_
    obtain ⟨session, fenceColumns, _, requestId, sessionFound, fenceFound, _, requested, rfl⟩ :=
      readThreadFence_ok read
    rw [found] at sessionFound
    cases sessionFound
    rw [fenceOf_of_found threadFound] at fenceFound
    refine ⟨by simp [fenceFound], ?_⟩
    show some binding.successfulResponse.responseId = row.threadStartRequestId
    rw [write.response, (bindingMatchesFence_named matched).request, requested]
    rfl

theorem threadStep_established {store after : ThreadStore} {event : ThreadEvent}
    (step : ThreadStep host packs store event after) (inv : Established store) :
    Established after :=
  established_change inv (threadStep_change step)

theorem established_of_run {events : List ThreadEvent} {store after : ThreadStore}
    (run : Run (ThreadStep host packs) store events after) (inv : Established store) :
    Established after :=
  Run.invariant (fun _ _ _ step held => threadStep_established step held) run inv

/-- What one operation does to a session that is there. -/
inductive SessionEffect (id : RuntimeSessionId) (event : ThreadEvent) (row : RuntimeSessionRow)
    (thread : SessionThreadRow) : RuntimeSessionRow → SessionThreadRow → Prop
  | moved (row' : RuntimeSessionRow) (move : SessionMove row row')
      (elsewhere : ∀ key binding readback,
        event = .bind key binding (.applied readback) → binding.runtimeSessionId ≠ id) :
      SessionEffect id event row thread row' thread
  | fenced (key routingDecisionId : String) (fence : FenceRuntimeSessionThreadStart) (now : Int)
      (unfenced : thread.fence = none) :
      SessionEffect id event row thread (fencedRow fence now row)
        { thread with fence := some (fenceColumns key routingDecisionId fence) }
  | bound (key : String) (binding : BindRuntimeSessionThread) (now : Int)
      (unbound : row.threadStartBindingKey = none)
      (revision : row.revision = binding.expectedRevision) :
      SessionEffect id event row thread (boundRow key binding now row)
        { thread with responseSha256 := some binding.successfulResponse.responseSha256 }

theorem planChange_session {store after : ThreadStore} (change : PlanChange store after)
    {id : RuntimeSessionId} {row : RuntimeSessionRow} {thread : SessionThreadRow}
    (found : store.runtimeSessions.find? id = some row)
    (threadFound : store.sessionThreads.find? id = some thread) :
    ∃ row', after.runtimeSessions.find? id = some row' ∧
      after.sessionThreads.find? id = some thread ∧ SessionMove row row' := by
  cases change with
  | kept same =>
    rw [same]
    exact ⟨row, found, threadFound, .kept⟩
  | sameThread plan kind planned sessions threads =>
    rw [sessions, threads]
    exact ⟨row, found, threadFound, .kept⟩
  | opened middle new newThread plan moved inserted threaded planned starts unfenced same =>
    obtain ⟨next, nextFound, move⟩ := moved.moves id row found
    exact ⟨next, Table.grows_insert inserted id next nextFound,
      Table.grows_insert threaded id thread threadFound, move⟩

theorem threadChange_session {store after : ThreadStore} {event : ThreadEvent}
    (change : ThreadChange event store after) {id : RuntimeSessionId} {row : RuntimeSessionRow}
    {thread : SessionThreadRow} (found : store.runtimeSessions.find? id = some row)
    (threadFound : store.sessionThreads.find? id = some thread) :
    ∃ row' thread', after.runtimeSessions.find? id = some row' ∧
      after.sessionThreads.find? id = some thread' ∧
      SessionEffect id event row thread row' thread' := by
  cases change with
  | moved unbinding _ sessions threads _ =>
    obtain ⟨row', found', move⟩ := sessions.moves id row found
    exact ⟨row', thread, found', by rw [threads]; exact threadFound,
      .moved row' move fun key binding readback named =>
        absurd named (unbinding key binding readback)⟩
  | planned unbinding _ change =>
    obtain ⟨row', found', threadFound', move⟩ := planChange_session change found threadFound
    exact ⟨row', thread, found', threadFound', .moved row' move fun key binding readback named =>
      absurd named (unbinding key binding readback)⟩
  | fenced key fence readback named write =>
    obtain ⟨decision, account, current, now, _, starting, _, updated, threadUpdated⟩ :=
      write.wrote
    by_cases here : fence.runtimeSessionId = id
    · subst here
      obtain ⟨rows, threads⟩ := oneSession_rows found threadFound updated threadUpdated
        (fun _ => rfl) (fun _ => rfl)
      refine ⟨_, _, by rw [rows, if_pos rfl], by rw [threads, if_pos rfl],
        .fenced key decision fence now ?_⟩
      rw [← fenceOf_of_found threadFound]
      exact write.unfenced
    · have rows := Table.find?_updateKey updated (fun _ => rfl) id
      have threads := Table.find?_updateKey threadUpdated (fun _ => rfl) id
      rw [if_neg (Ne.symm here)] at rows threads
      exact ⟨row, thread, rows.trans found, threads.trans threadFound, .moved row .kept (by
        rw [named]
        simp)⟩
  | bound key binding readback named write =>
    obtain ⟨fence, current, now, _, _, starting, _, updated, threadUpdated⟩ := write.wrote
    obtain ⟨currentFound, revision, _⟩ := startingSession_eq_some starting
    by_cases here : binding.runtimeSessionId = id
    · subst here
      rw [found] at currentFound
      cases currentFound
      obtain ⟨rows, threads⟩ := oneSession_rows found threadFound updated threadUpdated
        (fun _ => rfl) (fun _ => rfl)
      refine ⟨_, _, by rw [rows, if_pos rfl], by rw [threads, if_pos rfl],
        .bound key binding now ?_ revision⟩
      have unbound := write.unbound
      rwa [ThreadStore.bindingKeyOf, found, Option.bind_some] at unbound
    · have rows := Table.find?_updateKey updated (fun _ => rfl) id
      have threads := Table.find?_updateKey threadUpdated (fun _ => rfl) id
      rw [if_neg (Ne.symm here)] at rows threads
      refine ⟨row, thread, rows.trans found, threads.trans threadFound, .moved row .kept ?_⟩
      intro otherKey other otherReadback otherNamed
      rw [named] at otherNamed
      cases otherNamed
      exact here

/-- Once set, the fence columns and then the binding columns stay as they are. -/
structure ThreadColumnsKept (row : RuntimeSessionRow) (thread : SessionThreadRow)
    (row' : RuntimeSessionRow) (thread' : SessionThreadRow) : Prop where
  fence : ∀ fence, thread.fence = some fence →
    thread'.fence = some fence ∧ row'.threadStartRequestId = row.threadStartRequestId
  binding : ∀ key, row.threadStartBindingKey = some key →
    row'.threadStartBindingKey = some key ∧
      row'.threadStartResponseId = row.threadStartResponseId ∧
      thread'.responseSha256 = thread.responseSha256 ∧ row'.codexThreadId = row.codexThreadId

theorem SessionEffect.columnsKept {id : RuntimeSessionId} {event : ThreadEvent}
    {row row' : RuntimeSessionRow} {thread thread' : SessionThreadRow}
    (effect : SessionEffect id event row thread row' thread') :
    ThreadColumnsKept row thread row' thread' := by
  cases effect with
  | moved row' move elsewhere =>
    have columns := move.columns
    refine ⟨fun fence set => ⟨set, columns.request⟩, fun key set => ?_⟩
    exact ⟨columns.binding.trans set, columns.response, rfl, columns.thread⟩
  | fenced key decision fence now unfenced =>
    refine ⟨fun fence set => ?_, fun key set => ⟨set, rfl, rfl, rfl⟩⟩
    rw [unfenced] at set
    cases set
  | bound key binding now unbound revision =>
    refine ⟨fun fence set => ⟨set, rfl⟩, fun key set => ?_⟩
    rw [unbound] at set
    cases set

/-- Every session of the first store is in the second with the columns it had set. -/
def ColumnsKept (before after : ThreadStore) : Prop :=
  ∀ id row thread, before.runtimeSessions.find? id = some row →
    before.sessionThreads.find? id = some thread →
    ∃ row' thread', after.runtimeSessions.find? id = some row' ∧
      after.sessionThreads.find? id = some thread' ∧ ThreadColumnsKept row thread row' thread'

theorem columnsKept_of_run {events : List ThreadEvent} {store after : ThreadStore}
    (run : Run (ThreadStep host packs) store events after) : ColumnsKept store after := by
  apply Run.relates (R := ColumnsKept) _ _ _ run
  · intro s id row thread found threadFound
    exact ⟨row, thread, found, threadFound, fun _ set => ⟨set, rfl⟩,
      fun _ set => ⟨set, rfl, rfl, rfl⟩⟩
  · intro s m t first second id row thread found threadFound
    obtain ⟨row', thread', found', threadFound', one⟩ := first id row thread found threadFound
    obtain ⟨row'', thread'', found'', threadFound'', two⟩ := second id row' thread' found'
      threadFound'
    refine ⟨row'', thread'', found'', threadFound'', fun fence set => ?_, fun key set => ?_⟩
    · obtain ⟨kept, request⟩ := one.fence fence set
      obtain ⟨kept', request'⟩ := two.fence fence kept
      exact ⟨kept', request'.trans request⟩
    · obtain ⟨kept, response, sha, codex⟩ := one.binding key set
      obtain ⟨kept', response', sha', codex'⟩ := two.binding key kept
      exact ⟨kept', response'.trans response, sha'.trans sha, codex'.trans codex⟩
  · intro s event t step id row thread found threadFound
    obtain ⟨row', thread', found', threadFound', effect⟩ :=
      threadChange_session (threadStep_change step) found threadFound
    exact ⟨row', thread', found', threadFound', effect.columnsKept⟩

end Decodex.Guarantees.ThreadStarts
