import Decodex.Guarantees.ThreadColumns

/-!
# A thread starts once

Over every run of the thread operations from an empty store: a session is fenced at most once
and its fence and binding stay and replay as they were; a proof that a thread was never
started holds for good when it rests on a death, and until its generation is prepared when it
rests on an admission.
-/
namespace Decodex.Guarantees.ThreadStarts

open Decodex.Library
open Decodex.Source.Core Decodex.Source.Store Decodex.Source.Store.ThreadStarts
open Decodex.Source.Store.ContinuationPlans
open Decodex.Source.Store.ProcessGenerations
open Decodex.Guarantees.Samples Decodex.Guarantees.ProcessGenerations

variable {host : Host} {packs : PackHost}

/-- A fenced session of an established store: the columns are there to stay. -/
def Closed (id : RuntimeSessionId) (store : ThreadStore) : Prop :=
  Established store ∧ (store.fenceOf id).isSome = true

theorem closed_of_columnsKept {id : RuntimeSessionId} {store after : ThreadStore}
    (kept : ColumnsKept store after) (inv : Established after)
    (closed : Closed id store) : Closed id after := by
  obtain ⟨before, fenced⟩ := closed
  refine ⟨inv, ?_⟩
  obtain ⟨fence, set⟩ := Option.isSome_iff_exists.mp fenced
  obtain ⟨thread, threadFound, set⟩ := Option.bind_eq_some_iff.mp set
  have paired := before.paired id
  rw [threadFound] at paired
  obtain ⟨row, found⟩ := Option.isSome_iff_exists.mp paired.symm
  obtain ⟨row', thread', _, threadFound', columns⟩ := kept id row thread found threadFound
  rw [fenceOf_of_found threadFound', (columns.fence fence set).1]
  rfl

theorem freshFence_of_hit {id : RuntimeSessionId} {event : ThreadEvent}
    (hit : freshFenceOf id event = true) :
    ∃ key fence readback, event = .fence key fence (.fresh readback) ∧
      fence.runtimeSessionId = id := by
  unfold freshFenceOf at hit
  split at hit
  · rename_i key fence readback
    exact ⟨key, fence, readback, rfl, by simpa using hit⟩
  · cases hit

/-- What a fresh outcome says about the step it came from. -/
theorem freshStep_write {store after : ThreadStore} {key : String}
    {fence : FenceRuntimeSessionThreadStart} {readback : RuntimeSessionThreadFenceReadback}
    (step : ThreadStep host packs store (.fence key fence (.fresh readback)) after) :
    FenceWrite key fence readback store after := by
  obtain ⟨now, success⟩ := step
  rcases fence_outcome success with ⟨_, same, write⟩ | ⟨_, ⟨_, differs⟩ | ⟨_, differs, _⟩⟩
  · cases same
    exact write
  · cases differs
  · cases differs

/-- The rows a fresh fence leaves. -/
theorem freshFence_rows {store after : ThreadStore} {key : String}
    {fence : FenceRuntimeSessionThreadStart} {readback : RuntimeSessionThreadFenceReadback}
    (inv : Established store) (write : FenceWrite key fence readback store after) :
    ∃ routingDecisionId selectedAccountId row now,
      threadFenceAuthority store fence = some (routingDecisionId, selectedAccountId) ∧
      store.runtimeSessions.find? fence.runtimeSessionId = some row ∧
      row.threadStartBindingKey = none ∧
      after.runtimeSessions.find? fence.runtimeSessionId = some (fencedRow fence now row) ∧
      after.fenceOf fence.runtimeSessionId = some (fenceColumns key routingDecisionId fence) ∧
      readback = freshFence key routingDecisionId selectedAccountId (fence.expectedRevision + 1)
        fence := by
  obtain ⟨decision, account, row, now, authority, starting, same, updated, threadUpdated⟩ :=
    write.wrote
  obtain ⟨found, _, _⟩ := startingSession_eq_some starting
  obtain ⟨thread, threadFound⟩ := inv.thread found
  obtain ⟨rows, threads⟩ := oneSession_rows found threadFound updated threadUpdated
    (fun _ => rfl) (fun _ => rfl)
  have unbound : row.threadStartBindingKey = none := by
    by_contra isBound
    have fenced := (inv.bound _ row found (Option.isSome_iff_ne_none.mpr isBound)).1
    rw [write.unfenced] at fenced
    cases fenced
  refine ⟨decision, account, row, now, authority, found, unbound, by rw [rows, if_pos rfl], ?_,
    same⟩
  unfold ThreadStore.fenceOf
  rw [threads, if_pos rfl]
  rfl

theorem fresh_at_most_once {events : List ThreadEvent} {store : ThreadStore}
    (run : Run (ThreadStep host packs) ThreadStore.empty events store) (id : RuntimeSessionId) :
    events.countP (freshFenceOf id) ≤ 1 := by
  have invRun : Run (fun s event t => ThreadStep host packs s event t ∧ Established s)
      ThreadStore.empty events store :=
    Run.strengthen (fun _ _ _ step held => threadStep_established step held) run established_empty
  refine Run.countP_le_one (?_ : ∀ s event t, _ → Closed id s → Closed id t) ?_ ?_ invRun
  · intro s event t step closed
    exact closed_of_columnsKept (columnsKept_of_run (.single step.1))
      (threadStep_established step.1 step.2) closed
  · intro s event t step hit closed
    obtain ⟨key, fence, readback, rfl, rfl⟩ := freshFence_of_hit hit
    have unfenced := (freshStep_write step.1).unfenced
    have fenced := closed.2
    rw [unfenced] at fenced
    cases fenced
  · intro s event t step hit
    obtain ⟨key, fence, readback, rfl, rfl⟩ := freshFence_of_hit hit
    obtain ⟨_, _, _, _, _, _, _, _, fenced, _⟩ :=
      freshFence_rows step.2 (freshStep_write step.1)
    exact ⟨threadStep_established step.1 step.2, by rw [fenced]; rfl⟩

/-- No operation but a binding of the session changed its revision, and none the revision of
its Conversation. -/
structure Undisturbed (id : RuntimeSessionId) (store : ThreadStore) (event : ThreadEvent)
    (after : ThreadStore) : Prop where
  session : ∀ row row', store.runtimeSessions.find? id = some row →
    after.runtimeSessions.find? id = some row' → row'.revision = row.revision ∨
      ∃ key binding readback, event = .bind key binding (.applied readback) ∧
        binding.runtimeSessionId = id
  conversation : ∀ row, store.runtimeSessions.find? id = some row →
    (after.conversations.find? row.conversationId).map (·.revision)
      = (store.conversations.find? row.conversationId).map (·.revision)

/-- The steps of an undisturbed stretch. -/
def UndisturbedStep (host : Host) (packs : PackHost) (id : RuntimeSessionId) (store : ThreadStore)
    (event : ThreadEvent) (after : ThreadStore) : Prop :=
  ThreadStep host packs store event after ∧ Undisturbed id store event after

/-- A session that moved without a newer revision is as it was. -/
theorem sessionMove_eq_of_revision {row row' : RuntimeSessionRow} (move : SessionMove row row')
    (same : row'.revision = row.revision) : row' = row := by
  cases move with
  | kept => rfl
  | moved state last acknowledged revision updated ended newer =>
    simp only at same
    omega

/-- An undisturbed step leaves the session as it is, or binds it. -/
theorem undisturbed_effect {id : RuntimeSessionId} {event : ThreadEvent}
    {store after : ThreadStore} {row row' : RuntimeSessionRow}
    {thread thread' : SessionThreadRow} (kept : Undisturbed id store event after)
    (found : store.runtimeSessions.find? id = some row)
    (found' : after.runtimeSessions.find? id = some row')
    (effect : SessionEffect id event row thread row' thread') (fenced : thread.fence.isSome = true) :
    (row' = row ∧ thread' = thread) ∨ ∃ key binding now,
      row' = boundRow key binding now row ∧ row.threadStartBindingKey = none ∧
        row.revision = binding.expectedRevision ∧ thread'.fence = thread.fence := by
  cases effect with
  | moved row' move elsewhere =>
    rcases kept.session row row' found found' with same | ⟨key, binding, readback, named, here⟩
    · exact .inl ⟨sessionMove_eq_of_revision move same, rfl⟩
    · exact absurd here (elsewhere key binding readback named)
  | fenced key decision fence now unfenced =>
    rw [unfenced] at fenced
    cases fenced
  | bound key binding now unbound revision =>
    exact .inr ⟨key, binding, now, rfl, unbound, revision, rfl⟩

/-- The Conversation of an undisturbed session keeps its revision. -/
theorem undisturbed_conversation {id : RuntimeSessionId} {event : ThreadEvent}
    {store after : ThreadStore} {row : RuntimeSessionRow} {conversation : ConversationRow}
    (kept : Undisturbed id store event after)
    (found : store.runtimeSessions.find? id = some row)
    (conversationFound : store.conversations.find? row.conversationId = some conversation) :
    ∃ conversation', after.conversations.find? row.conversationId = some conversation' ∧
      conversation'.revision = conversation.revision := by
  have same := kept.conversation row found
  rw [conversationFound, Option.map_some, Option.map_eq_some_iff] at same
  exact same

/-- Binding adds one to the revision that the reader of the fence takes off again. -/
theorem fenceReadback_bound {row : RuntimeSessionRow} {key : String}
    {binding : BindRuntimeSessionThread} {now : Int} {fence : ThreadStartFence}
    {conversationRevision requestId : Int} (unbound : row.threadStartBindingKey = none)
    (revision : row.revision = binding.expectedRevision) :
    fenceReadback (boundRow key binding now row) fence conversationRevision requestId
      = fenceReadback row fence conversationRevision requestId := by
  unfold fenceReadback boundRow
  simp [unbound, revision]

theorem undisturbed_fence {id : RuntimeSessionId} {event : ThreadEvent}
    {store after : ThreadStore} {readback : RuntimeSessionThreadFenceReadback}
    (inv : Established store) (step : UndisturbedStep host packs id store event after)
    (read : readThreadFence store id = .ok readback) :
    readThreadFence after id = .ok readback := by
  obtain ⟨row, fence, conversation, requestId, found, fenced, conversationFound, requested, rfl⟩ :=
    readThreadFence_ok read
  obtain ⟨thread, threadFound⟩ := inv.thread found
  rw [fenceOf_of_found threadFound] at fenced
  obtain ⟨row', thread', found', threadFound', effect⟩ :=
    threadChange_session (threadStep_change step.1) found threadFound
  obtain ⟨conversation', conversationFound', sameRevision⟩ :=
    undisturbed_conversation step.2 found conversationFound
  rcases undisturbed_effect step.2 found found' effect (by simp [fenced]) with
    ⟨rfl, rfl⟩ | ⟨key, binding, now, rfl, unbound, revision, sameFence⟩
  · rw [readThreadFence_of found' ((fenceOf_of_found threadFound').trans fenced)
      conversationFound' requested, sameRevision]
  · have fenced' := (fenceOf_of_found threadFound').trans (sameFence.trans fenced)
    rw [readThreadFence_of found' fenced' conversationFound' requested, sameRevision,
      fenceReadback_bound unbound revision]

theorem undisturbed_binding {id : RuntimeSessionId} {event : ThreadEvent}
    {store after : ThreadStore} {readback : RuntimeSessionThreadBindingReadback}
    (inv : Established store) (step : UndisturbedStep host packs id store event after)
    (read : readThreadBinding store id = .ok readback) :
    readThreadBinding after id = .ok readback := by
  obtain ⟨fence, row, key, responseId, sha, codex, fenceRead, found, active, keyed, answered, hashed,
    threaded, rfl⟩ := readThreadBinding_ok read
  have fenceRead' := undisturbed_fence inv step fenceRead
  obtain ⟨thread, threadFound⟩ := inv.thread found
  have fenced := (inv.bound id row found (by simp [keyed])).1
  rw [fenceOf_of_found threadFound] at fenced
  obtain ⟨row', thread', found', threadFound', effect⟩ :=
    threadChange_session (threadStep_change step.1) found threadFound
  rcases undisturbed_effect step.2 found found' effect fenced with
    ⟨rfl, rfl⟩ | ⟨_, _, _, _, unbound, _⟩
  · refine readThreadBinding_of fenceRead' found' active keyed answered ?_ threaded
    rw [← hashed, ThreadStore.responseShaOf, ThreadStore.responseShaOf, threadFound, threadFound']
  · rw [keyed] at unbound
    cases unbound

/-- What an undisturbed stretch reads at its end. -/
theorem undisturbed_run {id : RuntimeSessionId} {events : List ThreadEvent}
    {store after : ThreadStore} (inv : Established store)
    (run : Run (UndisturbedStep host packs id) store events after) :
    (∀ readback, readThreadFence store id = .ok readback →
        readThreadFence after id = .ok readback) ∧
      ∀ readback, readThreadBinding store id = .ok readback →
        readThreadBinding after id = .ok readback := by
  induction run with
  | nil => exact ⟨fun _ read => read, fun _ read => read⟩
  | cons first rest ih =>
    obtain ⟨fences, bindings⟩ := ih (threadStep_established first.1 inv)
    exact ⟨fun readback read => fences readback (undisturbed_fence inv first read),
      fun readback read => bindings readback (undisturbed_binding inv first read)⟩

/-- A fresh fence returned what its session reads from then on. -/
theorem freshFence_read {store after : ThreadStore} {key : String}
    {fence : FenceRuntimeSessionThreadStart} {readback : RuntimeSessionThreadFenceReadback}
    (inv : Established store) (write : FenceWrite key fence readback store after) :
    readThreadFence after fence.runtimeSessionId = .ok readback := by
  obtain ⟨decision, account, row, now, authority, found, unbound, found', fenced', rfl⟩ :=
    freshFence_rows inv write
  obtain ⟨plan, session, conversation, process, planFound, sessionFound, conversationFound, _,
    planConversation, planSession, kind, planAccount, revision, _, _⟩ :=
    threadFenceAuthority_eq_some authority
  obtain ⟨planned, plannedFound, sameConversation, sameAccount⟩ :=
    inv.planned _ plan planFound kind
  rw [planSession, found] at plannedFound
  cases plannedFound
  have rowConversation : row.conversationId = fence.conversationId :=
    sameConversation.symm.trans planConversation
  have rowId : row.runtimeSessionId = fence.runtimeSessionId := Table.key_of_find? found
  have conversationFound' : after.conversations.find? (fencedRow fence now row).conversationId
      = some conversation := by
    rw [write.rest.conversations]
    show store.conversations.find? row.conversationId = some conversation
    rw [rowConversation]
    exact conversationFound
  rw [readThreadFence_of found' fenced' conversationFound' rfl]
  simp [fenceReadback, fencedRow, fenceColumns, freshFence, unbound, rowConversation, revision,
    rowId, ← planAccount, sameAccount, write.turnRevision]

/-- An applied binding returned what its session reads from then on. -/
theorem appliedBinding_read {store after : ThreadStore} {key : String}
    {binding : BindRuntimeSessionThread} {readback : RuntimeSessionThreadBindingReadback}
    (inv : Established store) (write : BindingWrite key binding readback store after) :
    readThreadBinding after binding.runtimeSessionId = .ok readback := by
  obtain ⟨fence, row, now, read, matched, starting, rfl, updated, threadUpdated⟩ := write.wrote
  obtain ⟨found, revision, _⟩ := startingSession_eq_some starting
  obtain ⟨thread, threadFound⟩ := inv.thread found
  obtain ⟨rows, threads⟩ := oneSession_rows found threadFound updated threadUpdated
    (fun _ => rfl) (fun _ => rfl)
  have found' := rows binding.runtimeSessionId
  have threadFound' := threads binding.runtimeSessionId
  rw [if_pos rfl] at found' threadFound'
  have unbound : row.threadStartBindingKey = none := by
    have unbound := write.unbound
    rwa [ThreadStore.bindingKeyOf, found, Option.bind_some] at unbound
  -- The fence reads as it did: the binding's increment is taken off.
  have fenceRead : readThreadFence after binding.runtimeSessionId = .ok fence := by
    obtain ⟨session, columns, conversation, requestId, sessionFound, fenced, conversationFound,
      requested, rfl⟩ := readThreadFence_ok read
    rw [found] at sessionFound
    cases sessionFound
    rw [fenceOf_of_found threadFound] at fenced
    have conversationFound' : after.conversations.find? (boundRow key binding now row).conversationId
        = some conversation := by
      rw [write.rest.conversations]
      exact conversationFound
    rw [readThreadFence_of found' ((fenceOf_of_found threadFound').trans fenced)
      conversationFound' requested, fenceReadback_bound unbound revision]
  have hashed : after.responseShaOf binding.runtimeSessionId
      = some binding.successfulResponse.responseSha256 := by
    unfold ThreadStore.responseShaOf
    rw [threadFound', Option.bind_some]
  rw [readThreadBinding_of fenceRead found' rfl rfl rfl hashed rfl]
  have named := bindingMatchesFence_named matched
  have rowId : row.runtimeSessionId = binding.runtimeSessionId := Table.key_of_find? found
  simp [bindingReadback, freshBinding, boundRow, named.conversation, named.conversationRevision,
    rowId, named.revision, named.turn, named.turnRevision, named.plan, named.key, named.request,
    named.requestSha]

/-- The same fence, asked again where the readback still stands, is replayed. -/
theorem fence_again {store : ThreadStore} {key : String} {fence : FenceRuntimeSessionThreadStart}
    {readback : RuntimeSessionThreadFenceReadback} (valid : validateFence host key fence = .ok ())
    (named : readback.fenceIdempotencyKey = key) (matched : fenceMatches readback fence = true)
    (read : readThreadFence store fence.runtimeSessionId = .ok readback) (now : Int) :
    fenceRuntimeSessionThreadStart host key fence now store = .ok (.replayed readback, store) := by
  obtain ⟨_, columns, _, _, _, fenced, _, _, same⟩ := readThreadFence_ok read
  have keyed : columns.fenceKey = key := by
    rw [← named, same]
    rfl
  unfold fenceRuntimeSessionThreadStart
  rw [valid, ok_bind, fenced]
  simp only [replayFence, read, ok_bind, keyed, matched, and_self, if_true]

theorem bind_again {store : ThreadStore} {key : String} {binding : BindRuntimeSessionThread}
    {readback : RuntimeSessionThreadBindingReadback}
    (valid : validateBinding host key binding = .ok ())
    (named : readback.bindingIdempotencyKey = key)
    (matched : bindingMatches readback binding = true)
    (read : readThreadBinding store binding.runtimeSessionId = .ok readback) (now : Int) :
    bindRuntimeSessionThread host key binding now store = .ok (.replayed readback, store) := by
  obtain ⟨_, row, existing, _, _, _, _, found, _, keyed, _, _, _, same⟩ :=
    readThreadBinding_ok read
  have sameKey : existing = key := by
    rw [← named, same]
    rfl
  have bound : store.bindingKeyOf binding.runtimeSessionId = some key := by
    rw [ThreadStore.bindingKeyOf, found, Option.bind_some, keyed, sameKey]
  unfold bindRuntimeSessionThread
  rw [valid, ok_bind, bound]
  simp only [replayBinding, read, ok_bind, matched, and_self, if_true]

theorem freshFence_matches (key decision : String) (account : AccountId)
    (fence : FenceRuntimeSessionThreadStart) :
    fenceMatches (freshFence key decision account (fence.expectedRevision + 1) fence) fence
      = true := by
  simp [fenceMatches, freshFence]

theorem freshBinding_matches (key : String) (fence : RuntimeSessionThreadFenceReadback)
    (binding : BindRuntimeSessionThread) :
    bindingMatches (freshBinding key (binding.expectedRevision + 1) fence binding) binding
      = true := by
  simp [bindingMatches, freshBinding]

/-- A fresh fence passed its checks. -/
theorem freshStep_valid {store after : ThreadStore} {key : String}
    {fence : FenceRuntimeSessionThreadStart} {outcome : FenceRuntimeSessionThreadStartOutcome}
    (step : ThreadStep host packs store (.fence key fence outcome) after) :
    validateFence host key fence = .ok () := by
  obtain ⟨_, success⟩ := step
  obtain ⟨_, valid, _⟩ := bind_ok success
  exact valid

theorem bindStep_valid {store after : ThreadStore} {key : String}
    {binding : BindRuntimeSessionThread} {outcome : BindRuntimeSessionThreadOutcome}
    (step : ThreadStep host packs store (.bind key binding outcome) after) :
    validateBinding host key binding = .ok () := by
  obtain ⟨_, success⟩ := step
  obtain ⟨_, valid, _⟩ := bind_ok success
  exact valid

theorem appliedStep_write {store after : ThreadStore} {key : String}
    {binding : BindRuntimeSessionThread} {readback : RuntimeSessionThreadBindingReadback}
    (step : ThreadStep host packs store (.bind key binding (.applied readback)) after) :
    BindingWrite key binding readback store after := by
  obtain ⟨now, success⟩ := step
  rcases bind_outcome success with ⟨_, same, write⟩ | ⟨_, ⟨_, differs⟩ | ⟨_, differs, _⟩⟩
  · cases same
    exact write
  · cases differs
  · cases differs

/-- What replays of one fence return: the original readback, and the same request does. -/
structure ReplaysFence (host : Host) (packs : PackHost) (key : String)
    (fence : FenceRuntimeSessionThreadStart) (original : RuntimeSessionThreadFenceReadback)
    (store : ThreadStore) : Prop where
  same : ∀ otherKey other readback after, other.runtimeSessionId = fence.runtimeSessionId →
    ThreadStep host packs store (.fence otherKey other (.replayed readback)) after →
      readback = original
  again : ∀ now, fenceRuntimeSessionThreadStart host key fence now store
    = .ok (.replayed original, store)

structure ReplaysBinding (host : Host) (packs : PackHost) (key : String)
    (binding : BindRuntimeSessionThread) (original : RuntimeSessionThreadBindingReadback)
    (store : ThreadStore) : Prop where
  same : ∀ otherKey other readback after, other.runtimeSessionId = binding.runtimeSessionId →
    ThreadStep host packs store (.bind otherKey other (.replayed readback)) after →
      readback = original
  again : ∀ now, bindRuntimeSessionThread host key binding now store
    = .ok (.replayed original, store)

theorem fence_replays {store next after : ThreadStore} {key : String}
    {fence : FenceRuntimeSessionThreadStart} {original : RuntimeSessionThreadFenceReadback}
    {events : List ThreadEvent} (inv : Established store)
    (step : ThreadStep host packs store (.fence key fence (.fresh original)) next)
    (run : Run (UndisturbedStep host packs fence.runtimeSessionId) next events after) :
    ReplaysFence host packs key fence original after := by
  have write := freshStep_write step
  have read := (undisturbed_run (threadStep_established step inv) run).1 original
    (freshFence_read inv write)
  obtain ⟨_, _, _, _, _, _, same, _, _⟩ := write.wrote
  refine ⟨fun otherKey other readback last here replay => ?_, fun now => ?_⟩
  · obtain ⟨_, success⟩ := replay
    rcases fence_outcome success with ⟨_, differs, _⟩ | ⟨_, ⟨_, differs⟩ | ⟨_, named, again⟩⟩
    · cases differs
    · cases differs
    · cases named
      rw [here, read] at again
      cases again
      rfl
  · apply fence_again (freshStep_valid step) _ _ read
    · rw [same]
      rfl
    · rw [same]
      exact freshFence_matches ..

theorem binding_replays {store next after : ThreadStore} {key : String}
    {binding : BindRuntimeSessionThread} {original : RuntimeSessionThreadBindingReadback}
    {events : List ThreadEvent} (inv : Established store)
    (step : ThreadStep host packs store (.bind key binding (.applied original)) next)
    (run : Run (UndisturbedStep host packs binding.runtimeSessionId) next events after) :
    ReplaysBinding host packs key binding original after := by
  have write := appliedStep_write step
  have read := (undisturbed_run (threadStep_established step inv) run).2 original
    (appliedBinding_read inv write)
  obtain ⟨_, _, _, _, _, _, same, _, _⟩ := write.wrote
  refine ⟨fun otherKey other readback last here replay => ?_, fun now => ?_⟩
  · obtain ⟨_, success⟩ := replay
    rcases bind_outcome success with ⟨_, differs, _⟩ | ⟨_, ⟨_, differs⟩ | ⟨_, named, again⟩⟩
    · cases differs
    · cases differs
    · cases named
      rw [here, read] at again
      cases again
      rfl
  · apply bind_again (bindStep_valid step) _ _ read
    · rw [same]
      rfl
    · rw [same]
      exact freshBinding_matches ..

/-- A step that is not a generation operation leaves the generations alone. -/
theorem threadStep_generationTable {store after : ThreadStore} {event : ThreadEvent}
    (step : ThreadStep host packs store event after) :
    (∃ inner, event = .generation inner ∧ inner ≠ .other ∧
      GenerationStep host store.toSqliteStore inner after.toSqliteStore) ∨
      after.processGenerations = store.processGenerations := by
  cases event with
  | generation inner =>
    obtain ⟨listed, next, generationStep, rfl⟩ := step
    exact .inl ⟨inner, rfl, listed, generationStep⟩
  | admission outcome =>
    obtain ⟨_, _, _, success⟩ := step
    obtain ⟨receipts, rfl⟩ := prepareConversationProcessGeneration_frame success
    exact .inr rfl
  | planInitial outcome =>
    obtain ⟨_, _, _, _, success⟩ := step
    exact .inr (planInitialThreadContinuation_change success).generations
  | plan outcome =>
    obtain ⟨_, _, _, _, _, success⟩ := step
    exact .inr (planContinuation_change success).generations
  | fence key fence outcome =>
    obtain ⟨_, success⟩ := step
    rcases fence_outcome success with ⟨_, _, write⟩ | ⟨rfl, _⟩
    · exact .inr write.rest.generations
    · exact .inr rfl
  | bind key binding outcome =>
    obtain ⟨_, success⟩ := step
    rcases bind_outcome success with ⟨_, _, write⟩ | ⟨rfl, _⟩
    · exact .inr write.rest.generations
    · exact .inr rfl
  | reconcile request readback =>
    obtain ⟨_, rfl⟩ := step
    exact .inr rfl
  | other => exact .inr step.generations

theorem threadRun_histories {events : List ThreadEvent} {store after : ThreadStore}
    (run : Run (ThreadStep host packs) store events after) :
    Histories store.toSqliteStore after.toSqliteStore := by
  apply Run.relates (R := fun s t => Histories s.toSqliteStore t.toSqliteStore) _ _ _ run
  · intro s id row found
    exact ⟨row, found, .refl row⟩
  · intro s m t first second
    exact Histories.trans _ _ _ first second
  · intro s event t step
    rcases threadStep_generationTable step with ⟨inner, _, _, generationStep⟩ | same
    · exact generationStep_histories host _ inner _ generationStep
    · intro id row found
      exact ⟨row, by rw [same]; exact found, .refl row⟩

/-- A generation comes to belong to a session only when a Conversation prepares it. -/
theorem threadStep_owner {store after : ThreadStore} {event : ThreadEvent}
    {id : ProcessGenerationId} {session : RuntimeSessionId}
    (step : ThreadStep host packs store event after)
    (owned : ownerOf after.toSqliteStore id = some (some session)) :
    ownerOf store.toSqliteStore id = some (some session) ∨ preparesGeneration id event = true := by
  rcases threadStep_generationTable step with ⟨inner, rfl, listed, generationStep⟩ | same
  · rcases generationStep_owners listed generationStep with
      kept | ⟨fence, owner, rfl, added⟩ | ⟨agent, added⟩
    · exact .inl ((kept.owners id).symm.trans owned)
    · by_cases here : id = fence.generationId
      · exact .inr (by simp [preparesGeneration, here])
      · exact .inl ((added.others id here).symm.trans owned)
    · by_cases here : id = agent
      · subst here
        rw [added.added] at owned
        cases owned
      · exact .inl ((added.others id here).symm.trans owned)
  · unfold ownerOf at owned ⊢
    rw [same] at owned
    exact .inl owned

theorem threadRun_owner {events : List ThreadEvent} {store after : ThreadStore}
    {id : ProcessGenerationId} {session : RuntimeSessionId}
    (run : Run (ThreadStep host packs) store events after)
    (absent : ownerOf store.toSqliteStore id = none)
    (owned : ownerOf after.toSqliteStore id = some (some session)) :
    ∃ event ∈ events, preparesGeneration id event = true := by
  suffices general : ownerOf store.toSqliteStore id = some (some session) ∨
      ∃ event ∈ events, preparesGeneration id event = true by
    rcases general with early | later
    · rw [absent] at early
      cases early
    · exact later
  clear absent
  induction run with
  | nil => exact .inl owned
  | cons first rest ih =>
    rcases ih owned with middle | ⟨event, member, prepares⟩
    · rcases threadStep_owner first middle with early | prepares
      · exact .inl early
      · exact .inr ⟨_, List.mem_cons_self, prepares⟩
    · exact .inr ⟨event, List.mem_cons_of_mem _ member, prepares⟩

/-- A fresh fence found its generation ready and owned by its session. -/
theorem freshStep_generation {store after : ThreadStore} {key : String}
    {fence : FenceRuntimeSessionThreadStart} {readback : RuntimeSessionThreadFenceReadback}
    (step : ThreadStep host packs store (.fence key fence (.fresh readback)) after) :
    ∃ process session, store.processGenerations.find? fence.processGenerationId = some process ∧
      process.generation.state = .ready ∧ process.runtimeSessionId = some session := by
  obtain ⟨decision, account, _, _, authority, _⟩ := (freshStep_write step).wrote
  obtain ⟨_, session, _, process, _, _, _, processFound, _, _, _, _, _, ready, owner⟩ :=
    threadFenceAuthority_eq_some authority
  exact ⟨process, session.runtimeSessionId, processFound, ready, owner⟩

theorem freshFenceWith_hit {id : ProcessGenerationId} {event : ThreadEvent}
    (hit : freshFenceWith id event = true) :
    ∃ key fence readback, event = .fence key fence (.fresh readback) ∧
      fence.processGenerationId = id := by
  unfold freshFenceWith at hit
  split at hit
  · rename_i key fence readback
    exact ⟨key, fence, readback, rfl, by simpa using hit⟩
  · cases hit

/-- What a proof of absence is worth from then on. -/
structure StaysAbsent (host : Host) (packs : PackHost) (id : ProcessGenerationId)
    (kind : ConversationPreEffectEvidenceKind) (store : ThreadStore) : Prop where
  kinds : kind = .processDead ∨ kind = .admissionRejected
  dead : kind = .processDead → ∀ later after, Run (ThreadStep host packs) store later after →
    ∀ event ∈ later, freshFenceWith id event = false
  rejected : kind = .admissionRejected → ∀ earlier event rest after,
    Run (ThreadStep host packs) store (earlier ++ event :: rest) after →
    freshFenceWith id event = true → ∃ prepared ∈ earlier, preparesGeneration id prepared = true

theorem dead_staysAbsent {store : ThreadStore} {id : ProcessGenerationId}
    {row : ProcessGenerationRow} (found : store.processGenerations.find? id = some row)
    (dead : row.generation.state = .dead) : StaysAbsent host packs id .processDead store := by
  refine ⟨.inl rfl, fun _ later after run event member => ?_, (fun differs => by cases differs)⟩
  by_contra hit
  obtain ⟨key, fence, readback, rfl, rfl⟩ := freshFenceWith_hit (Bool.not_eq_false _ ▸ hit)
  obtain ⟨earlier, rest, rfl⟩ := List.append_of_mem member
  obtain ⟨middle, before, run⟩ := Run.split earlier run
  cases run with
  | cons first _ =>
    obtain ⟨process, _, processFound, ready, _⟩ := freshStep_generation first
    obtain ⟨row', rowFound, history⟩ := threadRun_histories before _ row found
    rw [processFound] at rowFound
    cases rowFound
    rw [history.dead dead, dead] at ready
    cases ready

theorem absent_staysAbsent {store : ThreadStore} {id : ProcessGenerationId}
    (missing : store.processGenerations.find? id = none) :
    StaysAbsent host packs id .admissionRejected store := by
  refine ⟨.inr rfl, (fun differs => by cases differs), fun _ earlier event rest after run hit => ?_⟩
  obtain ⟨key, fence, readback, rfl, rfl⟩ := freshFenceWith_hit hit
  obtain ⟨middle, before, run⟩ := Run.split earlier run
  cases run with
  | cons first _ =>
    obtain ⟨process, session, processFound, _, owner⟩ := freshStep_generation first
    have owned : ownerOf middle.toSqliteStore fence.processGenerationId = some (some session) := by
      simp [ownerOf, processFound, owner]
    exact threadRun_owner before (by simp [ownerOf, missing]) owned

theorem reconcile_staysAbsent {store : ThreadStore}
    {request : ReconcileConversationThreadEstablishment} {proof : ConversationThreadStartNonEffect}
    (read : reconcileConversationThreadEstablishment host request store
      = .ok (.definitelyNotStarted proof)) :
    StaysAbsent host packs request.processGenerationId proof.kind store := by
  unfold reconcileConversationThreadEstablishment at read
  split at read
  · obtain ⟨_, _, ending⟩ := bind_ok read
    cases ending
  · obtain ⟨_, _, ending⟩ := bind_ok read
    cases ending
  · unfold readNonEffect at read
    split at read
    · rename_i row found
      split at read
      · rename_i dead _
        cases read
        exact dead_staysAbsent found dead
      · cases read
    · rename_i missing
      split at read
      · cases read
        exact absent_staysAbsent missing
      · cases read

/-- A binding is recorded for the fence it names, with the fenced request's identity. -/
def NamesItsFence (store : ThreadStore) (key : String) (binding : BindRuntimeSessionThread)
    (after : ThreadStore) : Prop :=
  ∃ row fence row', store.runtimeSessions.find? binding.runtimeSessionId = some row ∧
    store.fenceOf binding.runtimeSessionId = some fence ∧
    fence.fenceKey = binding.fenceIdempotencyKey ∧
    fence.requestSha256 = binding.threadStartRequestSha256 ∧
    row.threadStartRequestId = some binding.threadStartRequestId ∧
    after.runtimeSessions.find? binding.runtimeSessionId = some row' ∧
    row'.threadStartBindingKey = some key ∧
    row'.threadStartResponseId = row.threadStartRequestId

theorem applied_namesItsFence {store after : ThreadStore} {key : String}
    {binding : BindRuntimeSessionThread} {readback : RuntimeSessionThreadBindingReadback}
    (write : BindingWrite key binding readback store after) :
    NamesItsFence store key binding after := by
  obtain ⟨fence, row, now, read, matched, starting, _, updated, _⟩ := write.wrote
  obtain ⟨found, _, _⟩ := startingSession_eq_some starting
  obtain ⟨session, columns, conversation, requestId, sessionFound, fenced, _, requested, rfl⟩ :=
    readThreadFence_ok read
  rw [found] at sessionFound
  cases sessionFound
  have named := bindingMatchesFence_named matched
  have rows := Table.find?_updateKey_of_found updated found (fun _ => rfl)
    binding.runtimeSessionId
  rw [if_pos rfl] at rows
  refine ⟨row, columns, _, found, fenced, named.key.symm, named.requestSha.symm, ?_, rows, rfl, ?_⟩
  · rw [named.request]
    exact requested
  · show some binding.successfulResponse.responseId = row.threadStartRequestId
    rw [write.response, named.request]
    exact requested.symm

/-- The promises of thread establishment at the end of a run. -/
structure ThreadStartsSound (host : Host) (packs : PackHost) (events : List ThreadEvent)
    (store : ThreadStore) : Prop where
  once : ∀ id, events.countP (freshFenceOf id) ≤ 1
  columns : ∀ later after, Run (ThreadStep host packs) store later after →
    ColumnsKept store after
  answered : ∀ id row, store.runtimeSessions.find? id = some row →
    row.threadStartBindingKey.isSome = true →
      (store.fenceOf id).isSome = true ∧ row.threadStartResponseId = row.threadStartRequestId
  named : ∀ key binding readback after,
    ThreadStep host packs store (.bind key binding (.applied readback)) after →
      NamesItsFence store key binding after
  fenceReplays : ∀ key fence original next later after,
    ThreadStep host packs store (.fence key fence (.fresh original)) next →
      Run (UndisturbedStep host packs fence.runtimeSessionId) next later after →
        ReplaysFence host packs key fence original after
  bindingReplays : ∀ key binding original next later after,
    ThreadStep host packs store (.bind key binding (.applied original)) next →
      Run (UndisturbedStep host packs binding.runtimeSessionId) next later after →
        ReplaysBinding host packs key binding original after
  absence : ∀ request proof,
    reconcileConversationThreadEstablishment host request store
        = .ok (.definitelyNotStarted proof) →
      StaysAbsent host packs request.processGenerationId proof.kind store

/-- In every run from an empty store: no session is fenced twice, its fence and binding stay
and replay as they were, and a proof of absence holds for good when the process is dead, and
until the admitted generation is prepared when it rests on an admission. -/
theorem thread_starts_are_sound (host : Host) (packs : PackHost) (events : List ThreadEvent)
    (store : ThreadStore) (run : Run (ThreadStep host packs) ThreadStore.empty events store) :
    ThreadStartsSound host packs events store := by
  have inv := established_of_run run established_empty
  refine ⟨fresh_at_most_once run, fun _ _ later => columnsKept_of_run later, inv.bound, ?_, ?_, ?_,
    ?_⟩
  · intro key binding readback after step
    exact applied_namesItsFence (appliedStep_write step)
  · intro key fence original next later after step rest
    exact fence_replays inv step rest
  · intro key binding original next later after step rest
    exact binding_replays inv step rest
  · intro request proof read
    exact reconcile_staysAbsent read

/-- What a call answered and left; a call that failed leaves nothing. -/
def answer {α σ : Type} (fallback : α × σ) : Except StoreError (α × σ) → α × σ
  | .ok result => result
  | .error _ => fallback

theorem answer_ok {α σ : Type} {call : Except StoreError (α × σ)} {fallback : α × σ}
    (succeeded : call.isOk = true) :
    call = .ok ((answer fallback call).1, (answer fallback call).2) := by
  cases call with
  | error => cases succeeded
  | ok result => rfl

def samplePlanId : String := "70000000-0000-4000-8000-000000000020"

def sampleDecisionId : String := "80000000-0000-4000-8000-000000000020"

def samplePacks : PackHost where
  toJson _ := none
  fromJson _ := none
  digest _ := ⟨List.replicate 32 20, rfl⟩
  putBlob _ := none
  readBlob _ := none

/-- One usable account and a selected decision for an active Conversation. -/
def routedStore : ThreadStore :=
  { ThreadStore.empty with
    conversations := sampleConversations
    accounts := sampleStore.accounts
    accountCredentials := sampleStore.accountCredentials
    accountCapability := sampleStore.accountCapability
    decisions := ⟨[⟨sampleDecisionId, .conversationAccountRegistry, sampleConversation, sampleTurn,
      1, none, .selected, some (sampleAccount, 1)⟩], by decide, by decide⟩
    taskProfile := true }

def sampleIdentities : GeneratedIdentities where
  runtimeSessionId := sampleSession
  accountSnapshotId := "a0000000-0000-4000-8000-000000000020"
  profileSnapshotId := "b0000000-0000-4000-8000-000000000020"

def planRequest : PlanInitialThreadContinuation :=
  ⟨"c0000000-0000-4000-8000-000000000020", sampleDecisionId, 1, samplePlanId⟩

def planCall : Except StoreError (ContinuationCommandOutcome × ThreadStore) :=
  planInitialThreadContinuation sampleHost sampleIdentities "plan" planRequest 2 routedStore

def planned : ContinuationCommandOutcome × ThreadStore :=
  answer (.rejected .missingDecision, .empty) planCall

/-- The turn of the decision, on the session of the plan. -/
def turnStore : ThreadStore :=
  { planned.2 with
    turns := ⟨[⟨sampleTurn, sampleConversation, some sampleSession, 1, .user, .none, .active, 1, 3,
      3, none⟩], by decide, by decide⟩ }

def sampleCoordinates : PrepareConversationProcessGeneration where
  conversationId := sampleConversation
  expectedConversationRevision := 1
  runtimeSessionId := sampleSession
  expectedRuntimeSessionRevision := 1
  turnId := sampleTurn
  expectedTurnRevision := 1
  continuationPlanId := samplePlanId
  routingDecisionId := sampleDecisionId
  selectedAccountId := sampleAccount
  processGenerationId := sampleGeneration

/-- The admission that the next call hands out, to be used once. -/
def sampleAdmission : FreshConversationProcessGeneration :=
  ⟨"admission", sampleDigest, sampleGeneration, sampleAccount, sampleSession⟩

def admissionCall :
    Except StoreError (PrepareConversationProcessGenerationOutcome × ThreadStore) :=
  prepareConversationProcessGeneration sampleHost "admission" sampleCoordinates 4 turnStore

def admitted : PrepareConversationProcessGenerationOutcome × ThreadStore :=
  answer (.replayed ⟨sampleCoordinates, none, none⟩, .empty) admissionCall

def prepareCall : Except StoreError (PrepareProcessGenerationOutcome × SqliteStore) :=
  prepareConversationBoundProcessGeneration sampleIntent sampleBinding sampleAdmission 5 5
    admitted.2.toSqliteStore

def prepared : PrepareProcessGenerationOutcome × SqliteStore :=
  answer (.replayed emptyMutation, .empty) prepareCall

def preparedStore : ThreadStore := { admitted.2 with toSqliteStore := prepared.2 }

def sampleIdentity : ProcessIdentity :=
  ⟨sampleIntent.intendedBootId, 41001, ⟨"start-20", by decide⟩, 41001, 41001⟩

def identifyCall : Except StoreError (ProcessGenerationMutationOutcome × SqliteStore) :=
  bindProcessGenerationIdentity sampleGeneration 1 sampleIdentity 6 preparedStore.toSqliteStore

def identified : ProcessGenerationMutationOutcome × SqliteStore :=
  answer (.replayed emptyMutation, .empty) identifyCall

def identifiedStore : ThreadStore := { preparedStore with toSqliteStore := identified.2 }

def readyCall : Except StoreError (ProcessGenerationMutationOutcome × SqliteStore) :=
  markProcessGenerationReady sampleGeneration 2 7 identifiedStore.toSqliteStore

def readied : ProcessGenerationMutationOutcome × SqliteStore :=
  answer (.replayed emptyMutation, .empty) readyCall

def readyStore : ThreadStore := { identifiedStore with toSqliteStore := readied.2 }

def sampleFence : FenceRuntimeSessionThreadStart where
  conversationId := sampleConversation
  expectedConversationRevision := 1
  runtimeSessionId := sampleSession
  expectedRevision := 1
  turnId := sampleTurn
  expectedTurnRevision := 1
  continuationPlanId := samplePlanId
  processGenerationId := sampleGeneration
  processGenerationRevision := 3
  processExecutionEpochId := sampleEpoch
  threadStartRequestId := 1
  threadStartRequestSha256 := sampleDigest

def sampleReadback : RuntimeSessionThreadFenceReadback :=
  freshFence "fence" sampleDecisionId sampleAccount 2 sampleFence

def fenceCall : Except StoreError (FenceRuntimeSessionThreadStartOutcome × ThreadStore) :=
  fenceRuntimeSessionThreadStart sampleHost "fence" sampleFence 8 readyStore

def fenced : FenceRuntimeSessionThreadStartOutcome × ThreadStore :=
  answer (.rejected .invalidInput, .empty) fenceCall

/-- The calls of the sample run, evaluated together: each builds on the one before. -/
structure SampleCalls : Prop where
  planRan : planCall.isOk = true
  admissionRan : admissionCall.isOk = true
  admissionFresh : admitted.1 = .fresh sampleAdmission ⟨sampleCoordinates, some 1, none⟩
  absent : reconcileConversationThreadEstablishment sampleHost sampleCoordinates admitted.2
    = .ok (.definitelyNotStarted ⟨none, .admissionRejected, "admission"⟩)
  prepareRan : prepareCall.isOk = true
  identifyRan : identifyCall.isOk = true
  readyRan : readyCall.isOk = true
  fenceRan : fenceCall.isOk = true
  fenceFresh : fenced.1 = .fresh sampleReadback

theorem sampleCalls : SampleCalls := by
  have evaluated : planCall.isOk = true ∧ admissionCall.isOk = true ∧
      admitted.1 = .fresh sampleAdmission ⟨sampleCoordinates, some 1, none⟩ ∧
      reconcileConversationThreadEstablishment sampleHost sampleCoordinates admitted.2
        = .ok (.definitelyNotStarted ⟨none, .admissionRejected, "admission"⟩) ∧
      prepareCall.isOk = true ∧ identifyCall.isOk = true ∧ readyCall.isOk = true ∧
      fenceCall.isOk = true ∧ fenced.1 = .fresh sampleReadback := by
    decide +kernel
  obtain ⟨h1, h2, h3, h4, h5, h6, h7, h8, h9⟩ := evaluated
  exact ⟨h1, h2, h3, h4, h5, h6, h7, h8, h9⟩

/-- From an empty store to an admitted process. -/
def admissionEvents : List ThreadEvent :=
  [.other, .planInitial planned.1, .other, .admission admitted.1]

/-- From the admission to a ready process. -/
def readyEvents : List ThreadEvent :=
  [.generation (.prepareConversation prepared.1), .generation (.bindIdentity identified.1),
    .generation (.ready readied.1)]

theorem admission_run :
    Run (ThreadStep sampleHost samplePacks) ThreadStore.empty admissionEvents admitted.2 := by
  obtain ⟨planRan, admissionRan, _⟩ := sampleCalls
  refine .cons (m := routedStore) ?_ (.cons (m := planned.2) ?_ (.cons (m := turnStore) ?_
    (.single ?_)))
  · exact ⟨.refl _, rfl, rfl, rfl⟩
  · exact ⟨_, _, _, _, answer_ok planRan⟩
  · exact ⟨.refl _, rfl, rfl, rfl⟩
  · exact ⟨_, _, _, answer_ok admissionRan⟩

theorem ready_run : Run (ThreadStep sampleHost samplePacks) admitted.2 readyEvents readyStore := by
  obtain ⟨_, _, _, _, prepareRan, identifyRan, readyRan, _⟩ := sampleCalls
  refine .cons (m := preparedStore) ?_ (.cons (m := identifiedStore) ?_ (.single ?_))
  · exact ⟨by simp, _, ⟨_, _, _, _, _, answer_ok prepareRan⟩, rfl⟩
  · exact ⟨by simp, _, ⟨_, _, _, _, answer_ok identifyRan⟩, rfl⟩
  · exact ⟨by simp, _, ⟨_, _, _, answer_ok readyRan⟩, rfl⟩

theorem fenced_step :
    ThreadStep sampleHost samplePacks readyStore (.fence "fence" sampleFence (.fresh sampleReadback))
      fenced.2 := by
  obtain ⟨_, _, _, _, _, _, _, fenceRan, fenceFresh⟩ := sampleCalls
  refine ⟨8, ?_⟩
  rw [← fenceFresh]
  exact answer_ok fenceRan

/-- A fence asked twice returns the readback of the first time. -/
theorem sample_fence_is_replayed :
    fenceRuntimeSessionThreadStart sampleHost "fence" sampleFence 9 fenced.2
      = .ok (.replayed sampleReadback, fenced.2) := by
  have sound := thread_starts_are_sound sampleHost samplePacks _ _ (Run.append admission_run ready_run)
  exact (sound.fenceReplays _ _ _ _ _ _ fenced_step (.nil _)).again 9

/-- What a proof of absence would promise if it were final. -/
def AbsenceIsFinal (host : Host) (packs : PackHost) : Prop :=
  ∀ before middle request proof later after,
    Run (ThreadStep host packs) ThreadStore.empty before middle →
    reconcileConversationThreadEstablishment host request middle
        = .ok (.definitelyNotStarted proof) →
    Run (ThreadStep host packs) middle later after →
    ∀ key fence readback, .fence key fence (.fresh readback) ∈ later →
      ¬(fence.runtimeSessionId = request.runtimeSessionId ∧
        fence.processGenerationId = request.processGenerationId)

/-- The admitted process, proved not to have started, is prepared and starts its thread. -/
theorem absence_is_not_final : ¬AbsenceIsFinal sampleHost samplePacks := by
  intro final
  have later := Run.append ready_run (Run.single fenced_step)
  obtain ⟨_, _, _, absent, _⟩ := sampleCalls
  exact final _ _ _ _ _ _ admission_run absent later "fence" sampleFence
    sampleReadback (by simp) ⟨rfl, rfl⟩

end Decodex.Guarantees.ThreadStarts
