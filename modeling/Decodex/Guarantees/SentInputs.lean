import Decodex.Source.Store.AgentCalls

/-!
# Inputs that reached the provider

An input that was once recorded with a provider turn keeps a delivery and is never sent twice,
as long as no ordinary refusal finds it among its claims. A dispatch may claim such an input
again, and `reject_agent_dispatch` then records it as not sent: nothing but the claim is left
of the earlier turn.
-/
namespace Decodex.Guarantees.SentInputs

open Decodex.Library Decodex.Source.Core Decodex.Source.Store
open Decodex.Source.Store.AgentDispatch

variable {host : PayloadHost} {store after : AgentStore} {moves back links : Prop}

def isInput (row : AgentInboxEvent) : Bool :=
  row.eventKind = "user_message" || row.eventKind = "async_question_answer"

/-- The event is recorded with a provider turn. -/
def Reached (row : AgentInboxEvent) : Prop :=
  isInput row = true ∧ ∃ delivery, row.delivery = some delivery ∧ delivery.turnId ≠ ""

/-- The event is recorded as not sent. -/
def NotSent (row : AgentInboxEvent) : Prop :=
  row.delivery = none ∧ ∃ disposal, row.disposal = some disposal ∧
    disposal.disposition = .userDecision

/-- The event was recorded with a provider turn at some point of the run. -/
def SentBefore (host : PayloadHost) (events : List (AgentCall × Int)) (id : Nat) : Prop :=
  ∃ before, before <+: events ∧
    ∃ row ∈ (stateAfter host before).agentInboxEvents.rows, row.id = id ∧ Reached row

/-- What the checks of `reject_agent_dispatch` admit for an ordinary dispatch. -/
def refusalAdmitted (store : AgentStore) (previous : AgentWorkItem) (owned : Bool) : Prop :=
  previous.dispatchState = .idle ∧ owned = true ∧ unsafeClaim store previous.id = false ∧
    ∃ work, store.agentWorkItems.find? previous.id = some work ∧
      work.dispatchState = .dispatching ∧ work.codexThreadId = previous.codexThreadId ∧
      work.activeTurnId = previous.activeTurnId ∧ previous.codexThreadId.isSome = true

/-- No ordinary refusal takes back an input that was sent before. -/
def RefusesUnsent (host : PayloadHost) (events : List (AgentCall × Int)) : Prop :=
  ∀ before previous owned refusal now,
    before ++ [(.rejectAgentDispatch previous owned none refusal, now)] <+: events →
    refusalAdmitted (stateAfter host before) previous owned →
    ∀ row ∈ (stateAfter host before).agentInboxEvents.rows, isClaim previous.id row = true →
      ¬SentBefore host before row.id

/-- Every delivered event is still delivered. -/
def KeepsDeliveries (kept : AgentInboxEvent → Prop) (store after : AgentStore) : Prop :=
  ∀ row ∈ store.agentInboxEvents.rows, kept row → row.delivery.isSome = true →
    ∃ row' ∈ after.agentInboxEvents.rows, row'.id = row.id ∧ row'.delivery.isSome = true

theorem keepsDeliveries_of_events {kept : AgentInboxEvent → Prop}
    (same : after.agentInboxEvents = store.agentInboxEvents) :
    KeepsDeliveries kept store after := by
  intro row member _ delivered
  exact ⟨row, same ▸ member, rfl, delivered⟩

theorem keepsDeliveries_of_updateEvents (kept : AgentInboxEvent → Prop)
    {selected : AgentInboxEvent → Bool} {change : AgentInboxEvent → AgentInboxEvent}
    (done : updateEvents store selected change = .ok after)
    (same : ∀ row, (change row).id = row.id)
    (keeps : ∀ row, kept row → selected row = true → row.delivery.isSome = true →
      (change row).delivery.isSome = true) : KeepsDeliveries kept store after := by
  obtain ⟨_, events, updated, rfl⟩ := updateEvents_ok done
  intro row member keptRow delivered
  refine ⟨_, Table.mem_updateWhere updated member, ?_, ?_⟩
  · split
    · exact same row
    · rfl
  · split
    · rename_i hit
      exact keeps row keptRow hit delivered
    · exact delivered

theorem keepsDeliveries_of_insertRow {kept : AgentInboxEvent → Prop} {input : EnqueueAgentEvent}
    {now : Int} {disposal : Option Disposal} {delivery : Option Delivery}
    (done : insertRow store input now disposal delivery = .ok after) :
    KeepsDeliveries kept store after := by
  obtain ⟨events, inserted, rfl⟩ := insertRow_ok done
  intro row member _ delivered
  refine ⟨row, ?_, rfl, delivered⟩
  rw [Table.insert_rows inserted]
  exact List.mem_append_left _ member

theorem statement_keepsDeliveries (step : Statement host moves False links store after) :
    KeepsDeliveries (fun _ => True) store after := by
  cases step with
  | create inserted done => exact keepsDeliveries_of_events (by rw [done])
  | work done keeps =>
    obtain ⟨works, _, rfl⟩ := updateWork_ok done
    exact keepsDeliveries_of_events rfl
  | lane allowed done keeps =>
    obtain ⟨works, _, rfl⟩ := updateWork_ok done
    exact keepsDeliveries_of_events rfl
  | delegate done => exact keepsDeliveries_of_events (by rw [done])
  | record done closed => exact keepsDeliveries_of_insertRow done
  | instruct allowed done => exact keepsDeliveries_of_insertRow done
  | deliver allowed done => exact keepsDeliveries_of_updateEvents _ done (fun _ => rfl) fun _ _ _ _ => rfl
  | settle done =>
    exact keepsDeliveries_of_updateEvents _ done (fun _ => rfl) fun _ _ _ delivered => delivered
  | takeBack allowed done => exact allowed.elim
  | retry done keeps =>
    obtain ⟨_, retries, _, rfl⟩ := updateRetries_ok done
    exact keepsDeliveries_of_events rfl
  | submit allowed done =>
    obtain ⟨_, retries, _, rfl⟩ := updateRetries_ok done
    exact keepsDeliveries_of_events rfl
  | schedule allowed done named =>
    obtain ⟨retries, _, rfl⟩ := scheduleRetry_ok done
    exact keepsDeliveries_of_events rfl

theorem statements_keepDeliveries (steps : Statements host moves False links store after) :
    KeepsDeliveries (fun _ => True) store after := by
  induction steps with
  | refl => exact keepsDeliveries_of_events rfl
  | tail _ step ih =>
    intro row member held delivered
    obtain ⟨middle, middle_mem, same, still⟩ := ih row member held delivered
    obtain ⟨last, last_mem, sameLast, stillLast⟩ :=
      statement_keepsDeliveries step middle middle_mem trivial still
    exact ⟨last, last_mem, sameLast.trans same, stillLast⟩

/-- An ordinary refusal passes its checks and takes back nothing but its claims. -/
theorem ordinaryRefusal_keepsDeliveries {previous : AgentWorkItem} {owned : Bool}
    {refusal : AgentDispatchRefusal} {now : Int}
    (done : rejectAgentDispatch host store previous owned none refusal now = .ok after) :
    refusalAdmitted store previous owned ∧
      KeepsDeliveries (fun row => isClaim previous.id row = false) store after := by
  unfold rejectAgentDispatch settleRefusal rejectClaims disposeEvents at done
  obtain ⟨_, idle, done⟩ := bind_ok done
  obtain ⟨_, owner, done⟩ := bind_ok done
  obtain ⟨settled, settle, done⟩ := bind_ok done
  obtain ⟨_, safe, settle⟩ := bind_ok settle
  obtain ⟨taken, take, settle⟩ := bind_ok settle
  rw [require_eq_ok] at idle owner safe
  refine ⟨⟨idle, owner.2, safe, ?_⟩, ?_⟩
  · cases found : store.agentWorkItems.find? previous.id with
    | none => simp [found] at owner
    | some work =>
      have shape := owner.1
      simp only [found, Option.any_some, Bool.and_eq_true, decide_eq_true_eq] at shape
      obtain ⟨⟨⟨thread, sameThread⟩, dispatching⟩, sameTurn⟩ := shape
      exact ⟨work, rfl, dispatching, sameThread, sameTurn, thread⟩
  · have rest : Statements host True False False taken after :=
      .head (.retry settle fun _ => ⟨rfl, rfl⟩) (judgeLane_statements done fun _ => rfl)
    intro row member unclaimed delivered
    obtain ⟨middle, middle_mem, same, still⟩ := keepsDeliveries_of_updateEvents
      (fun row => isClaim previous.id row = false) take (fun _ => rfl)
      (fun row kept hit => by rw [kept] at hit; cases hit) row member unclaimed delivered
    obtain ⟨last, last_mem, sameLast, stillLast⟩ :=
      statements_keepDeliveries rest middle middle_mem trivial still
    exact ⟨last, last_mem, sameLast.trans same, stillLast⟩

/-- Sent before, and therefore delivered now. -/
theorem sentBefore_delivered (events : List (AgentCall × Int))
    (careful : RefusesUnsent host events) {id : Nat} (sent : SentBefore host events id) :
    ∃ row ∈ (stateAfter host events).agentInboxEvents.rows,
      row.id = id ∧ row.delivery.isSome = true := by
  induction events using List.reverseRecOn with
  | nil =>
    obtain ⟨before, earlier, row, member, _⟩ := sent
    rw [List.prefix_nil.mp earlier] at member
    cases member
  | append_singleton events event ih =>
    obtain ⟨before, earlier, row, member, same, reached⟩ := sent
    rcases List.prefix_concat_iff.mp earlier with rfl | earlier
    · obtain ⟨_, delivery, delivered, _⟩ := reached
      exact ⟨row, member, same, by rw [delivered]; rfl⟩
    · have sentEarlier : SentBefore host events id := ⟨before, earlier, row, member, same, reached⟩
      have held := ih (fun before previous owned refusal now earlier =>
        careful before previous owned refusal now (earlier.trans (List.prefix_append _ _)))
        sentEarlier
      obtain ⟨old, old_mem, sameOld, delivered⟩ := held
      rw [stateAfter_snoc]
      obtain ⟨call, now⟩ := event
      rcases afterCall_cases host (stateAfter host events) call now with accepted | ⟨_, unchanged⟩
      · by_cases takes : call.takesBack
        · cases call with
          | rejectAgentDispatch previous owned retryEvent refusal =>
            cases takes
            obtain ⟨admitted, keeps⟩ := ordinaryRefusal_keepsDeliveries accepted
            have unclaimed : isClaim previous.id old = false := by
              by_contra claimed
              have fresh := careful events previous owned refusal now (List.prefix_refl _) admitted
                old old_mem (by simpa using claimed)
              exact fresh (sameOld ▸ sentEarlier)
            obtain ⟨new, new_mem, sameNew, still⟩ := keeps old old_mem unclaimed delivered
            exact ⟨new, new_mem, sameNew.trans sameOld, still⟩
          | _ => exact takes.elim
        · have steps : Statements host call.moves False call.links (stateAfter host events)
              (afterCall host (stateAfter host events) (call, now)) := by
            simpa only [takes] using perform_statements accepted
          obtain ⟨new, new_mem, sameNew, still⟩ :=
            statements_keepDeliveries steps old old_mem trivial delivered
          exact ⟨new, new_mem, sameNew.trans sameOld, still⟩
      · rw [unchanged]
        exact ⟨old, old_mem, sameOld, delivered⟩

/-- No event that was sent is recorded as not sent, and none of them is sent again. -/
def StaysSent (host : PayloadHost) (events : List (AgentCall × Int)) : Prop :=
  ∀ id, SentBefore host events id →
    (∀ row ∈ (stateAfter host events).agentInboxEvents.rows, row.id = id → ¬NotSent row) ∧
    ∀ work thread busy now after,
      retryAgentInput host (stateAfter host events) work thread id busy now ≠ .ok after

theorem staysSent_of_refusesUnsent (events : List (AgentCall × Int))
    (careful : RefusesUnsent host events) : StaysSent host events := by
  intro id sent
  obtain ⟨row, member, same, delivered⟩ := sentBefore_delivered events careful sent
  refine ⟨?_, ?_⟩
  · intro other other_mem sameOther notSent
    have equal := Table.eq_of_key other_mem member (sameOther.trans same.symm)
    rw [← equal, notSent.1] at delivered
    cases delivered
  · intro work thread busy now after done
    unfold retryAgentInput at done
    obtain ⟨owner, _, done⟩ := bind_ok done
    obtain ⟨event, read, done⟩ := bind_ok done
    obtain ⟨_, admitted, _⟩ := bind_ok done
    unfold readEvent at read
    rw [orElse_eq_ok] at read
    rw [require_eq_ok] at admitted
    have undelivered : event.delivery = none := admitted.2.2.2.2.2
    have equal := Table.eq_of_key (Table.mem_of_find? read) member
      ((Table.key_of_find? read).trans same.symm)
    rw [← equal, undelivered] at delivered
    cases delivered

/-- What is disposed is never written again. -/
theorem statements_keepDisposed (steps : Statements host moves back links store after)
    {row : AgentInboxEvent} (member : row ∈ store.agentInboxEvents.rows)
    (disposed : row.disposal ≠ none) : row ∈ after.agentInboxEvents.rows := by
  induction steps with
  | refl => exact member
  | tail _ step ih =>
    have recorded {store after : AgentStore} {input : EnqueueAgentEvent} {now : Int}
        {disposal : Option Disposal} {delivery : Option Delivery}
        (held : row ∈ store.agentInboxEvents.rows)
        (done : insertRow store input now disposal delivery = .ok after) :
        row ∈ after.agentInboxEvents.rows := by
      obtain ⟨events, inserted, rfl⟩ := insertRow_ok done
      rw [Table.insert_rows inserted]
      exact List.mem_append_left _ held
    have updated {store after : AgentStore} {selected : AgentInboxEvent → Bool}
        {change : AgentInboxEvent → AgentInboxEvent} (held : row ∈ store.agentInboxEvents.rows)
        (done : updateEvents store selected change = .ok after) :
        row ∈ after.agentInboxEvents.rows := by
      obtain ⟨undisposed, events, updated, rfl⟩ := updateEvents_ok done
      rw [Table.updateWhere_rows updated]
      apply List.mem_map.mpr
      refine ⟨row, held, if_neg ?_⟩
      intro hit
      exact disposed (undisposed row held hit)
    cases step with
    | create inserted done => exact done ▸ ih
    | work done keeps =>
      obtain ⟨works, _, rfl⟩ := updateWork_ok done
      exact ih
    | lane allowed done keeps =>
      obtain ⟨works, _, rfl⟩ := updateWork_ok done
      exact ih
    | delegate done => exact done ▸ ih
    | record done closed => exact recorded ih done
    | instruct allowed done => exact recorded ih done
    | deliver allowed done => exact updated ih done
    | settle done => exact updated ih done
    | takeBack allowed done => exact updated ih done
    | retry done keeps =>
      obtain ⟨_, retries, _, rfl⟩ := updateRetries_ok done
      exact ih
    | submit allowed done =>
      obtain ⟨_, retries, _, rfl⟩ := updateRetries_ok done
      exact ih
    | schedule allowed done named =>
      obtain ⟨retries, _, rfl⟩ := scheduleRetry_ok done
      exact ih

theorem refusalNote_bound (refusal : AgentDispatchRefusal) :
    lengthBetween 1 65536 refusal.note = true := by
  cases refusal <;> decide +kernel

/-- A refusal that passes its checks is committed. -/
theorem ordinaryRefusal_accepted (host : PayloadHost) {previous : AgentWorkItem} {owned : Bool}
    (refusal : AgentDispatchRefusal) (now : Int)
    (admitted : refusalAdmitted store previous owned) :
    ∃ after, rejectAgentDispatch host store previous owned none refusal now = .ok after := by
  obtain ⟨idle, owner, safe, work, found, dispatching, thread, turn, bound⟩ := admitted
  obtain ⟨settled, settle⟩ := disposeEvents_accepted host store (isClaim previous.id)
    (fun row => { dispose .userDecision refusal.note now row with delivery := none })
    (fun row hit => by simpa [isClaim] using (Bool.and_eq_true_iff.mp hit).2)
    (fun row checked => dispose_checked (refusalNote_bound refusal) row checked)
    (fun _ => ⟨rfl, rfl⟩)
  have row : workItemTable.check work = true := Table.check_of_find? found
  obtain ⟨after, judged⟩ := updateStatus_accepted host settled previous.id
    (fun item =>
      { item with
        dispatchState := .idle
        status := .userDecision
        nextCheckAtMicros := none
        updatedAtMicros := max item.updatedAtMicros now })
    (fun item found' => by
      rw [disposeEvents_works settle, found] at found'
      cases found'
      simp only [workItemTable, AgentWorkItem.dispatchShape, dispatching, Bool.and_eq_true,
        decide_eq_true_eq, Option.all_none] at row ⊢
      obtain ⟨⟨⟨⟨⟨⟨⟨named, threaded⟩, turned⟩, _⟩, created⟩, updated⟩, parented⟩, turnless⟩ := row
      exact ⟨⟨⟨⟨⟨⟨⟨named, threaded⟩, turned⟩, trivial⟩, created⟩, by omega⟩, parented⟩, turnless⟩)
    (fun _ => ⟨rfl, rfl⟩)
  have passes : (store.agentWorkItems.find? previous.id).any (fun work =>
      previous.codexThreadId.isSome && work.codexThreadId = previous.codexThreadId &&
        work.dispatchState = .dispatching && work.activeTurnId = previous.activeTurnId) = true := by
    simp [found, dispatching, thread, turn, bound]
  refine ⟨after, ?_⟩
  unfold rejectAgentDispatch settleRefusal rejectClaims
  rw [require_of idle, ok_bind, require_of ⟨passes, owner⟩, ok_bind, require_of safe, ok_bind,
    settle]
  exact judged

theorem ordinaryRefusal_takesBack {previous : AgentWorkItem} {owned : Bool}
    {refusal : AgentDispatchRefusal} {now : Int} {row : AgentInboxEvent}
    (done : rejectAgentDispatch host store previous owned none refusal now = .ok after)
    (member : row ∈ store.agentInboxEvents.rows) (claimed : isClaim previous.id row = true) :
    ∃ row' ∈ after.agentInboxEvents.rows, row'.id = row.id ∧ NotSent row' := by
  unfold rejectAgentDispatch settleRefusal rejectClaims disposeEvents at done
  obtain ⟨_, _, done⟩ := bind_ok done
  obtain ⟨_, _, done⟩ := bind_ok done
  obtain ⟨settled, settle, done⟩ := bind_ok done
  obtain ⟨_, _, settle⟩ := bind_ok settle
  obtain ⟨taken, take, settle⟩ := bind_ok settle
  obtain ⟨_, events, updated, rfl⟩ := updateEvents_ok take
  have rest : Statements host True False False { store with agentInboxEvents := events } after :=
    .head (.retry settle fun _ => ⟨rfl, rfl⟩) (judgeLane_statements done fun _ => rfl)
  refine ⟨{ dispose .userDecision refusal.note now row with delivery := none }, ?_, rfl, rfl, ?_⟩
  · apply statements_keepDisposed rest
    · rw [Table.updateWhere_rows updated]
      apply List.mem_map.mpr
      exact ⟨row, member, if_pos claimed⟩
    · simp [dispose]
  · exact ⟨_, rfl, rfl⟩

theorem refusesUnsent_of_staysSent (events : List (AgentCall × Int))
    (sentStay : ∀ before, before <+: events → StaysSent host before) :
    RefusesUnsent host events := by
  intro before previous owned refusal now earlier admitted row member claimed sent
  obtain ⟨after, accepted⟩ := ordinaryRefusal_accepted host refusal now admitted
  obtain ⟨row', member', same, notSent⟩ := ordinaryRefusal_takesBack accepted member claimed
  have sentStill : SentBefore host
      (before ++ [(.rejectAgentDispatch previous owned none refusal, now)]) row.id := by
    obtain ⟨first, shorter, found⟩ := sent
    exact ⟨first, shorter.trans (List.prefix_append _ _), found⟩
  have performed : perform host (stateAfter host before) now
      (.rejectAgentDispatch previous owned none refusal) = .ok after := accepted
  refine (sentStay _ earlier row.id sentStill).1 row' ?_ same notSent
  rw [stateAfter_snoc, afterCall_of_ok performed]
  exact member'

/-- In every run, the inputs that were sent stay sent and are never sent again exactly as long as
no ordinary refusal finds one of them among its claims. -/
theorem sent_inputs_stay_sent (host : PayloadHost) (events : List (AgentCall × Int)) :
    (∀ before, before <+: events → StaysSent host before) ↔ RefusesUnsent host events := by
  constructor
  · exact refusesUnsent_of_staysSent events
  · intro careful before earlier
    apply staysSent_of_refusesUnsent
    intro first previous owned refusal now shorter
    exact careful first previous owned refusal now (shorter.trans earlier)

/-- Texts that no check of the sample reads. -/
def samplePayloadHost : PayloadHost where
  completed _ := false
  capacityFailure _ := false
  exhausted payload := payload
  scheduled payload _ _ := payload
  cancelled payload := some payload
  rejection _ reason := reason
  retryEventId _ := none
  reason _ := none
  terminalOf _ _ _ := false
  sourceKey parts := "[".append ("/".intercalate parts)
  instruction text _ := text

def sampleWork : AgentWorkItem :=
  ⟨"agent", none, .goal, none, .idle, none, .opened, none, 0, 0⟩

/-- A message is sent with turn `t1`, which fails; a second dispatch of it is refused. -/
def refusedAgain : List (AgentCall × Int) :=
  [(.createAgentWork sampleWork true, 1),
    (.beginAgentThreadCreation "agent", 2),
    (.acknowledgeAgentThreadCreation "agent" "thread", 3),
    (.enqueueAgentEvent ⟨"message", "agent", "user_message", "hello"⟩ false none, 4),
    (.beginAgentDispatchWithInput "agent" [1] none false (fun _ => false), 5),
    (.acknowledgeAgentDispatch "agent" "t1" none [], 6),
    (.completeAgentTurnWithEvent "agent" "t1"
      ⟨"terminal", "agent", "agent_turn_completed", "failed"⟩ [], 7),
    (.beginAgentDispatchWithInput "agent" [1] none false (fun _ => false), 8),
    (.rejectAgentDispatch { sampleWork with codexThreadId := some "thread" } true none
      .serverDraining, 9)]

/-- The message that turn `t1` received is marked as not sent, and a copy of it is queued. -/
theorem refused_input_is_sent_again :
    ¬(∀ before, before <+: refusedAgain → StaysSent samplePayloadHost before) ∧
      ∃ after, retryAgentInput samplePayloadHost (stateAfter samplePayloadHost refusedAgain) "agent" "thread" 1
          none 10 = .ok after ∧
        (after.agentInboxEvents.rows.map fun row => (row.id, row.eventKind, row.payload)) =
          [(1, "user_message", "hello"), (2, "agent_turn_completed", "failed"),
            (3, "user_message", "hello")] := by
  have sentRows : (stateAfter samplePayloadHost (refusedAgain.take 6)).agentInboxEvents.rows =
      [⟨1, "message", "agent", "user_message", "hello", 4, none, some ⟨"agent", "t1"⟩⟩] := by
    decide +kernel
  have copied : (retryAgentInput samplePayloadHost (stateAfter samplePayloadHost refusedAgain) "agent" "thread" 1
      none 10).toOption.map (fun after => after.agentInboxEvents.rows.map
        fun row => (row.id, row.eventKind, row.payload)) =
      some [(1, "user_message", "hello"), (2, "agent_turn_completed", "failed"),
        (3, "user_message", "hello")] := by
    decide +kernel
  have sent : SentBefore samplePayloadHost refusedAgain 1 := by
    refine ⟨refusedAgain.take 6, List.take_prefix _ _, _, sentRows ▸ List.mem_singleton_self _, rfl,
      rfl, ⟨"agent", "t1"⟩, rfl, ?_⟩
    decide
  cases retried : retryAgentInput samplePayloadHost (stateAfter samplePayloadHost refusedAgain) "agent" "thread" 1
      none 10 with
  | error failure =>
    rw [retried] at copied
    cases copied
  | ok after =>
    rw [retried] at copied
    refine ⟨?_, after, rfl, Option.some.inj copied⟩
    intro stays
    exact (stays refusedAgain (List.prefix_refl _) 1 sent).2 _ _ _ _ after retried

end Decodex.Guarantees.SentInputs
