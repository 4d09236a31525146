import Decodex.Library.JsonText
import Decodex.Guarantees.RetriesInStep
import Decodex.Guarantees.RetryTriggers

/-!
# Capacity retries are single-shot and bounded

A retry row leaves pending once, so an event is retried at most once, and no call is aborted by
the triggers that say so. The attempts that follow each other number at most three, as long as a
dispatch is never confirmed with a turn whose capacity failure is already recorded: the attempt
is counted when a failure is recorded, and a confirmed turn that failed before links two counts.
-/
namespace Decodex.Guarantees.CapacityRetries

open Decodex.Library Decodex.Source.Core Decodex.Source.Store
open Decodex.Library.JsonText (literal readBody readBody_literal readNumber readNumber_toDigits)
open Decodex.Source.Store.AgentDispatch
open Decodex.Guarantees.RetriesInStep Decodex.Guarantees.RetryTriggers

variable {host : PayloadHost} {store middle after : AgentStore} {moves back links : Prop}
  {now : Int} {id work turn note : String}

/-- The event's retry has left pending. -/
def Settled (store : AgentStore) (event : Nat) : Prop :=
  ∃ retry ∈ store.agentCapacityRetries.rows, retry.eventId = event ∧ retry.state ≠ .pending

theorem updateRetries_settled {selected : CapacityRetry → Bool}
    {change : CapacityRetry → CapacityRetry} {event : Nat}
    (done : updateRetries host store selected change = .ok after)
    (keeps : ∀ row, retryIdentity (change row) = retryIdentity row)
    (settled : Settled store event) : Settled after event := by
  obtain ⟨passed, retries, updated, rfl⟩ := updateRetries_ok done
  obtain ⟨retry, member, same, left⟩ := settled
  refine ⟨_, Table.mem_updateWhere updated member, ?_⟩
  split
  · rename_i hit
    refine ⟨(congrArg Prod.fst (keeps retry)).trans same, ?_⟩
    have transition := passed retry member hit
    unfold capacityTransition at transition
    intro returned
    simp [left, returned] at transition
  · exact ⟨same, left⟩

theorem statements_settled {event : Nat} (steps : Statements host moves back links store after)
    (settled : Settled store event) : Settled after event := by
  induction steps with
  | refl => exact settled
  | tail _ step ih =>
    cases step with
    | create inserted done => exact done ▸ ih
    | work done keeps =>
      obtain ⟨works, _, rfl⟩ := updateWork_ok done
      exact ih
    | lane allowed done keeps =>
      obtain ⟨works, _, rfl⟩ := updateWork_ok done
      exact ih
    | delegate done => exact done ▸ ih
    | record done closed =>
      obtain ⟨events, _, rfl⟩ := insertRow_ok done
      exact ih
    | instruct allowed done =>
      obtain ⟨events, _, rfl⟩ := insertRow_ok done
      exact ih
    | deliver allowed done =>
      obtain ⟨_, events, _, rfl⟩ := updateEvents_ok done
      exact ih
    | settle done =>
      obtain ⟨_, events, _, rfl⟩ := updateEvents_ok done
      exact ih
    | takeBack allowed done =>
      obtain ⟨_, events, _, rfl⟩ := updateEvents_ok done
      exact ih
    | retry done keeps => exact updateRetries_settled done (fun row => (keeps row).1) ih
    | submit allowed done => exact updateRetries_settled done (fun _ => rfl) ih
    | schedule allowed done named =>
      obtain ⟨retries, inserted, rfl⟩ := scheduleRetry_ok done
      obtain ⟨retry, member, same, left⟩ := ih
      refine ⟨retry, ?_, same, left⟩
      rw [Table.insert_rows inserted]
      exact List.mem_append_left _ member

theorem stateAfter_settled {event : Nat} (host : PayloadHost)
    (events later : List (AgentCall × Int)) (settled : Settled (stateAfter host events) event) :
    Settled (stateAfter host (events ++ later)) event := by
  induction later using List.reverseRecOn with
  | nil => rwa [List.append_nil]
  | append_singleton later last ih =>
    rw [← List.append_assoc, stateAfter_snoc]
    obtain ⟨call, now⟩ := last
    rcases afterCall_cases host (stateAfter host (events ++ later)) call now with done | ⟨_, same⟩
    · exact statements_settled (perform_statements done) ih
    · rwa [same]

/-- An accepted retry finds idle work and a pending row, and settles the row. -/
theorem beginAgentCapacityRetry_settles {event : Nat} {due : Int} {pending : Bool}
    (done : beginAgentCapacityRetry host store work event due pending now = .ok after) :
    (∃ item, store.agentWorkItems.find? work = some item ∧ item.dispatchState = .idle) ∧
      (∃ retry ∈ store.agentCapacityRetries.rows, retry.eventId = event ∧
        retry.state = .pending) ∧ Settled after event := by
  unfold beginAgentCapacityRetry at done
  obtain ⟨item, read, done⟩ := bind_ok done
  obtain ⟨_, admitted, done⟩ := bind_ok done
  obtain ⟨retry, found, done⟩ := bind_ok done
  obtain ⟨claimed, claim, done⟩ := bind_ok done
  obtain ⟨disposed, settle, done⟩ := bind_ok done
  obtain ⟨dispatching, fence, done⟩ := bind_ok done
  rw [require_eq_ok] at admitted
  rw [orElse_eq_ok] at found
  have member : retry ∈ store.agentCapacityRetries.rows := List.mem_of_find?_eq_some found
  have matched := List.find?_some found
  simp only [Bool.and_eq_true, decide_eq_true_eq] at matched
  refine ⟨⟨item, readWork_ok read, admitted.1⟩, ⟨retry, member, matched.1.1.1, matched.1.2⟩, ?_⟩
  have claimedRow : Settled claimed event := by
    obtain ⟨_, retries, updated, rfl⟩ := updateRetries_ok claim
    refine ⟨_, Table.mem_updateWhere updated member, ?_⟩
    rw [if_pos (decide_eq_true matched.1.1.1)]
    exact ⟨matched.1.1.1, nofun⟩
  have rest : Statements host True True True claimed after :=
    ((disposeEvents_statements settle).tail (.lane trivial fence fun _ => rfl)).tail
      (.deliver trivial done)
  exact statements_settled rest claimedRow

/-- A settled event is not retried. -/
theorem beginAgentCapacityRetry_refused {event : Nat} {due : Int} {pending : Bool}
    (settled : Settled store event) :
    beginAgentCapacityRetry host store work event due pending now ≠ .ok after := by
  intro done
  obtain ⟨_, ⟨retry, member, same, isPending⟩, _⟩ := beginAgentCapacityRetry_settles done
  obtain ⟨other, other_mem, sameOther, left⟩ := settled
  have equal := Table.eq_of_key other_mem member (sameOther.trans same.symm)
  exact left (equal ▸ isPending)

/-- `next` retries the turn that the retry of `previous` was confirmed with. -/
def Follows (previous next : CapacityRetry) : Prop :=
  previous.workItemId = next.workItemId ∧ previous.retryTurnId = some next.failedTurnId

/-- The attempts of followers are counted on. -/
def Linked (store : AgentStore) : Prop :=
  ∀ previous ∈ store.agentCapacityRetries.rows, ∀ next ∈ store.agentCapacityRetries.rows,
    Follows previous next → next.attempt = previous.attempt + 1

/-- A confirmed turn has no recorded capacity failure of the same work. -/
def FreshTurn (store : AgentStore) : AgentCall → Prop
  | .acknowledgeAgentDispatch id turn _ _ | .reconcileAgentDispatch id turn _ =>
    ∀ retry ∈ store.agentCapacityRetries.rows, retry.workItemId = id → retry.failedTurnId ≠ turn
  | _ => True

/-- Every retry was there before, with the turns it names. -/
def SameLinks (store after : AgentStore) : Prop :=
  ∀ retry ∈ after.agentCapacityRetries.rows, ∃ old ∈ store.agentCapacityRetries.rows,
    retryIdentity old = retryIdentity retry ∧ old.retryTurnId = retry.retryTurnId

theorem SameLinks.refl (store : AgentStore) : SameLinks store store :=
  fun retry member => ⟨retry, member, rfl, rfl⟩

theorem statements_sameLinks (steps : Statements host moves back False store after) :
    SameLinks store after := by
  induction steps with
  | refl => exact SameLinks.refl store
  | tail _ step ih =>
    cases step with
    | create inserted done => exact done ▸ ih
    | work done keeps =>
      obtain ⟨works, _, rfl⟩ := updateWork_ok done
      exact ih
    | lane allowed done keeps =>
      obtain ⟨works, _, rfl⟩ := updateWork_ok done
      exact ih
    | delegate done => exact done ▸ ih
    | record done closed =>
      obtain ⟨events, _, rfl⟩ := insertRow_ok done
      exact ih
    | instruct allowed done =>
      obtain ⟨events, _, rfl⟩ := insertRow_ok done
      exact ih
    | deliver allowed done =>
      obtain ⟨_, events, _, rfl⟩ := updateEvents_ok done
      exact ih
    | settle done =>
      obtain ⟨_, events, _, rfl⟩ := updateEvents_ok done
      exact ih
    | takeBack allowed done =>
      obtain ⟨_, events, _, rfl⟩ := updateEvents_ok done
      exact ih
    | retry done keeps =>
      obtain ⟨_, retries, updated, rfl⟩ := updateRetries_ok done
      intro retry member
      rw [Table.updateWhere_rows updated] at member
      obtain ⟨mid, mid_mem, rfl⟩ := List.mem_map.mp member
      obtain ⟨old, old_mem, identity, turn⟩ := ih mid mid_mem
      refine ⟨old, old_mem, ?_⟩
      split
      · exact ⟨identity.trans (keeps mid).1.symm, turn.trans (keeps mid).2.symm⟩
      · exact ⟨identity, turn⟩
    | submit allowed done => exact allowed.elim
    | schedule allowed done named => exact allowed.elim

theorem linked_of_sameLinks (linked : Linked store) (same : SameLinks store after) :
    Linked after := by
  intro previous previous_mem next next_mem follows
  obtain ⟨oldPrevious, oldPrevious_mem, identity, turn⟩ := same previous previous_mem
  obtain ⟨oldNext, oldNext_mem, identityNext, _⟩ := same next next_mem
  simp only [retryIdentity, Prod.mk.injEq] at identity identityNext
  have count := linked oldPrevious oldPrevious_mem oldNext oldNext_mem
    ⟨by rw [identity.2.1, identityNext.2.1]; exact follows.1,
      by rw [turn, identityNext.2.2.1]; exact follows.2⟩
  rw [← identity.2.2.2.1, ← identityNext.2.2.2.1]
  exact count

theorem submitRetries_linked (linked : Linked store)
    (fresh : ∀ retry ∈ store.agentCapacityRetries.rows, retry.workItemId = id →
      retry.failedTurnId ≠ turn)
    (done : submitRetries host store id turn = .ok after) : Linked after := by
  obtain ⟨_, retries, updated, rfl⟩ := updateRetries_ok done
  intro previous previous_mem next next_mem follows
  rw [Table.updateWhere_rows updated] at previous_mem next_mem
  obtain ⟨oldPrevious, oldPrevious_mem, rfl⟩ := List.mem_map.mp previous_mem
  obtain ⟨oldNext, oldNext_mem, rfl⟩ := List.mem_map.mp next_mem
  have identity : ∀ (hit : Bool) (row : CapacityRetry),
      retryIdentity (if hit then { row with state := .submitted, retryTurnId := some turn }
        else row) = retryIdentity row := by
    intro hit row
    split <;> rfl
  have samePrevious := identity (decide (oldPrevious.workItemId = id) &&
    decide (oldPrevious.state = .claimed)) oldPrevious
  have sameNext := identity (decide (oldNext.workItemId = id) &&
    decide (oldNext.state = .claimed)) oldNext
  simp only [retryIdentity, Prod.mk.injEq] at samePrevious sameNext
  unfold Follows at follows
  rw [samePrevious.2.1, sameNext.2.1, sameNext.2.2.1] at follows
  rw [samePrevious.2.2.2.1, sameNext.2.2.2.1]
  obtain ⟨sameWork, turns⟩ := follows
  split at turns
  · rename_i hit
    simp only [Bool.and_eq_true, decide_eq_true_eq] at hit
    exact absurd (Option.some.inj turns).symm
      (fresh oldNext oldNext_mem (sameWork.symm.trans hit.1))
  · exact linked oldPrevious oldPrevious_mem oldNext oldNext_mem ⟨sameWork, turns⟩

/-- The count goes on from the submitted retry that the turn belongs to. -/
theorem nextRetry_counts {attempt due : Int} {retry : CapacityRetry}
    (next : nextRetry store work turn now = .ok (some (attempt, due)))
    (member : retry ∈ store.agentCapacityRetries.rows) (sameWork : retry.workItemId = work)
    (sameTurn : retry.retryTurnId = some turn) : attempt = retry.attempt + 1 := by
  have checked := store.agentCapacityRetries.checked retry member
  simp only [capacityRetryTable, sameTurn, Bool.and_eq_true, decide_eq_true_eq] at checked
  have submitted : retry.state = .submitted := by simpa using checked.2
  have found : store.agentCapacityRetries.rows.find? (fun retry =>
      retry.workItemId = work && retry.retryTurnId = some turn && retry.state = .submitted) =
      some retry := by
    cases search : store.agentCapacityRetries.rows.find? (fun retry =>
        retry.workItemId = work && retry.retryTurnId = some turn && retry.state = .submitted) with
    | none =>
      have missed := List.find?_eq_none.mp search retry member
      simp [sameWork, sameTurn, submitted] at missed
    | some other =>
      have matched := List.find?_some search
      simp only [Bool.and_eq_true, decide_eq_true_eq] at matched
      have other_mem := List.mem_of_find?_eq_some search
      by_contra apart
      have keys : other.eventId ≠ retry.eventId := fun same =>
        apart (congrArg some (Table.eq_of_key other_mem member same))
      have clash := Table.no_clash other_mem member keys
      simp [capacityRetryTable, matched.1.1, matched.1.2, sameWork, sameTurn] at clash
  unfold nextRetry at next
  rw [found] at next
  dsimp only [Option.map_some, Option.getD_some] at next
  have due_eq : ∀ delay : Int, (if now + delay ≤ i64Max then
      (.ok (some (retry.attempt + 1, now + delay)) : Except AgentFailure (Option (Int × Int)))
      else .error (invalidInput "retry deadline overflow")) = .ok (some (attempt, due)) →
      attempt = retry.attempt + 1 := by
    intro delay taken
    split at taken
    · cases taken
      rfl
    · cases taken
  split at next
  · exact due_eq _ next
  · split at next
    · exact due_eq _ next
    · split at next
      · exact due_eq _ next
      · cases next

theorem scheduleRetry_linked {event : Nat} {attempt due : Int} (linked : Linked middle)
    (same : SameLinks store middle)
    (next : nextRetry store work turn now = .ok (some (attempt, due)))
    (done : scheduleRetry middle event work turn attempt due = .ok after) : Linked after := by
  obtain ⟨retries, inserted, rfl⟩ := scheduleRetry_ok done
  intro previous previous_mem following following_mem follows
  rw [Table.insert_rows inserted, List.mem_append, List.mem_singleton] at previous_mem following_mem
  rcases previous_mem with previous_mem | rfl
  · rcases following_mem with following_mem | rfl
    · exact linked previous previous_mem following following_mem follows
    · obtain ⟨old, old_mem, identity, turns⟩ := same previous previous_mem
      simp only [retryIdentity, Prod.mk.injEq] at identity
      rw [← identity.2.2.2.1]
      exact nextRetry_counts next old_mem (identity.2.1.trans follows.1) (turns.trans follows.2)
  · cases follows.2

theorem perform_linked {call : AgentCall} (linked : Linked store) (fresh : FreshTurn store call)
    (done : perform host store now call = .ok after) : Linked after := by
  have confirmed {id turn : String} {accepted : AgentStore}
      (before : Statements host True True False store accepted)
      (fresh : ∀ retry ∈ store.agentCapacityRetries.rows, retry.workItemId = id →
        retry.failedTurnId ≠ turn)
      (submit : submitRetries host accepted id turn = .ok after) : Linked after := by
    have same := statements_sameLinks before
    refine submitRetries_linked (linked_of_sameLinks linked same) ?_ submit
    intro retry member sameWork
    obtain ⟨old, old_mem, identity, _⟩ := same retry member
    simp only [retryIdentity, Prod.mk.injEq] at identity
    rw [← identity.2.2.1]
    exact fresh old old_mem (identity.2.1.trans sameWork)
  by_cases links : call.links
  · cases call with
    | acknowledgeAgentDispatch id turn execution deliveries =>
      obtain ⟨accepted, before, submit⟩ := acknowledgeAgentDispatch_submits done
      exact confirmed before fresh submit
    | reconcileAgentDispatch id turn deliveries =>
      obtain ⟨accepted, before, submit⟩ := reconcileAgentDispatch_submits done
      exact confirmed before fresh submit
    | completeAgentTurnWithEvent id turn input partialOutput =>
      obtain ⟨_, handled, before, ended⟩ := completeAgentTurnWithEvent_schedules done
      have same : SameLinks store handled :=
        statements_sameLinks (show Statements host True True False store handled from before)
      have held := linked_of_sameLinks linked same
      rcases ended with rfl | ⟨event, attempt, due, next, schedule⟩
      · exact held
      · exact scheduleRetry_linked held same next schedule
    | _ => exact links.elim
  · have steps := perform_statements done
    simp only [links] at steps
    exact linked_of_sameLinks linked (statements_sameLinks steps)

/-- Attempts lie between one and three, and each follower counts on. -/
theorem chain_length_le (linked : Linked store) (chain : List CapacityRetry)
    (held : ∀ retry ∈ chain, retry ∈ store.agentCapacityRetries.rows)
    (follows : chain.IsChain Follows) : chain.length ≤ 3 := by
  have bounds : ∀ retry ∈ store.agentCapacityRetries.rows, 1 ≤ retry.attempt ∧ retry.attempt ≤ 3 := by
    intro retry member
    have checked := store.agentCapacityRetries.checked retry member
    simp only [capacityRetryTable, Bool.and_eq_true, decide_eq_true_eq] at checked
    exact checked.1.1.1
  have counted : ∀ (rest : List CapacityRetry) (first : CapacityRetry),
      (∀ retry ∈ first :: rest, retry ∈ store.agentCapacityRetries.rows) →
      (first :: rest).IsChain Follows → first.attempt + rest.length ≤ 3 := by
    intro rest
    induction rest with
    | nil =>
      intro first held _
      have bound := bounds first (held first (List.mem_singleton_self _))
      simp only [List.length_nil]
      omega
    | cons second rest ih =>
      intro first held follows
      rw [List.isChain_cons_cons] at follows
      have next := linked first (held first (by simp)) second (held second (by simp)) follows.1
      have later := ih second (fun retry member => held retry (List.mem_cons_of_mem _ member))
        follows.2
      simp only [List.length_cons]
      omega
  cases chain with
  | nil => exact Nat.zero_le 3
  | cons first rest =>
    have bound := bounds first (held first (by simp))
    have total := counted rest first held follows
    simp only [List.length_cons]
    omega

/-- Every dispatch the run confirms is confirmed with a fresh turn. -/
def FreshTurns (host : PayloadHost) (events : List (AgentCall × Int)) : Prop :=
  ∀ before call now, before ++ [(call, now)] <+: events → FreshTurn (stateAfter host before) call

/-- What holds of the state that a run reaches, and from there on. -/
structure SingleShot (host : PayloadHost) (events : List (AgentCall × Int)) : Prop where
  /-- A row is pending exactly while its event is undisposed. -/
  matched : Matched (stateAfter host events)
  /-- A row that has left pending never returns to it. -/
  settled : ∀ event, Settled (stateAfter host events) event →
    ∀ later, Settled (stateAfter host (events ++ later)) event
  /-- A retry finds idle work, and no later one succeeds for the same event. -/
  begun : ∀ work event due pending now after,
    perform host (stateAfter host events) now (.beginAgentCapacityRetry work event due pending) =
      .ok after →
    (∃ item, (stateAfter host events).agentWorkItems.find? work = some item ∧
      item.dispatchState = .idle) ∧
    ∀ later work' due' pending' now' after',
      perform host (stateAfter host
        (events ++ [(.beginAgentCapacityRetry work event due pending, now)] ++ later)) now'
        (.beginAgentCapacityRetry work' event due' pending') ≠ .ok after'
  /-- At most three attempts follow each other, when fresh turns confirm the dispatches. -/
  chained : FreshTurns host events → ∀ chain : List CapacityRetry,
    (∀ retry ∈ chain, retry ∈ (stateAfter host events).agentCapacityRetries.rows) →
    chain.IsChain Follows → chain.length ≤ 3
  /-- No call is aborted by the triggers. -/
  unaborted : ∀ call now message,
    message ∈ ["event already disposed", "capacity retry cannot be replayed"] →
    perform host (stateAfter host events) now call ≠ .error (.raised message)

/-- In every run that keeps the promises of its callers capacity retries are single-shot, and
bounded where it confirms fresh turns only. -/
theorem capacity_retries_are_bounded (host : PayloadHost) (readsBack : ReadsBack host)
    (events : List (AgentCall × Int))
    (kept : ∀ before call now, before ++ [(call, now)] <+: events → Promised call) :
    SingleShot host events := by
  have inStep : InStep (stateAfter host events) :=
    stateAfter_invariant (fun _ call => Promised call)
      ⟨List.forall_mem_nil _, List.forall_mem_nil _⟩
      (fun _ _ _ _ held promised done => perform_inStep held promised done) events kept
  have linked (fresh : FreshTurns host events) : Linked (stateAfter host events) :=
    stateAfter_invariant FreshTurn (List.forall_mem_nil _)
      (fun _ _ _ _ held fresh done => perform_linked held fresh done) events fresh
  refine ⟨inStep.pending, fun event settled later => stateAfter_settled host events later settled,
    ?_, fun fresh => chain_length_le (linked fresh), ?_⟩
  · intro work event due pending now after done
    have performed : beginAgentCapacityRetry host (stateAfter host events) work event due pending
        now = .ok after := done
    obtain ⟨idle, _, settled⟩ := beginAgentCapacityRetry_settles performed
    refine ⟨idle, ?_⟩
    intro later work' due' pending' now' after'
    apply beginAgentCapacityRetry_refused
    apply stateAfter_settled
    rw [stateAfter_snoc, afterCall_of_ok done]
    exact settled
  · intro call now message trigger raised
    have manager := perform_unraised readsBack call message raised
    subst manager
    revert trigger
    decide

def overloadedWork : AgentWorkItem :=
  ⟨"worker", none, .goal, none, .idle, none, .opened, none, 0, 0⟩

/-- A dispatch that turn `turn` confirms, and that ends with a receipt. -/
def failedTurn (source turn payload : String) : List (AgentCall × Int) :=
  [(.acknowledgeAgentDispatch "worker" turn none [], 1),
    (.completeAgentTurnWithEvent "worker" turn
      ⟨source, "worker", "agent_turn_completed", payload⟩ [], 1)]

def firstFailure (payload : String) : List (AgentCall × Int) :=
  [(.createAgentWork overloadedWork true, 1),
    (.beginAgentThreadCreation "worker", 1),
    (.acknowledgeAgentThreadCreation "worker" "thread", 1),
    (.beginAgentDispatchWithInput "worker" [] none false (fun _ => false), 1)] ++
  failedTurn "first" "t1" payload

/-- The members of the receipt of a turn that failed for want of capacity. -/
def overloadedMembers : String :=
  "\"terminal\":\x7b\"turn\":\x7b\"status\":\"failed\",\"error\":" ++
    "\x7b\"codexErrorInfo\":\"serverOverloaded\"\x7d\x7d\x7d," ++
    "\"threadReadback\":\x7b\"capacityRetryEligible\":true\x7d"

def overloadedPayload : String := "\x7b" ++ overloadedMembers ++ "\x7d"

/-- That receipt with the member `capacityRetry`. -/
def retriedPayload (retry : String) : String :=
  "\x7b" ++ overloadedMembers ++ ",\"capacityRetry\":\x7b" ++ retry ++ "\x7d\x7d"

def quoted (text : String) : String := String.ofList (literal text.toList)

/-- The event and the reason in the receipt of a refused retry. -/
def readRejection (payload : String) : Option (Nat × String) := do
  let (event, rest) := readNumber (← payload.toList.dropPrefix? "\x7b\"retryEventId\":".toList)
  let (reason, _) ← readBody (← rest.dropPrefix? ",\"reason\":\"".toList)
  some (event, String.ofList reason)

/-- The texts of the capacity receipt and of a refusal, members in the order of their writing. -/
def jsonHost : PayloadHost where
  completed _ := false
  capacityFailure payload := payload = overloadedPayload
  exhausted _ := retriedPayload "\"exhausted\":true,\"attempt\":3"
  scheduled _ attempt due :=
    retriedPayload ("\"attempt\":" ++ toString attempt ++ ",\"dueAtMicros\":" ++ toString due)
  cancelled payload := some payload
  rejection event reason := String.ofList ("\x7b\"retryEventId\":".toList ++
    (Nat.toDigits 10 event ++ (",\"reason\":".toList ++ (literal reason.toList ++ ['\x7d']))))
  retryEventId payload := (readRejection payload).map (·.1)
  reason payload := (readRejection payload).map (·.2)
  terminalOf _ _ _ := false
  sourceKey parts := match parts with
    | [kind, event] => "[" ++ quoted kind ++ "," ++ event ++ "]"
    | parts => "[" ++ ",".intercalate (parts.map quoted) ++ "]"
  instruction text thread := "\x7b\"text\":" ++ quoted text ++ ",\"source\":\"manager\"," ++
    "\"threadId\":" ++ thread.elim "null" quoted ++ "\x7d"

theorem readRejection_rejection (event : Nat) (reason : String) :
    readRejection (jsonHost.rejection event reason) = some (event, reason) := by
  have number : readNumber (Nat.toDigits 10 event ++
      (",\"reason\":".toList ++ (literal reason.toList ++ ['\x7d']))) =
      (event, ",\"reason\":\"".toList ++ (reason.toList.flatMap JsonText.escape ++
        JsonText.quote :: ['\x7d'])) := by
    rw [show ",\"reason\":".toList = ',' :: "\"reason\":".toList by rfl, List.cons_append,
      readNumber_toDigits event (by decide)]
    simp [literal, JsonText.quote]
  unfold readRejection
  simp only [jsonHost, String.toList_ofList]
  rw [List.dropPrefix?_append_of_beq _ (by rfl)]
  simp only [Option.bind_eq_bind, Option.bind_some, number]
  rw [List.dropPrefix?_append_of_beq _ (by rfl)]
  simp [readBody_literal]

theorem jsonHost_readsBack : ReadsBack jsonHost := by
  intro event reason
  have event_read (payload : String) :
      jsonHost.retryEventId payload = (readRejection payload).map (·.1) := rfl
  have reason_read (payload : String) :
      jsonHost.reason payload = (readRejection payload).map (·.2) := rfl
  rw [event_read, reason_read, readRejection_rejection]
  exact ⟨rfl, rfl⟩

/-- The retry of a failed turn begins and is refused. -/
def refusedRetry : List (AgentCall × Int) :=
  firstFailure overloadedPayload ++
  [(.beginAgentCapacityRetry "worker" 1 100000000 false, 1),
    (.rejectAgentDispatch { overloadedWork with codexThreadId := some "thread" } true (some 1)
      .serverDraining, 2)]

theorem refusedRetry_freshTurns : FreshTurns jsonHost refusedRetry := by
  apply good_of_earlier
  intro i short
  have confirmed : (stateAfter jsonHost (refusedRetry.take 4)).agentCapacityRetries.rows = [] := by
    decide +kernel
  match i, short with
  | 0, _ | 1, _ | 2, _ | 3, _ | 5, _ | 6, _ | 7, _ => trivial
  | 4, _ =>
    intro retry member
    rw [confirmed] at member
    cases member

theorem refused_retry_is_single_shot :
    SingleShot jsonHost refusedRetry ∧ FreshTurns jsonHost refusedRetry := by
  refine ⟨capacity_retries_are_bounded jsonHost jsonHost_readsBack refusedRetry
    (@good_of_earlier jsonHost (fun _ call => Promised call) _ ?_), refusedRetry_freshTurns⟩
  intro i short
  match i, short with
  | 0, _ | 1, _ | 2, _ | 3, _ | 4, _ | 6, _ | 7, _ => trivial
  | 5, _ => exact (by decide : isTurnReceipt "agent_turn_completed" = true)

/-- A host with a name in place of each text: of a payload the run below reads only that the turn failed
for want of capacity. -/
def plainHost : PayloadHost where
  completed _ := false
  capacityFailure payload := payload = "overloaded"
  exhausted payload := payload
  scheduled payload _ _ := payload
  cancelled payload := some payload
  rejection _ reason := reason
  retryEventId _ := none
  reason _ := none
  terminalOf _ _ _ := false
  sourceKey parts := "/".intercalate parts
  instruction text _ := text

/-- Turn `t1` fails, two more retries follow it, and then the retry of another turn is confirmed
with `t1` again. -/
def reusedTurn : List (AgentCall × Int) :=
  firstFailure "overloaded" ++
  [(.beginAgentCapacityRetry "worker" 1 100000000 false, 1)] ++ failedTurn "second" "t2" "overloaded" ++
  [(.beginAgentCapacityRetry "worker" 2 100000000 false, 1)] ++ failedTurn "third" "t3" "overloaded" ++
  [(.beginAgentDispatchWithInput "worker" [] none false (fun _ => false), 1)] ++
  failedTurn "other" "s0" "overloaded" ++
  [(.beginAgentCapacityRetry "worker" 4 100000000 false, 1),
    (.acknowledgeAgentDispatch "worker" "t1" none [], 1)]

theorem reused_turn_chains_four_attempts :
    ∃ chain : List CapacityRetry,
      (∀ retry ∈ chain,
        retry ∈ (stateAfter plainHost reusedTurn).agentCapacityRetries.rows) ∧
      chain.IsChain Follows ∧ chain.length = 4 := by
  have rows : (stateAfter plainHost reusedTurn).agentCapacityRetries.rows =
      [⟨1, "worker", "t1", 1, 15000001, .submitted, some "t2"⟩,
        ⟨2, "worker", "t2", 2, 30000001, .submitted, some "t3"⟩,
        ⟨3, "worker", "t3", 3, 60000001, .cancelled, none⟩,
        ⟨4, "worker", "s0", 1, 15000001, .submitted, some "t1"⟩] := by
    decide +kernel
  refine ⟨[⟨4, "worker", "s0", 1, 15000001, .submitted, some "t1"⟩,
    ⟨1, "worker", "t1", 1, 15000001, .submitted, some "t2"⟩,
    ⟨2, "worker", "t2", 2, 30000001, .submitted, some "t3"⟩,
    ⟨3, "worker", "t3", 3, 60000001, .cancelled, none⟩], ?_, by simp [Follows], rfl⟩
  intro retry member
  rw [rows]
  simp only [List.mem_cons, List.not_mem_nil, or_false] at member ⊢
  rcases member with first | second | third | fourth
  · exact .inr (.inr (.inr first))
  · exact .inl second
  · exact .inr (.inl third)
  · exact .inr (.inr (.inl fourth))

end Decodex.Guarantees.CapacityRetries
