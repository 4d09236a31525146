import Decodex.Guarantees.CommandService

/-!
# Commands are served in order

Source: crates/decodex-runtime/src/websocket.rs:1732-1797, 2027-2226 and 2332-2436. Whatever the
sessions submit and however the application's operations end, the owner answers the commands as one
who takes them one by one in the order of their arrival, and what it keeps for a key stays.
-/
namespace Decodex.Guarantees.ServedCommands

open Decodex.Library Decodex.Library.Receipts Decodex.Source.Protocol.SessionMessages
open Decodex.Source.Runtime.Publication Decodex.Guarantees.CommandService

section Steps

variable {V : Vocabulary} {server : Server V} {owner next : Owner V}
  {trace : List (OwnerEvent V)} {event : OwnerEvent V}

theorem serving_step (moved : Step server owner event next)
    (serving : Serving server trace owner) (going : next.directive = .proceed) :
    Serving server (trace ++ [event]) next := by
  cases moved with
  | task moved allowed room => exact serving.task allowed
  | connected waits room =>
    unfold Owner.handleAccepted at going ⊢
    dsimp only at going ⊢
    rw [if_neg (not_not.mpr waits.directive)] at going ⊢
    split at going
    · exact absurd going (OwnerOrder.stop_beginStopping _ _)
    rename_i spare
    rw [if_neg spare]
    exact serving.quiet waits rfl rfl rfl rfl rfl rfl rfl rfl rfl rfl
  | refused waits room =>
    unfold Owner.handleAccepted
    dsimp only
    split
    · exact serving.quiet waits rfl rfl rfl rfl rfl rfl rfl rfl rfl rfl
    · exact serving.quiet waits rfl rfl rfl rfl rfl rfl rfl rfl rfl rfl
  | ingressClosed waits room next => exact absurd going (OwnerOrder.stop_beginStopping _ _)
  | received waits room queue =>
    exact serving.handleRequest waits.agenda waits.directive rfl rfl rfl rfl
      (takes_received waits queue) _
  | resumed ended accepting idle queue =>
    exact serving.handleRequest ended accepting rfl rfl rfl rfl
      (takes_resumed ended accepting idle queue) _
  | applicationEvent waits polls => exact serving.applicationEvent waits going
  | eventsEnded waits polls => exact absurd going (OwnerOrder.stop_beginStopping _ _)
  | completed waits expected => exact serving.finishOperation waits expected going
  | harvested waits returned =>
    exact serving.quiet waits rfl rfl rfl rfl rfl rfl rfl rfl rfl rfl
  | taskFailed waits fails => exact absurd going (OwnerOrder.harvestFailure_stops _ _ _)
  | shutdownRequested waits => exact absurd going (OwnerOrder.stop_beginStopping _ _)
  | listenerHealth waits =>
    exact serving.quiet waits rfl rfl rfl rfl rfl rfl rfl rfl rfl rfl
  | worked queue visits =>
    refine serving.work queue ?_ going
    by_contra stopped
    exact AcceptingOwner.step_stopped stopped (.worked queue visits) going

theorem serving_of_run (run : Run (Step server) ({} : Owner V) trace owner)
    (accepting : owner.directive = .proceed) : Serving server trace owner := by
  have start : Serving server [] ({} : Owner V) := by
    refine ⟨⟨?_, ?_, fun _ _ => rfl⟩, [], [], rfl, rfl, .nil _, rfl, .refl _, rfl, .refl _, .refl _⟩
    · intro active held
      cases held
    · intro connection message member
      cases member
  have kept := run.history (fun trace owner => owner.directive = .proceed →
    Serving server trace owner) (by
      intro before owner event next moved held going
      refine serving_step moved (held ?_) going
      by_contra stopped
      exact AcceptingOwner.step_stopped stopped moved going) fun _ => start
  exact kept accepting

/-- Over every run of the owner and its tasks, while the owner accepts, there is a list of served
commands by which every command that was submitted is answered as one by one: in the order of
arrival, each once, executed exactly when no result is kept under its key and there is room, and
answered from the kept result otherwise; what it publishes follows its answer, and nothing else is
published but the events of the application, in their order. -/
theorem commands_served_one_by_one (run : Run (Step server) ({} : Owner V) trace owner)
    (accepting : owner.directive = .proceed) :
    ∃ served announced, Book server trace owner served announced :=
  (serving_of_run run accepting).2

theorem handleRequest_receipts (server : Server V) (owner : Owner V)
    (independent : Option (List V.SnapshotItem)) (request : Request V) :
    (owner.handleRequest server independent request).receipts = owner.receipts := by
  have flushed : ∀ change : Owner V, change.flushDeferredEvents.receipts = change.receipts := by
    intro change
    unfold Owner.flushDeferredEvents
    split <;> rfl
  unfold Owner.handleRequest
  split
  · split
    · rfl
    split
    · rfl
    dsimp only
    split
    · unfold Owner.finishRegistrationSnapshot
      dsimp only
      split
      · exact flushed _
      split
      · rfl
      · exact flushed _
    · rfl
  · rfl
  · split
    · rfl
    · unfold Owner.handleCommandRequest
      dsimp only
      split
      · rfl
      · split <;> rfl

/-- No step of the owner changes a result that is kept. -/
theorem step_keeps (moved : Step server owner event next) (ready : Ready server owner)
    {key : ProtocolVersion × String} {stored : StoredCommand V}
    (found : owner.receipts.find? key = some stored) : next.receipts.find? key = some stored := by
  cases moved with
  | task moved allowed room => exact found
  | connected waits room =>
    unfold Owner.handleAccepted
    dsimp only
    rw [if_neg (not_not.mpr waits.directive)]
    split
    · exact found
    · exact found
  | refused waits room =>
    unfold Owner.handleAccepted
    dsimp only
    split
    · exact found
    · exact found
  | ingressClosed waits room next => exact found
  | received waits room queue =>
    rw [handleRequest_receipts]
    exact found
  | resumed ended accepting idle queue =>
    rw [handleRequest_receipts]
    exact found
  | applicationEvent waits polls =>
    unfold Owner.handleApplicationEvent
    dsimp only
    split
    · split
      · exact found
      · exact found
    · exact found
  | eventsEnded waits polls => exact found
  | harvested waits returned => exact found
  | @taskFailed failure waits fails =>
    unfold Owner.harvestFailure
    split <;> exact found
  | shutdownRequested waits => exact found
  | listenerHealth waits => exact found
  | worked queue visits =>
    unfold Owner.work
    rw [queue]
    dsimp only
    split
    · exact found
    · exact found
    · unfold Owner.publishEventLocked
      split
      · exact found
      · exact found
    · exact found
  | @completed completion waits expected =>
    unfold Owner.finishOperation
    split
    · rename_i active execution held
      cases execution with
      | none => exact found
      | some execution =>
        obtain ⟨⟨absent, -⟩, -⟩ := ready.started active held
        unfold Owner.finishActiveCommand
        dsimp only
        split
        · rw [KeyedMap.find?_insert, if_neg]
          · exact found
          · rintro rfl
            have absent : owner.receipts.find? (active.version, active.command.idempotencyKey) =
                none := absent
            rw [absent] at found
            cases found
        · exact found
    · rename_i pending items held
      have flushed := flushed_finishRegistration server { owner with operation := none }
        waits.agenda pending items
      rw [flushed.receipts]
      exact found
    · exact found

theorem run_stopped {events : List (OwnerEvent V)} (run : Run (Step server) owner events next)
    (accepting : next.directive = .proceed) : owner.directive = .proceed := by
  by_contra stopped
  have kept := run.invariant
    (fun _ _ _ moved held => AcceptingOwner.step_stopped held moved) stopped
  exact kept accepting

theorem run_keeps {events : List (OwnerEvent V)} (run : Run (Step server) owner events next)
    (accepting : next.directive = .proceed) {key : ProtocolVersion × String}
    {stored : StoredCommand V} :
    ∀ trace, Serving server trace owner → owner.receipts.find? key = some stored →
      next.receipts.find? key = some stored := by
  induction run with
  | nil => exact fun _ _ found => found
  | cons first rest ih =>
    intro trace serving found
    exact ih accepting _ (serving_step first serving (run_stopped rest accepting))
      (step_keeps first serving.1 found)

/-- What is kept under a key stays as it is, whatever runs later while the owner accepts. It is the
result of one execution under the key, and none comes after it; no command under the key is executed
again, each is answered from what is kept when its turn comes; and no version keeps more results
than the capacity. -/
theorem kept_results_stay {events : List (OwnerEvent V)}
    (before : Run (Step server) ({} : Owner V) trace owner)
    (after : Run (Step server) owner events next) (accepting : next.directive = .proceed)
    (submission : Submission V) {stored : StoredCommand V}
    (found : owner.receipts.find? ((commandPolicy server).key submission) = some stored) :
    next.receipts.find? ((commandPolicy server).key submission) = some stored ∧
      (∀ active, next.operation = some (.command active) →
        (commandPolicy server).key (submissionOf active) ≠ (commandPolicy server).key submission) ∧
      (next.operation = none → ∀ independent,
        (next.handleRequest server independent (.command submission.connection submission.command
          submission.version)).agenda =
            answerWith server submission .duplicate stored.originalClientCommandId
              (laterResult server stored submission) ++ [.reply submission.connection false]) ∧
      (∀ version, Receipts.count (commandPolicy server) next.receipts version ≤
        server.receiptCapacity) ∧
      ∃ served announced, Book server (trace ++ events) next served announced ∧
        ∃ earlier first execution later, served = earlier ++ first :: later ∧
          (commandPolicy server).key first.request = (commandPolicy server).key submission ∧
          first.execution = some execution ∧
          stored = (commandPolicy server).receipt first.request execution ∧
          ∀ other ∈ later, (commandPolicy server).key other.request =
            (commandPolicy server).key submission → other.execution = none := by
  have serving := serving_of_run before (run_stopped after accepting)
  have kept := run_keeps after accepting trace serving found
  obtain ⟨ready, served, announced, book⟩ := serving_of_run (before.append after) accepting
  refine ⟨kept, ?_, ?_, ?_, served, announced, book, ?_⟩
  · intro active held same
    have absent := (ready.started active held).1.1
    rw [same, kept] at absent
    cases absent
  · intro idle independent
    have found : next.receipts.find? (submission.version, submission.command.idempotencyKey) =
        some stored := kept
    unfold Owner.handleRequest
    dsimp only
    rw [idle, if_neg (by simp)]
    unfold Owner.handleCommandRequest
    dsimp only
    rw [found]
    unfold laterResult Owner.answerCommand Owner.duplicateResult answerWith fingerprintOf
    dsimp only
    by_cases same : stored.fingerprint = server.serialize submission.version
        submission.command.expectedRevision submission.command.payload
    · rw [if_pos same, if_neg (not_not.mpr same)]
      rfl
    · rw [if_neg same, if_pos same]
      rfl
  · exact Receipts.bounded_of_run book.serves fun _ => Nat.zero_le _
  · obtain ⟨earlier, later, first, execution, split, key, executed, -, receipt, unexecuted⟩ :=
      Receipts.executed_of_found book.serves rfl kept
    exact ⟨earlier, first, execution, later, split, key, executed, receipt, unexecuted⟩

end Steps

def exampleCommand : CommandEnvelope AcceptingOwner.plain :=
  ⟨currentVersion, "first", "key", none, "turn", none, ()⟩

def exampleExecution : Execution AcceptingOwner.plain := .ok ⟨(), (), "entity", 1, ()⟩

open AcceptingOwner in
/-- A session submits a command, and the application executes it. -/
theorem example_run : ∃ trace, ∃ owner : Owner plain, Run (Step exampleServer) {} trace owner ∧
    owner.directive = .proceed ∧ owner.operation = none ∧
    trace.flatMap executionsOf = [exampleExecution] ∧
    owner.receipts.find? (currentVersion, "key") = some ⟨[], "first",
      resultOf exampleServer ⟨1, exampleCommand, currentVersion⟩ exampleExecution⟩ := by
  have begun : Run (Step exampleServer) {} [] {} := .nil _
  have connected := begun.snoc (.connected 1) (.connected ⟨rfl, rfl, fun _ => rfl⟩ (by decide))
  have greeted := connected.snoc (.task 1 (.helloReceived exampleHello)) (.task rfl rfl (by decide))
  have registered := greeted.snoc (.received (.register 1 exampleHello currentVersion) (some []))
    (.received ⟨rfl, rfl, fun _ => rfl⟩ (by decide) rfl)
  have welcomed := registered.snoc (.task 1 .initialWritten) (.task rfl rfl (by decide))
  have informed := welcomed.snoc (.task 1 .initialWritten) (.task rfl rfl (by decide))
  have opened := informed.snoc (.task 1 .initialDone) (.task rfl rfl (by decide))
  have submitted := opened.snoc (.task 1 (.submits exampleCommand)) (.task rfl rfl (by decide))
  have started := submitted.snoc (.received (.command 1 exampleCommand currentVersion) none)
    (.received ⟨rfl, rfl, fun _ => rfl⟩ (by decide) rfl)
  have executed := started.snoc (.completed (.command (some exampleExecution)))
    (.completed ⟨rfl, rfl, fun _ => rfl⟩ rfl)
  exact ⟨_, _, executed, rfl, rfl, rfl, rfl⟩

open AcceptingOwner in
theorem example_command_served : ∃ trace, ∃ owner : Owner plain, ∃ served announced,
    trace.flatMap executionsOf = [exampleExecution] ∧
      Book exampleServer trace owner served announced := by
  obtain ⟨trace, owner, run, accepting, -, executions, -⟩ := example_run
  obtain ⟨served, announced, book⟩ := commands_served_one_by_one run accepting
  exact ⟨trace, owner, served, announced, executions, book⟩

open AcceptingOwner in
/-- A later command under the same key is answered from what is kept. -/
theorem example_repetition_answered : ∃ trace, ∃ owner : Owner plain,
    Run (Step exampleServer) {} trace owner ∧
      (owner.handleRequest exampleServer none (.command 2 exampleCommand currentVersion)).agenda =
        answerWith exampleServer ⟨2, exampleCommand, currentVersion⟩ .duplicate "first"
          (resultOf exampleServer ⟨1, exampleCommand, currentVersion⟩ exampleExecution) ++
            [.reply 2 false] := by
  obtain ⟨trace, owner, run, accepting, idle, -, kept⟩ := example_run
  have stays := kept_results_stay run (.nil owner) accepting
    ⟨2, exampleCommand, currentVersion⟩ kept
  exact ⟨trace, owner, run, stays.2.2.1 idle none⟩

end Decodex.Guarantees.ServedCommands
