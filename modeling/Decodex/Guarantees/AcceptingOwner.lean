import Decodex.Library.Run
import Decodex.Guarantees.OwnerOrder

/-!
# An accepting owner

Source: crates/decodex-runtime/src/websocket.rs:1732-1797 and 1871-2570. Over every run of the owner
and its tasks, while the owner accepts, it begins to stop exactly when it is asked to, when its
listener is no longer valid, when its ingress or the events of its application have ended, when a
spawn id, the cursor or an ordinal is exhausted, when the application has panicked, when a task is
not as it was recorded, has failed or was lost, when a message could not be encoded, and for one
race that a session can lose.
-/
namespace Decodex.Guarantees.AcceptingOwner

open Decodex.Library Decodex.Source.Protocol.SessionMessages
open Decodex.Source.Runtime.Publication Decodex.Guarantees.SessionTasks
open Decodex.Guarantees.SessionCompletions Decodex.Guarantees.OwnerOrder

section Steps

variable {V : Vocabulary} {server : Server V} {owner : Owner V} {ledger : Ledger V}

/-- One step of an owner that accepts. -/
theorem orderly_step (orderly : Orderly owner ledger) (accepting : owner.directive = .proceed)
    {event : OwnerEvent V} {next : Owner V} (moved : Step server owner event next) :
    Proceeds server owner ledger event next := by
  cases moved with
  | task moved allowed room =>
    exact ⟨fun faulty => absurd faulty id, fun _ => ⟨orderly.task moved, accepting⟩⟩
  | connected waits room =>
    exact orderly.handleAccepted waits
  | refused waits room => exact orderly.handleRefused accepting _
  | ingressClosed waits room next => exact ⟨fun _ => stop_beginStopping _ _, absurd trivial⟩
  | @received request rest independent waits room next =>
    refine ⟨fun faulty => absurd faulty id, fun _ => ?_⟩
    obtain ⟨ready, taken⟩ := orderly.take { owner with ingress := rest } rfl rfl waits.agenda
      rfl rfl (take_received next)
    obtain ⟨kept, directive⟩ := ready.handleRequest server waits.agenda taken _
    exact ⟨kept, directive.trans accepting⟩
  | @resumed request rest independent ended accepting idle next =>
    refine ⟨fun faulty => absurd faulty id, fun _ => ?_⟩
    obtain ⟨ready, taken⟩ := orderly.take { owner with deferredRequests := rest } rfl rfl ended
      rfl rfl (take_resumed next)
    obtain ⟨kept, directive⟩ := ready.handleRequest server ended taken _
    exact ⟨kept, directive.trans accepting⟩
  | applicationEvent waits polls =>
    refine ⟨fun faulty => absurd faulty id, fun _ => ?_⟩
    exact orderly.applicationEvent waits polls.2
  | eventsEnded waits polls => exact ⟨fun _ => stop_beginStopping _ _, absurd trivial⟩
  | completed waits expected => exact orderly.finishOperation waits expected
  | harvested waits returned => exact orderly.harvest accepting returned
  | taskFailed waits fails => exact ⟨fun _ => harvestFailure_stops _ _ _, absurd trivial⟩
  | shutdownRequested waits => exact ⟨fun _ => stop_beginStopping _ _, absurd trivial⟩
  | @listenerHealth refusal waits =>
    cases refusal with
    | none =>
      refine ⟨fun refused => (by cases refused), fun _ => ?_⟩
      dsimp only [Option.map_none, Option.getD_none]
      rw [stop_proceed]
      exact ⟨orderly, accepting⟩
    | some refusal => exact ⟨fun _ => stop_beginStopping _ _, fun valid => absurd rfl valid⟩
  | @worked work rest visited next visits =>
    cases work with
    | send connection message counted => exact orderly.workSend accepting next visited
    | publish version publication => exact orderly.workPublish accepting next visited
    | reply connection whileSubscribed => exact orderly.workReply accepting next visited

/-- An owner that has begun to stop does not accept again. -/
theorem step_stopped {event : OwnerEvent V} {next : Owner V}
    (stopped : owner.directive ≠ .proceed) (moved : Step server owner event next) :
    next.directive ≠ .proceed := by
  have stays : ∀ directive, (owner.stop directive).directive ≠ .proceed := by
    intro directive
    unfold Owner.stop
    cases held : owner.directive with
    | proceed => exact absurd held stopped
    | beginStopping cause =>
      intro going
      cases going
  cases moved with
  | task moved allowed room => exact stopped
  | connected waits room => exact absurd waits.directive stopped
  | refused waits room => exact absurd waits.directive stopped
  | ingressClosed waits room next => exact absurd waits.directive stopped
  | received waits room next => exact absurd waits.directive stopped
  | resumed ended accepting idle next => exact absurd accepting stopped
  | applicationEvent waits polls => exact absurd waits.directive stopped
  | eventsEnded waits polls => exact absurd waits.directive stopped
  | completed waits expected => exact absurd waits.directive stopped
  | harvested waits returned => exact absurd waits.directive stopped
  | taskFailed waits fails => exact absurd waits.directive stopped
  | shutdownRequested waits => exact absurd waits.directive stopped
  | listenerHealth waits => exact absurd waits.directive stopped
  | worked next visits =>
    unfold Owner.work
    rw [next]
    dsimp only
    split
    · exact stopped
    · exact stays _
    · unfold Owner.publishEventLocked
      split
      · exact stays _
      · exact stopped
    · exact stopped

end Steps

section Runs

variable {V : Vocabulary} {server : Server V} {trace : List (OwnerEvent V)}
  {state : Owner V × Ledger V}

def InOrder (state : Owner V × Ledger V) : Prop :=
  state.1.directive = .proceed → Orderly state.1 state.2

theorem inOrder_step : ∀ before event next, LoggedStep server before event next →
    InOrder before → InOrder next := by
  rintro before event next ⟨moved, logged⟩ kept accepting
  by_cases going : before.1.directive = .proceed
  · have proceeds := orderly_step (kept going) going moved
    rw [logged]
    exact (proceeds.2 fun faulty => proceeds.1 faulty accepting).1
  · exact absurd accepting (step_stopped going moved)

/-- An owner that accepts is in order, whatever it and its tasks have done. -/
theorem run_orderly (run : Run (LoggedStep server) ({}, {}) trace state)
    (accepting : state.1.directive = .proceed) : Orderly state.1 state.2 := by
  have start : InOrder (({} : Owner V), ({} : Ledger V)) := fun _ => orderly_start
  have kept := run.invariant inOrder_step start
  exact kept accepting

theorem written_of_drained {session : Session V} {accepted written : List (ServerMessage V)}
    (sound : Sound session accepted.length) (told : Told session accepted written)
    {completion : SessionTaskCompletion} (returned : session.task = .finished completion) :
    written <+: accepted ∧
      ((session.reconcileSessionCompletion completion).2 = .exactDrained →
        written = accepted) := by
  have classified := (Sound.reconciles sound returned).1
  have side := sound.task
  unfold TaskSide at side
  unfold Told at told
  rw [returned] at side told
  refine ⟨told.1, fun drained => ?_⟩
  cases completion with
  | unregistered =>
    rw [show _ = SessionCompletionClassification.unregistered from classified] at drained
    cases drained
  | registered reason transport =>
    by_cases race : Races session reason
    · rw [classified.1 race] at drained
      cases drained
    rw [classified.2 race] at drained
    cases transport with
    | transportFailed progress cause =>
      unfold classificationOfTransport at drained
      dsimp only at drained
      split at drained
      · simp at drained
      · simp at drained
    | drainedThrough progress =>
      have whole : progress = through accepted.length := side.1.2.1
      have reported := told.2 reason _ rfl
      have same : written.length = accepted.length :=
        through_inj (reported.symm.trans whole)
      exact told.1.eq_of_length same

theorem step_harvested {owner next : Owner V} {connection : Nat}
    {classification : SessionCompletionClassification}
    (moved : Step server owner (.harvested connection classification) next) :
    ∃ completion, (owner.sessions connection).task = .finished completion ∧
      classification =
        ((owner.sessions connection).reconcileSessionCompletion completion).2 := by
  generalize named : OwnerEvent.harvested connection classification = event at moved
  cases moved with
  | @harvested _ completion waits returned =>
    cases named
    exact ⟨completion, returned, rfl⟩
  | _ => cases named

/-- Over every run of the owner and its tasks, while it accepts: the next step stops it exactly when
it is one of those that the owner stops for; and a completion that is harvested is classified by its
transport, with no message written that was not accepted and none left out of a session that
drained. -/
theorem accepting_owner_stops_iff (run : Run (LoggedStep server) ({}, {}) trace state)
    (accepting : state.1.directive = .proceed) {event : OwnerEvent V} {next : Owner V × Ledger V}
    (step : LoggedStep server state event next) :
    (next.1.directive ≠ .proceed ↔ Faulty server state.1 event) ∧
      ∀ connection classification, event = .harvested connection classification →
        ∃ completion, (state.1.sessions connection).task = .finished completion ∧
          Classified (state.1.sessions connection) completion classification ∧
          state.2.written connection <+: state.2.accepted connection ∧
          (classification = .exactDrained →
            state.2.written connection = state.2.accepted connection) := by
  have orderly := run_orderly run accepting
  obtain ⟨moved, -⟩ := step
  have proceeds := orderly_step orderly accepting moved
  refine ⟨⟨fun stopped => ?_, proceeds.1⟩, ?_⟩
  · by_contra sane
    exact stopped (proceeds.2 sane).2
  · rintro connection classification rfl
    obtain ⟨completion, returned, rfl⟩ := step_harvested moved
    have sound := orderly.sound connection
    obtain ⟨part, drained⟩ := written_of_drained sound (orderly.told connection) returned
    exact ⟨completion, returned, (Sound.reconciles sound returned).1, part, drained⟩

end Runs

def plain : Vocabulary := ⟨Unit, Unit, Unit, Unit, Unit, Unit, Unit, Unit⟩

def exampleServer : Server plain where
  serverId := "server"
  instanceId := some "instance"
  replayCapacity := 4
  outboundQueueCapacity := 4
  receiptCapacity := 4
  maximumSnapshotItems := 4
  maximumConcurrentSessions := 2
  eventCapacity := 4
  replayPositive := by decide
  hasPublicationSource := true
  serviceTasks := 1
  servicesSpawned := by decide
  publishesEvent := fun _ => true
  serialize := fun _ _ _ => []

def exampleHello : ClientHello := ⟨currentVersion, none, none⟩

def examplePublication : EventPublication plain := ⟨"turn", none, (), "entity", 1, ()⟩

theorem extend {V : Vocabulary} {server : Server V} {start : Owner V × Ledger V}
    {trace : List (OwnerEvent V)} {owner next : Owner V} {ledger : Ledger V}
    (run : Run (LoggedStep server) start trace (owner, ledger)) (event : OwnerEvent V)
    (moved : Step server owner event next) :
    Run (LoggedStep server) start (trace ++ [event]) (next, ledger.after server owner event) :=
  run.snoc event ⟨moved, rfl⟩

/-- A client whose opening messages cannot be written stops the owner, when an event is published
between the return of its task and the harvest. -/
theorem lost_race_stops : ∃ trace state classification, ∃ next : Owner plain × Ledger plain,
    Run (LoggedStep exampleServer) ({}, {}) trace state ∧ state.1.directive = .proceed ∧
      LoggedStep exampleServer state (.harvested 1 classification) next ∧
      classification = .invalid ∧ next.1.directive ≠ .proceed := by
  have begun : Run (LoggedStep exampleServer) ({}, {}) [] ({}, {}) := .nil _
  have connected := extend begun (.connected 1) (.connected ⟨rfl, rfl, fun _ => rfl⟩ (by decide))
  have greeted := extend connected (.task 1 (.helloReceived exampleHello))
    (.task rfl rfl (by decide))
  have registered := extend greeted
    (.received (.register 1 exampleHello currentVersion) (some []))
    (.received ⟨rfl, rfl, fun _ => rfl⟩ (by decide) rfl)
  have failed := extend registered (.task 1 (.initialFailed .initialPrefixWrite))
    (.task rfl rfl (by decide))
  have returned := extend failed (.task 1 .returned) (.task rfl rfl (by decide))
  have announced := extend returned (.applicationEvent examplePublication)
    (.applicationEvent ⟨rfl, rfl, fun _ => rfl⟩ ⟨rfl, .inl rfl⟩)
  have published := extend announced (.worked _) (.worked rfl (.refl _))
  have sent := extend published (.worked _) (.worked rfl (.refl _))
  refine ⟨_, _, _, (_, _), sent, rfl, ⟨.harvested ⟨rfl, rfl, fun _ => rfl⟩ rfl, rfl⟩, rfl, ?_⟩
  have stops := accepting_owner_stops_iff sent rfl
    (⟨.harvested ⟨rfl, rfl, fun _ => rfl⟩ rfl, rfl⟩ : LoggedStep _ _ (.harvested 1 _) (_, _))
  exact stops.1.mpr ⟨_, _, rfl, .inr ⟨rfl, _, rfl, rfl⟩⟩

end Decodex.Guarantees.AcceptingOwner
