import Decodex.Library.Receipts
import Decodex.Guarantees.AcceptingOwner

/-!
# The service of commands

Source: crates/decodex-runtime/src/websocket.rs:1732-1797, 2027-2226 and 2332-2436. Commands are
served one by one: those that have no kept result and for which there is room are executed, and the
others are answered from what is kept. A book of the served commands says what a run of the owner
shows, and each handler keeps it.
-/
namespace Decodex.Guarantees.CommandService

open Decodex.Library Decodex.Library.Receipts Decodex.Source.Protocol.SessionMessages
open Decodex.Source.Runtime.Publication

variable {V : Vocabulary}

structure Submission (V : Vocabulary) where
  connection : Nat
  command : CommandEnvelope V
  version : ProtocolVersion

abbrev Execution (V : Vocabulary) := Except (CommandError V) (ApplicationPublication V)

section Service

variable (server : Server V)

def fingerprintOf (submission : Submission V) : List UInt8 :=
  server.serialize submission.version submission.command.expectedRevision
    submission.command.payload

/-- The result of an execution. -/
def resultOf (submission : Submission V) (execution : Execution V) : CommandResultEnvelope V :=
  (resultFromExecution server submission.command submission.version execution).1

/-- Results are kept by version and idempotency key, and so many for each version; one whose
acceptance is unknown is not kept. -/
def commandPolicy : Policy (ProtocolVersion × String) ProtocolVersion (Submission V) (Execution V)
    (StoredCommand V) where
  key submission := (submission.version, submission.command.idempotencyKey)
  group := Prod.fst
  capacity := server.receiptCapacity
  keeps submission execution :=
    decide ((resultOf server submission execution).outcome ≠ .acceptanceUnknown)
  receipt submission execution := ⟨fingerprintOf server submission,
    submission.command.clientCommandId, resultOf server submission execution⟩

/-- The result that a kept one gives to a later command: itself, under the names of that command,
or a conflict where the commands differ. -/
def laterResult (stored : StoredCommand V) (submission : Submission V) : CommandResultEnvelope V :=
  if stored.fingerprint = fingerprintOf server submission then
    { stored.result with
      version := submission.version
      clientCommandId := submission.command.clientCommandId }
  else
    { stored.result with
      version := submission.version
      clientCommandId := submission.command.clientCommandId
      outcome := .rejected
      entityRevision := none
      payload := none
      error := some .idempotencyConflict }

/-- A receipt and a result go to the session of the command. -/
def answerWith (submission : Submission V) (disposition : ReceiptDisposition) (original : String)
    (result : CommandResultEnvelope V) : List (Work V) :=
  [.send submission.connection (.commandReceipt ⟨submission.version, server.serverId,
      submission.command.clientCommandId, submission.command.idempotencyKey, disposition,
      original⟩) true,
    .send submission.connection (.commandResult result) true]

/-- What follows from a command, when the receipts before it are those. -/
def answer (receipts : KeyedMap (ProtocolVersion × String) (StoredCommand V))
    (served : Served (Submission V) (Execution V)) : List (Work V) :=
  let submission := served.request
  match served.execution with
  | some execution =>
    answerWith server submission .executed submission.command.clientCommandId
        (resultOf server submission execution) ++
      match execution with
      | .ok publication =>
        if server.publishesEvent publication.result then
          [.publish submission.version ⟨submission.command.correlationId,
            submission.command.causationId, publication.channel, publication.entityId,
            publication.entityRevision, publication.event⟩]
        else []
      | .error _ => []
  | none =>
    match receipts.find? ((commandPolicy server).key submission) with
    | some stored =>
      answerWith server submission .duplicate stored.originalClientCommandId
        (laterResult server stored submission)
    | none =>
      answerWith server submission .refused submission.command.clientCommandId
        ⟨submission.version, server.serverId, submission.command.clientCommandId,
          submission.command.idempotencyKey, .rejected, none, none,
          some (.idempotencyCapacityExceeded server.receiptCapacity)⟩

/-- What follows from commands that are served one after another. -/
def answers (receipts : KeyedMap (ProtocolVersion × String) (StoredCommand V)) :
    List (Served (Submission V) (Execution V)) → List (Work V)
  | [] => []
  | served :: rest =>
    answer server receipts served ++ answers (keep (commandPolicy server) receipts served) rest

end Service

/-- The command of a request. -/
def commandOf : Request V → List (Submission V)
  | .command connection command version => [⟨connection, command, version⟩]
  | _ => []

def submissionsOf : OwnerEvent V → List (Submission V)
  | .task connection event => (requestsOf connection event).flatMap commandOf
  | _ => []

def executionsOf : OwnerEvent V → List (Execution V)
  | .completed (.command (some execution)) => [execution]
  | _ => []

def applicationEventsOf : OwnerEvent V → List (EventPublication V)
  | .applicationEvent publication => [publication]
  | _ => []

def isAnswer : Work V → Bool
  | .send _ (.commandReceipt _) _ | .send _ (.commandResult _) _ => true
  | _ => false

def isPublished : Work V → Bool
  | .publish _ _ => true
  | _ => false

/-- Answers and publications. -/
def isOutput (work : Work V) : Bool := isAnswer work || isPublished work

def outputsOf : OwnerEvent V → List (Work V)
  | .worked work => [work].filter isOutput
  | _ => []

/-- What was sent and published, and what the turn has still to send and publish. -/
def sent (trace : List (OwnerEvent V)) (owner : Owner V) : List (Work V) :=
  trace.flatMap outputsOf ++ owner.agenda.filter isOutput

/-- The command that is executed. -/
def submissionOf (active : ActiveCommand V) : Submission V :=
  ⟨active.connection, active.command, active.version⟩

def inFlight (owner : Owner V) : List (Submission V) :=
  match owner.operation with
  | some (.command active) => [submissionOf active]
  | _ => []

def waiting (owner : Owner V) : List (Submission V) :=
  (owner.deferredRequests ++ owner.ingress).flatMap commandOf

/-- A publication of the application's own. -/
def announce (publication : EventPublication V) : Work V := .publish currentVersion publication

/-- The commands that have been served, and the events of the application that have been announced,
against what the run shows. -/
structure Book (server : Server V) (trace : List (OwnerEvent V)) (owner : Owner V)
    (served : List (Served (Submission V) (Execution V)))
    (announced : List (EventPublication V)) : Prop where
  /-- Commands are served in the order of their arrival, each once, and one at a time. -/
  arrivals : trace.flatMap submissionsOf =
    served.map (·.request) ++ (inFlight owner ++ waiting owner)
  executions : trace.flatMap executionsOf = served.filterMap (·.execution)
  serves : Run (Serves (commandPolicy server)) .empty served owner.receipts
  /-- Each is answered once, with nothing between. -/
  answered : (sent trace owner).filter isAnswer = (answers server .empty served).filter isAnswer
  /-- What a command publishes comes after its answer, and before the answer of the next. -/
  follows : (answers server .empty served).Sublist (sent trace owner)
  /-- The events of the application are announced in the order in which it made them. -/
  events : trace.flatMap applicationEventsOf = announced ++ owner.deferredEvents
  announces : (announced.map announce).Sublist (sent trace owner)
  /-- Nothing else is published. -/
  published : ((sent trace owner).filter isPublished).Perm
    ((answers server .empty served).filter isPublished ++ announced.map announce)

/-- What the steps need besides. -/
structure Ready (server : Server V) (owner : Owner V) : Prop where
  started : ∀ active, owner.operation = some (.command active) →
    Executes (commandPolicy server) owner.receipts (submissionOf active) ∧
      active.fingerprint = fingerprintOf server (submissionOf active)
  enqueues : ∀ connection message,
    .enqueue connection message ∈ owner.deferredRequests ++ owner.ingress →
      mayEnqueue server message = true
  settled : owner.operation = none → owner.directive = .proceed → owner.deferredEvents = []

section Steps

variable {server : Server V} {owner next : Owner V} {trace : List (OwnerEvent V)}
  {served : List (Served (Submission V) (Execution V))}
  {announced : List (EventPublication V)} {event : OwnerEvent V}

theorem answers_append {receipts : KeyedMap (ProtocolVersion × String) (StoredCommand V)}
    {after : KeyedMap (ProtocolVersion × String) (StoredCommand V)}
    (serves : Run (Serves (commandPolicy server)) receipts served after)
    (last : Served (Submission V) (Execution V)) :
    answers server receipts (served ++ [last]) =
      answers server receipts served ++ answer server after last := by
  induction serves with
  | nil receipts =>
    exact List.append_nil _
  | @cons receipts middle after first rest step _ ih =>
    obtain ⟨-, rfl⟩ := step
    rw [List.cons_append, answers, ih, answers, List.append_assoc]

theorem announced_filter (more : List (EventPublication V)) :
    (more.map announce).filter isAnswer = [] ∧
      (more.map announce).filter isPublished = more.map announce := by
  constructor
  · rw [List.filter_eq_nil_iff]
    intro work member
    obtain ⟨publication, -, rfl⟩ := List.mem_map.mp member
    exact Bool.false_ne_true
  · rw [List.filter_eq_self]
    intro work member
    obtain ⟨publication, -, rfl⟩ := List.mem_map.mp member
    rfl

/-- A step that serves no command. -/
theorem Book.pass (book : Book server trace owner served announced)
    (arrivals : inFlight next ++ waiting next = inFlight owner ++ waiting owner ++
      submissionsOf event)
    (executions : executionsOf event = []) (receipts : next.receipts = owner.receipts)
    (more : List (EventPublication V))
    (outputs : sent (trace ++ [event]) next = sent trace owner ++ more.map announce)
    (deferred : more ++ next.deferredEvents = owner.deferredEvents ++ applicationEventsOf event) :
    Book server (trace ++ [event]) next served (announced ++ more) := by
  obtain ⟨silent, shown⟩ := announced_filter more
  refine ⟨?_, ?_, ?_, ?_, ?_, ?_, ?_, ?_⟩
  · rw [List.flatMap_append, book.arrivals, arrivals, List.flatMap_singleton]
    simp only [List.append_assoc]
  · rw [List.flatMap_append, book.executions, List.flatMap_singleton, executions, List.append_nil]
  · rw [receipts]
    exact book.serves
  · rw [outputs, List.filter_append, silent, List.append_nil]
    exact book.answered
  · rw [outputs]
    exact book.follows.trans (List.sublist_append_left _ _)
  · rw [List.flatMap_append, book.events, List.flatMap_singleton, List.append_assoc, ← deferred,
      List.append_assoc]
  · rw [outputs, List.map_append]
    exact book.announces.append (List.Sublist.refl _)
  · rw [outputs, List.filter_append, shown, List.map_append, ← List.append_assoc]
    exact book.published.append_right _

theorem answer_outputs (receipts : KeyedMap (ProtocolVersion × String) (StoredCommand V))
    (last : Served (Submission V) (Execution V)) :
    (answer server receipts last).filter isOutput = answer server receipts last := by
  rw [List.filter_eq_self]
  intro work member
  unfold answer at member
  dsimp only at member
  split at member
  · rcases List.mem_append.mp member with answered | published
    · simp only [answerWith, List.mem_cons, List.not_mem_nil, or_false] at answered
      rcases answered with rfl | rfl <;> rfl
    · split at published
      · split at published
        · rw [List.mem_singleton] at published
          subst published
          rfl
        · cases published
      · cases published
  · split at member
    · simp only [answerWith, List.mem_cons, List.not_mem_nil, or_false] at member
      rcases member with rfl | rfl <;> rfl
    · simp only [answerWith, List.mem_cons, List.not_mem_nil, or_false] at member
      rcases member with rfl | rfl <;> rfl

/-- A step that serves a command. -/
theorem Book.serve (book : Book server trace owner served announced)
    (last : Served (Submission V) (Execution V))
    (arrivals : last.request :: (inFlight next ++ waiting next) = inFlight owner ++ waiting owner)
    (unsubmitted : submissionsOf event = [])
    (executions : executionsOf event = last.execution.toList)
    (serves : Serves (commandPolicy server) owner.receipts last next.receipts)
    (more : List (EventPublication V))
    (outputs : sent (trace ++ [event]) next =
      sent trace owner ++ answer server owner.receipts last ++ more.map announce)
    (deferred : more ++ next.deferredEvents = owner.deferredEvents)
    (unannounced : applicationEventsOf event = []) :
    Book server (trace ++ [event]) next (served ++ [last]) (announced ++ more) := by
  obtain ⟨silent, shown⟩ := announced_filter more
  have all := answers_append book.serves last
  refine ⟨?_, ?_, ?_, ?_, ?_, ?_, ?_, ?_⟩
  · rw [List.flatMap_append, book.arrivals, List.flatMap_singleton, unsubmitted, List.append_nil,
      ← arrivals, List.map_append, List.append_assoc]
    rfl
  · rw [List.flatMap_append, book.executions, List.flatMap_singleton, executions,
      List.filterMap_append]
    cases held : last.execution <;> simp [held]
  · exact book.serves.append (.single serves)
  · rw [outputs, all, List.filter_append, List.filter_append, List.filter_append, silent,
      List.append_nil, book.answered]
  · rw [outputs, all]
    exact (book.follows.append (List.Sublist.refl _)).trans (List.sublist_append_left _ _)
  · rw [List.flatMap_append, book.events, List.flatMap_singleton, unannounced, List.append_nil,
      ← deferred, List.append_assoc]
  · rw [outputs, List.map_append]
    exact (book.announces.trans (List.sublist_append_left _ _)).append (List.Sublist.refl _)
  · rw [outputs, all, List.filter_append, List.filter_append, List.filter_append, shown,
      List.map_append]
    refine ((book.published.append_right _).append_right _).trans ?_
    simp only [List.append_assoc]
    refine List.Perm.append_left _ ?_
    rw [← List.append_assoc, ← List.append_assoc]
    exact List.perm_append_comm.append_right _

/-- What a run has served, when the owner accepts. -/
def Serving (server : Server V) (trace : List (OwnerEvent V)) (owner : Owner V) : Prop :=
  Ready server owner ∧ ∃ served announced, Book server trace owner served announced

theorem sent_snoc (trace : List (OwnerEvent V)) (event : OwnerEvent V) (owner : Owner V) :
    sent (trace ++ [event]) owner =
      trace.flatMap outputsOf ++ (outputsOf event ++ owner.agenda.filter isOutput) := by
  unfold sent
  rw [List.flatMap_append, List.flatMap_singleton, List.append_assoc]

theorem sent_of_ended (trace : List (OwnerEvent V)) (ended : owner.agenda = []) :
    sent trace owner = trace.flatMap outputsOf := by
  unfold sent
  rw [ended]
  exact List.append_nil _

/-- The turn of an owner that serves no command: it announces some of the events that wait. -/
theorem Serving.turn (serving : Serving server trace owner) (ended : owner.agenda = [])
    (silent : outputsOf event = []) (executions : executionsOf event = [])
    (arrivals : inFlight next ++ waiting next = inFlight owner ++ waiting owner ++
      submissionsOf event)
    (receipts : next.receipts = owner.receipts) (more : List (EventPublication V))
    (agenda : next.agenda.filter isOutput = more.map announce)
    (deferred : more ++ next.deferredEvents = owner.deferredEvents ++ applicationEventsOf event)
    (ready : Ready server next) : Serving server (trace ++ [event]) next := by
  obtain ⟨-, served, announced, book⟩ := serving
  refine ⟨ready, served, announced ++ more, book.pass arrivals executions receipts more ?_ deferred⟩
  rw [sent_snoc, sent_of_ended trace ended, silent, agenda]
  rfl

/-- What the end of a registration leaves of the turn. -/
structure Flushed (owner next : Owner V) : Prop where
  operation : next.operation = owner.operation
  receipts : next.receipts = owner.receipts
  deferredRequests : next.deferredRequests = owner.deferredRequests
  ingress : next.ingress = owner.ingress
  events : ∃ more : List (EventPublication V), next.agenda = more.map announce ∧
    more ++ next.deferredEvents = owner.deferredEvents
  settled : owner.operation = none → next.directive = .proceed → next.deferredEvents = []

theorem flushed_flush (owner : Owner V) {change : Owner V} (ended : change.agenda = [])
    (operation : change.operation = owner.operation) (receipts : change.receipts = owner.receipts)
    (deferredRequests : change.deferredRequests = owner.deferredRequests)
    (ingress : change.ingress = owner.ingress)
    (events : change.deferredEvents = owner.deferredEvents) :
    Flushed owner change.flushDeferredEvents := by
  unfold Owner.flushDeferredEvents
  split
  · rename_i active
    refine ⟨operation, receipts, deferredRequests, ingress, ⟨[], ended, events⟩, ?_⟩
    intro idle
    rw [operation, idle] at active
    cases active
  · refine ⟨operation, receipts, deferredRequests, ingress, ⟨owner.deferredEvents, ?_, ?_⟩,
      fun _ _ => rfl⟩
    · dsimp only
      rw [ended, events]
      rfl
    · exact List.append_nil _

theorem flushed_stop (owner change : Owner V) (cause : StopCause)
    (ended : change.agenda = []) (operation : change.operation = owner.operation)
    (receipts : change.receipts = owner.receipts)
    (deferredRequests : change.deferredRequests = owner.deferredRequests)
    (ingress : change.ingress = owner.ingress)
    (events : change.deferredEvents = owner.deferredEvents) :
    Flushed owner (change.stop (.beginStopping cause)) := by
  refine ⟨operation, receipts, deferredRequests, ingress, ⟨[], ended, events⟩, ?_⟩
  intro _ going
  exact absurd going (OwnerOrder.stop_beginStopping change cause)

theorem flushed_finishRegistration (server : Server V) (owner : Owner V) (ended : owner.agenda = [])
    (pending : PendingRegistrationSnapshot) (items : Option (List V.SnapshotItem)) :
    Flushed owner (owner.finishRegistrationSnapshot server pending items) := by
  unfold Owner.finishRegistrationSnapshot
  cases items with
  | none => exact flushed_stop owner _ _ ended rfl rfl rfl rfl rfl
  | some items =>
    dsimp only
    split
    · exact flushed_flush owner ended rfl rfl rfl rfl rfl
    split
    · exact flushed_stop owner _ _ ended rfl rfl rfl rfl rfl
    · exact flushed_flush owner ended rfl rfl rfl rfl rfl

theorem announce_outputs (more : List (EventPublication V)) :
    (more.map announce).filter isOutput = more.map announce := by
  rw [List.filter_eq_self]
  intro work member
  obtain ⟨publication, -, rfl⟩ := List.mem_map.mp member
  rfl

/-- The queues of requests, with the first of the turn. -/
structure Takes (owner : Owner V) (request : Request V) (rest : Owner V) : Prop where
  operation : rest.operation = owner.operation
  receipts : rest.receipts = owner.receipts
  agenda : rest.agenda = []
  directive : rest.directive = .proceed
  deferredEvents : rest.deferredEvents = owner.deferredEvents
  first : owner.operation = none → waiting owner = commandOf request ++ waiting rest
  later : owner.operation ≠ none → waiting owner =
    rest.deferredRequests.flatMap commandOf ++ (commandOf request ++
      rest.ingress.flatMap commandOf)
  listed : request ∈ owner.deferredRequests ++ owner.ingress
  others : ∀ other ∈ rest.deferredRequests ++ rest.ingress,
    other ∈ owner.deferredRequests ++ owner.ingress

theorem takes_received {request : Request V} {rest : List (Request V)} (waits : owner.Waits)
    (queue : owner.ingress = request :: rest) :
    Takes owner request { owner with ingress := rest } := by
  refine ⟨rfl, rfl, waits.agenda, waits.directive, rfl, ?_, ?_, ?_, ?_⟩
  · intro idle
    unfold waiting
    dsimp only
    rw [waits.deferred idle, queue]
    rfl
  · intro active
    unfold waiting
    rw [queue, List.flatMap_append]
    rfl
  · rw [queue]
    simp
  · intro other member
    rw [queue]
    rcases List.mem_append.mp member with deferred | ingress
    · exact List.mem_append_left _ deferred
    · exact List.mem_append_right _ (List.mem_cons_of_mem _ ingress)

theorem takes_resumed {request : Request V} {rest : List (Request V)} (ended : owner.agenda = [])
    (accepting : owner.directive = .proceed) (idle : owner.operation = none)
    (queue : owner.deferredRequests = request :: rest) :
    Takes owner request { owner with deferredRequests := rest } := by
  refine ⟨rfl, rfl, ended, accepting, rfl, ?_, ?_, ?_, ?_⟩
  · intro _
    unfold waiting
    dsimp only
    rw [queue]
    rfl
  · intro active
    exact absurd idle active
  · rw [queue]
    simp
  · intro other member
    rw [queue]
    rcases List.mem_append.mp member with deferred | ingress
    · exact List.mem_append_left _ (List.mem_cons_of_mem _ deferred)
    · exact List.mem_append_right _ ingress

/-- A request that serves no command by itself. -/
theorem Serving.request (serving : Serving server trace owner) (ended : owner.agenda = [])
    (silent : outputsOf event = []) (executions : executionsOf event = [])
    (unsubmitted : submissionsOf event = []) (unannounced : applicationEventsOf event = [])
    (arrivals : inFlight next ++ waiting next = inFlight owner ++ waiting owner)
    (receipts : next.receipts = owner.receipts) (more : List (EventPublication V))
    (agenda : next.agenda.filter isOutput = more.map announce)
    (deferred : more ++ next.deferredEvents = owner.deferredEvents) (ready : Ready server next) :
    Serving server (trace ++ [event]) next := by
  refine serving.turn ended silent executions ?_ receipts more agenda ?_ ready
  · rw [unsubmitted, List.append_nil, arrivals]
  · rw [unannounced, List.append_nil, deferred]

/-- The order of the commands is kept when a request is put off. -/
theorem waiting_defer {request : Request V} {rest : Owner V} (takes : Takes owner request rest)
    (active : owner.operation ≠ none) :
    waiting { rest with deferredRequests := rest.deferredRequests ++ [request] } =
      waiting owner := by
  rw [takes.later active]
  unfold waiting
  simp only [List.flatMap_append, List.flatMap_singleton, List.append_assoc]

theorem waiting_of_taken {request : Request V} {rest : Owner V}
    (takes : Takes owner request rest) (other : commandOf request = []) :
    waiting rest = waiting owner := by
  by_cases idle : owner.operation = none
  · rw [takes.first idle, other, List.nil_append]
  · rw [takes.later idle, other, List.nil_append]
    unfold waiting
    rw [List.flatMap_append]

theorem inFlight_congr {first second : Owner V} (same : first.operation = second.operation) :
    inFlight first = inFlight second := by
  unfold inFlight
  rw [same]

/-- A step that touches none of the queues. -/
theorem Serving.quiet (serving : Serving server trace owner) (waits : owner.Waits)
    (silent : outputsOf event = []) (executions : executionsOf event = [])
    (unsubmitted : submissionsOf event = []) (unannounced : applicationEventsOf event = [])
    (operation : next.operation = owner.operation) (receipts : next.receipts = owner.receipts)
    (agenda : next.agenda = owner.agenda)
    (deferredRequests : next.deferredRequests = owner.deferredRequests)
    (ingress : next.ingress = owner.ingress)
    (deferredEvents : next.deferredEvents = owner.deferredEvents) :
    Serving server (trace ++ [event]) next := by
  refine serving.request waits.agenda silent executions unsubmitted unannounced ?_ receipts [] ?_
    deferredEvents ⟨?_, ?_, ?_⟩
  · rw [inFlight_congr operation]
    unfold waiting
    rw [deferredRequests, ingress]
  · rw [agenda, waits.agenda]
    rfl
  · rw [operation, receipts]
    exact serving.1.started
  · rw [deferredRequests, ingress]
    exact serving.1.enqueues
  · rw [operation, deferredEvents]
    exact fun idle _ => serving.1.settled idle waits.directive

theorem Ready.rest {request : Request V} {rest : Owner V} (ready : Ready server owner)
    (takes : Takes owner request rest) (accepting : owner.directive = .proceed) :
    Ready server rest := by
  refine ⟨?_, ?_, ?_⟩
  · rw [takes.operation, takes.receipts]
    exact ready.started
  · intro connection message member
    exact ready.enqueues connection message (takes.others _ member)
  · rw [takes.operation, takes.deferredEvents]
    exact fun idle _ => ready.settled idle accepting

theorem Ready.defer {request : Request V} {rest : Owner V} (ready : Ready server rest)
    (kind : ∀ connection message, request ≠ .enqueue connection message) :
    Ready server { rest with deferredRequests := rest.deferredRequests ++ [request] } := by
  refine ⟨ready.started, ?_, ready.settled⟩
  intro connection message member
  simp only [List.mem_append, List.mem_singleton] at member
  rcases member with (deferred | same) | ingress
  · exact ready.enqueues connection message (List.mem_append_left _ deferred)
  · exact absurd same.symm (kind connection message)
  · exact ready.enqueues connection message (List.mem_append_right _ ingress)

theorem Ready.flushed (ready : Ready server owner) (flushed : Flushed owner next) :
    Ready server next := by
  refine ⟨?_, ?_, ?_⟩
  · rw [flushed.operation, flushed.receipts]
    exact ready.started
  · rw [flushed.deferredRequests, flushed.ingress]
    exact ready.enqueues
  · rw [flushed.operation]
    exact flushed.settled

/-- The count of the source is that of the policy. -/
theorem count_receipts (server : Server V) (owner : Owner V) (version : ProtocolVersion) :
    (owner.receipts.entries.filter fun entry => entry.1.1 == version).length =
      Receipts.count (commandPolicy server) owner.receipts version := by
  unfold Receipts.count
  rw [List.countP_map, List.countP_eq_length_filter]
  rfl

/-- A command that is answered at once. -/
theorem Serving.answerNow (serving : Serving server trace owner) (ended : owner.agenda = [])
    (submission : Submission V) {rest : Owner V} (silent : outputsOf event = [])
    (executions : executionsOf event = []) (unsubmitted : submissionsOf event = [])
    (unannounced : applicationEventsOf event = []) (idle : owner.operation = none)
    (ready : Ready server rest) (operation : rest.operation = owner.operation)
    (receipts : rest.receipts = owner.receipts)
    (deferredEvents : rest.deferredEvents = owner.deferredEvents)
    (first : waiting owner = submission :: waiting rest)
    (unexecuted : ¬Executes (commandPolicy server) owner.receipts submission)
    (receipt : CommandReceipt) (result : CommandResultEnvelope V)
    (same : answer server owner.receipts ⟨submission, none⟩ =
      [.send submission.connection (.commandReceipt receipt) true,
        .send submission.connection (.commandResult result) true]) :
    Serving server (trace ++ [event])
      (rest.answerCommand submission.connection receipt result) := by
  obtain ⟨-, served, announced, book⟩ := serving
  refine ⟨⟨ready.started, ready.enqueues, ready.settled⟩, served ++ [⟨submission, none⟩],
    announced ++ [],
    book.serve ⟨submission, none⟩ ?_ unsubmitted executions ?_ [] ?_ ?_ unannounced⟩
  · have none : inFlight (rest.answerCommand submission.connection receipt result) = [] := by
      unfold inFlight Owner.answerCommand
      dsimp only
      rw [operation, idle]
    have nothing : inFlight owner = [] := by
      unfold inFlight
      rw [idle]
    rw [none, nothing, List.nil_append, List.nil_append, first]
    rfl
  · refine ⟨⟨fun executed => ?_, fun executes => absurd executes unexecuted⟩, receipts⟩
    cases executed
  · rw [sent_snoc, sent_of_ended trace ended, silent, same]
    simp [Owner.answerCommand, isOutput, isAnswer, isPublished]
  · exact deferredEvents

/-- A command whose turn it is. -/
theorem Serving.command (serving : Serving server trace owner) (ended : owner.agenda = [])
    (accepting : owner.directive = .proceed) (silent : outputsOf event = [])
    (executions : executionsOf event = []) (unsubmitted : submissionsOf event = [])
    (unannounced : applicationEventsOf event = []) (idle : owner.operation = none)
    {rest : Owner V} {connection : Nat} {command : CommandEnvelope V} {version : ProtocolVersion}
    (takes : Takes owner (.command connection command version) rest) :
    Serving server (trace ++ [event])
      (rest.handleCommandRequest server connection command version) := by
  have ready := serving.1.rest takes accepting
  have first := takes.first idle
  have key : (commandPolicy server).key ⟨connection, command, version⟩ =
      (version, command.idempotencyKey) := rfl
  unfold Owner.handleCommandRequest
  dsimp only
  cases found : rest.receipts.find? (version, command.idempotencyKey) with
  | some stored =>
    dsimp only
    have held := found
    rw [takes.receipts] at held
    refine serving.answerNow ended ⟨connection, command, version⟩ silent executions
      unsubmitted unannounced idle ready takes.operation takes.receipts takes.deferredEvents first
      ?_ _ _ ?_
    · rintro ⟨absent, -⟩
      rw [key, held] at absent
      cases absent
    · unfold answer
      dsimp only
      rw [key, held]
      dsimp only
      unfold answerWith laterResult Owner.duplicateResult fingerprintOf
      dsimp only
      by_cases same : stored.fingerprint =
          server.serialize version command.expectedRevision command.payload
      · rw [if_pos same, if_neg (not_not.mpr same)]
      · rw [if_neg same, if_pos same]
  | none =>
    dsimp only
    have absent := found
    rw [takes.receipts] at absent
    rw [count_receipts server rest version]
    by_cases full : server.receiptCapacity ≤ count (commandPolicy server) rest.receipts version
    · rw [if_pos full]
      refine serving.answerNow ended ⟨connection, command, version⟩ silent
        executions unsubmitted unannounced idle ready takes.operation takes.receipts
        takes.deferredEvents first ?_ _ _ ?_
      · rintro ⟨-, room⟩
        rw [takes.receipts] at full
        exact absurd full (Nat.not_le_of_lt room)
      · unfold answer
        dsimp only
        rw [key, absent]
        rfl
    · rw [if_neg full]
      refine serving.request ended silent executions unsubmitted unannounced ?_ takes.receipts []
        ?_ takes.deferredEvents ⟨?_, ready.enqueues, ?_⟩
      · have nothing : inFlight owner = [] := by
          unfold inFlight
          rw [idle]
        rw [nothing, List.nil_append, first]
        rfl
      · dsimp only
        rw [takes.agenda]
        rfl
      · intro active same
        cases same
        exact ⟨⟨found, Nat.lt_of_not_le full⟩, rfl⟩
      · intro none
        cases none

theorem enqueued_silent {message : ServerMessage V} (allowed : mayEnqueue server message = true)
    (connection : Nat) (counted : Bool) : isOutput (.send connection message counted) = false := by
  cases message <;> first | rfl | cases allowed

/-- A request whose turn it is. -/
theorem Serving.handleRequest (serving : Serving server trace owner) (ended : owner.agenda = [])
    (accepting : owner.directive = .proceed) (silent : outputsOf event = [])
    (executions : executionsOf event = []) (unsubmitted : submissionsOf event = [])
    (unannounced : applicationEventsOf event = []) {request : Request V} {rest : Owner V}
    (takes : Takes owner request rest) (independent : Option (List V.SnapshotItem)) :
    Serving server (trace ++ [event]) (rest.handleRequest server independent request) := by
  have ready := serving.1.rest takes accepting
  have still := inFlight_congr takes.operation
  unfold Owner.handleRequest
  split
  · rename_i connection hello version
    have order := waiting_of_taken takes rfl
    split
    · rename_i waits
      have active : owner.operation ≠ none := by
        rw [← takes.operation]
        exact Option.isSome_iff_ne_none.mp waits.1
      refine serving.request ended silent executions unsubmitted unannounced ?_ takes.receipts []
        ?_ takes.deferredEvents (ready.defer fun _ _ same => ?_)
      · rw [waiting_defer takes active]
        rw [← still]
        rfl
      · dsimp only
        rw [takes.agenda]
        rfl
      · cases same
    rename_i starts
    split
    · have flushed := flushed_stop rest (rest.refuseRegistration connection) .ownerIntegrity
        takes.agenda rfl rfl rfl rfl rfl
      refine serving.request ended silent executions unsubmitted unannounced ?_ takes.receipts []
        ?_ takes.deferredEvents (ready.flushed flushed)
      · rw [← still, ← order]
        rfl
      · show rest.agenda.filter isOutput = []
        rw [takes.agenda]
        rfl
    dsimp only
    split
    · rename_i items
      have flushed := flushed_finishRegistration server rest takes.agenda
        ⟨connection, hello, version, rest.cursor⟩ (some items)
      obtain ⟨more, agenda, deferred⟩ := flushed.events
      refine serving.request ended silent executions unsubmitted unannounced ?_
        (flushed.receipts.trans takes.receipts) more ?_ (deferred.trans takes.deferredEvents)
        (ready.flushed flushed)
      · rw [inFlight_congr (flushed.operation.trans takes.operation), ← order]
        unfold waiting
        rw [flushed.deferredRequests, flushed.ingress]
      · rw [agenda, announce_outputs]
    · have idle : rest.operation = none := by simpa using starts
      refine serving.request ended silent executions unsubmitted unannounced ?_ takes.receipts []
        ?_ takes.deferredEvents ⟨?_, ready.enqueues, ?_⟩
      · rw [← still, ← order]
        unfold inFlight
        rw [idle]
        rfl
      · dsimp only
        rw [takes.agenda]
        rfl
      · intro active same
        cases same
      · intro none
        cases none
  · rename_i connection message
    have order := waiting_of_taken takes rfl
    have allowed := serving.1.enqueues connection message takes.listed
    refine serving.request ended silent executions unsubmitted unannounced ?_ takes.receipts []
      ?_ takes.deferredEvents ⟨ready.started, ready.enqueues, ready.settled⟩
    · rw [← still, ← order]
      rfl
    · have answer := enqueued_silent allowed connection true
      dsimp only
      rw [List.filter_cons, answer, if_neg Bool.false_ne_true]
      rfl
  · rename_i connection command version
    split
    · rename_i waits
      have active : owner.operation ≠ none := by
        rw [← takes.operation]
        exact Option.isSome_iff_ne_none.mp waits
      refine serving.request ended silent executions unsubmitted unannounced ?_ takes.receipts []
        ?_ takes.deferredEvents (ready.defer fun _ _ same => ?_)
      · rw [waiting_defer takes active]
        rw [← still]
        rfl
      · dsimp only
        rw [takes.agenda]
        rfl
      · cases same
    · rename_i starts
      have idle : owner.operation = none := by
        rw [← takes.operation]
        simpa using starts
      exact serving.command ended accepting silent executions unsubmitted unannounced idle takes

/-- A command that was executed is answered with what its execution gave. -/
theorem Serving.finish (serving : Serving server trace owner) (waits : owner.Waits)
    {active : ActiveCommand V} (held : owner.operation = some (.command active))
    (execution : Execution V) :
    Serving server (trace ++ [.completed (.command (some execution))])
      (({ owner with operation := none } : Owner V).finishActiveCommand server active
        (some execution)) := by
  obtain ⟨ready, served, announced, book⟩ := serving
  obtain ⟨executes, fingerprint⟩ := ready.started active held
  have receipts : (({ owner with operation := none } : Owner V).finishActiveCommand server active
      (some execution)).receipts = keep (commandPolicy server) owner.receipts
        ⟨submissionOf active, some execution⟩ := by
    have keeps : (commandPolicy server).keeps (submissionOf active) execution =
        decide ((resultFromExecution server active.command active.version execution).1.outcome ≠
          .acceptanceUnknown) := rfl
    have receipt : (commandPolicy server).receipt (submissionOf active) execution =
        ⟨active.fingerprint, active.command.clientCommandId,
          (resultFromExecution server active.command active.version execution).1⟩ := by
      rw [fingerprint]
      rfl
    unfold Owner.finishActiveCommand keep
    dsimp only
    rw [keeps, receipt]
    by_cases unknown : (resultFromExecution server active.command active.version
        execution).1.outcome = .acceptanceUnknown
    · rw [if_neg (not_not.mpr unknown), if_neg (by simpa using unknown)]
    · rw [if_pos unknown, if_pos (by simpa using unknown)]
      rfl
  have idle : (({ owner with operation := none } : Owner V).finishActiveCommand server active
      (some execution)).operation = none := by
    unfold Owner.finishActiveCommand
    dsimp only
    split <;> rfl
  have agenda : (({ owner with operation := none } : Owner V).finishActiveCommand server active
      (some execution)).agenda =
        answer server owner.receipts ⟨submissionOf active, some execution⟩ ++
        (owner.deferredEvents.map announce ++ [.reply active.connection true]) := by
    unfold Owner.finishActiveCommand answer answerWith resultOf
    cases execution with
    | ok publication =>
      dsimp only [resultFromExecution, submissionOf, Option.map_some, Option.getD_some,
        Owner.publicationOf]
      rw [List.append_assoc]
      rfl
    | error error =>
      dsimp only [resultFromExecution, submissionOf]
      rw [List.append_assoc]
      cases error <;> rfl
  refine ⟨⟨?_, ?_, fun _ _ => rfl⟩, served ++ [⟨submissionOf active, some execution⟩],
    announced ++ owner.deferredEvents, book.serve _ ?_ rfl rfl
      ⟨⟨fun _ => executes, fun _ => rfl⟩, receipts⟩ _ ?_ (List.append_nil _) rfl⟩
  · intro other same
    rw [idle] at same
    cases same
  · intro connection message member
    unfold Owner.finishActiveCommand at member
    dsimp only at member
    split at member <;> exact ready.enqueues connection message member
  · have nothing : inFlight (({ owner with operation := none } : Owner V).finishActiveCommand server
        active (some execution)) = [] := by
      unfold inFlight
      rw [idle]
    have order : waiting (({ owner with operation := none } : Owner V).finishActiveCommand server
        active (some execution)) = waiting owner := by
      unfold waiting Owner.finishActiveCommand
      dsimp only
      split <;> rfl
    rw [nothing, order]
    unfold inFlight
    rw [held]
    rfl
  · rw [sent_snoc, sent_of_ended trace waits.agenda, agenda]
    simp only [List.filter_append, answer_outputs, announce_outputs]
    simp [outputsOf, isOutput, isAnswer, isPublished]

theorem eventSends_silent (owner : Owner V) (visited : List Nat) (envelope : EventEnvelope V) :
    (owner.eventSends visited envelope).filter isOutput = [] := by
  rw [List.filter_eq_nil_iff]
  intro work member
  unfold Owner.eventSends at member
  obtain ⟨connection, -, sends⟩ := List.mem_filterMap.mp member
  obtain ⟨subscriber, -, supported⟩ := Option.bind_eq_some_iff.mp sends
  split at supported
  · cases supported
    exact Bool.false_ne_true
  · cases supported

/-- Work moves from the agenda to the trace. -/
theorem Serving.work (serving : Serving server trace owner) {work : Work V} {rest : List (Work V)}
    (queue : owner.agenda = work :: rest) (accepting : owner.directive = .proceed)
    {visited : List Nat} (going : (owner.work server visited).directive = .proceed) :
    Serving server (trace ++ [.worked work]) (owner.work server visited) := by
  obtain ⟨ready, served, announced, book⟩ := serving
  have moved : ∀ {next : Owner V} (more : List (Work V)), more.filter isOutput = [] →
      next.agenda = more ++ rest → next.operation = owner.operation →
      next.receipts = owner.receipts → next.deferredRequests = owner.deferredRequests →
      next.ingress = owner.ingress → next.deferredEvents = owner.deferredEvents →
      owner.directive = .proceed → Serving server (trace ++ [.worked work]) next := by
    intro next more silent agenda operation receipts deferred ingress events accepting
    refine ⟨⟨?_, ?_, ?_⟩, served, announced ++ [], book.pass ?_ rfl receipts [] ?_ ?_⟩
    · rw [operation, receipts]
      exact ready.started
    · rw [deferred, ingress]
      exact ready.enqueues
    · rw [operation, events]
      exact fun idle _ => ready.settled idle accepting
    · rw [inFlight_congr operation]
      unfold waiting
      rw [deferred, ingress]
      exact (List.append_nil _).symm
    · rw [sent_snoc, agenda, List.filter_append, silent]
      unfold sent
      rw [queue, List.map_nil, List.append_nil, List.nil_append, ← List.singleton_append,
        List.filter_append]
      rfl
    · rw [events]
      exact (List.append_nil _).symm
  unfold Owner.work at going ⊢
  rw [queue] at going ⊢
  cases work with
  | send connection message counted => exact moved [] rfl rfl rfl rfl rfl rfl rfl accepting
  | reply connection whileSubscribed => exact moved [] rfl rfl rfl rfl rfl rfl rfl accepting
  | publish version publication =>
    dsimp only at going ⊢
    unfold Owner.publishEventLocked at going ⊢
    by_cases exhausted : 2 ^ 64 ≤ owner.cursor + 1
    · rw [if_pos exhausted] at going
      exact absurd going (OwnerOrder.stop_beginStopping _ _)
    · rw [if_neg exhausted]
      exact moved _ (eventSends_silent _ _ _) rfl rfl rfl rfl rfl rfl accepting

theorem Serving.applicationEvent (serving : Serving server trace owner) (waits : owner.Waits)
    {publication : EventPublication V}
    (going : (owner.handleApplicationEvent server (some publication)).directive = .proceed) :
    Serving server (trace ++ [.applicationEvent publication])
      (owner.handleApplicationEvent server (some publication)) := by
  have ready := serving.1
  unfold Owner.handleApplicationEvent at going ⊢
  dsimp only at going ⊢
  split
  · rename_i active
    rw [if_pos active] at going
    split
    · rename_i full
      rw [if_pos full] at going
      exact absurd going (OwnerOrder.stop_beginStopping _ _)
    · refine serving.turn waits.agenda rfl rfl (List.append_nil _).symm rfl [] ?_ rfl
        ⟨ready.started, ready.enqueues, ?_⟩
      · dsimp only
        rw [waits.agenda]
        rfl
      · intro idle
        have idle : owner.operation = none := idle
        rw [idle] at active
        cases active
  · rename_i idle
    have idle : owner.operation = none := by simpa using idle
    have settled := ready.settled idle waits.directive
    refine serving.turn waits.agenda rfl rfl (List.append_nil _).symm rfl [publication] rfl ?_
      ⟨ready.started, ready.enqueues, fun _ _ => settled⟩
    dsimp only
    rw [settled]
    rfl

/-- An operation that ends without a panic. -/
theorem Serving.finishOperation (serving : Serving server trace owner) (waits : owner.Waits)
    {completion : Completion V} (expected : owner.expects completion = true)
    (going : (owner.finishOperation server completion).directive = .proceed) :
    Serving server (trace ++ [.completed completion])
      (owner.finishOperation server completion) := by
  unfold Owner.expects at expected
  unfold Owner.finishOperation at going ⊢
  cases held : owner.operation with
  | none =>
    rw [held] at expected
    cases completion <;> cases expected
  | some operation =>
    rw [held] at going expected
    cases completion with
    | command execution =>
      cases operation with
      | registrationSnapshot pending => cases expected
      | command active =>
        dsimp only at going ⊢
        cases execution with
        | none =>
          exact absurd going (OwnerOrder.stop_beginStopping { owner with operation := none } _)
        | some execution => exact serving.finish waits held execution
    | snapshot items =>
      cases operation with
      | command active => cases expected
      | registrationSnapshot pending =>
        dsimp only at going ⊢
        have flushed := flushed_finishRegistration server { owner with operation := none }
          waits.agenda pending items
        obtain ⟨more, agenda, deferred⟩ := flushed.events
        have ready := serving.1
        refine serving.request waits.agenda rfl rfl rfl rfl ?_ flushed.receipts more ?_ deferred
          ⟨?_, ?_, fun _ _ => flushed.settled rfl going⟩
        · rw [inFlight_congr flushed.operation]
          unfold waiting inFlight
          rw [flushed.deferredRequests, flushed.ingress, held]
        · rw [agenda, announce_outputs]
        · intro active same
          rw [flushed.operation] at same
          cases same
        · rw [flushed.deferredRequests, flushed.ingress]
          exact ready.enqueues

theorem Serving.task (serving : Serving server trace owner) {connection : Nat}
    {event : TaskEvent V} {session : Session V} (allowed : mayRequest server event = true) :
    Serving server (trace ++ [.task connection event])
      { owner.withSession connection fun _ => session with
        ingress := owner.ingress ++ requestsOf connection event } := by
  obtain ⟨ready, served, announced, book⟩ := serving
  refine ⟨⟨ready.started, ?_, ready.settled⟩, served, announced ++ [], ?_⟩
  · intro other message member
    have member : .enqueue other message ∈
        owner.deferredRequests ++ (owner.ingress ++ requestsOf connection event) := member
    rw [← List.append_assoc] at member
    rcases List.mem_append.mp member with old | new
    · exact ready.enqueues other message old
    · cases event <;> simp [requestsOf] at new
      obtain ⟨-, rfl⟩ := new
      exact allowed
  refine book.pass ?_ rfl ?_ [] ?_ ?_
  · have arrived :
        (owner.deferredRequests ++ (owner.ingress ++ requestsOf connection event)).flatMap
          commandOf = waiting owner ++ submissionsOf (.task connection event) := by
      rw [← List.append_assoc, List.flatMap_append]
      rfl
    rw [List.append_assoc, ← arrived]
    rfl
  · rfl
  · rw [sent_snoc]
    exact (List.append_nil _).symm
  · exact (List.append_nil _).symm

end Steps

end Decodex.Guarantees.CommandService
