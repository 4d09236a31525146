import Decodex.Library.Paging
import Decodex.Guarantees.CommandService

/-!
# The publication stream

Source: crates/decodex-runtime/src/websocket.rs:503-554, 1970-2101 and 2255-2330. Over every run of
the owner and its tasks, while the owner accepts: the retained events are the last of all that were
published, and what goes to a session is a welcome, then the published events from a resume cursor
on, or a snapshot at a cursor and the events from there on, each once and in their order, until the
session is sealed.
-/
namespace Decodex.Guarantees.PublicationStream

open Decodex.Library Decodex.Source.Protocol.SessionMessages
open Decodex.Source.Runtime.Publication Decodex.Guarantees.SessionTasks
open Decodex.Guarantees.SessionCompletions Decodex.Guarantees.OwnerOrder

variable {V : Vocabulary}

/-- The events that were published, and for each connection its hello, the messages it opened with
and the messages that its task wrote. -/
structure Record (V : Vocabulary) where
  published : List (EventEnvelope V) := []
  hello : Nat → Option ClientHello := fun _ => none
  opening : Nat → List (ServerMessage V) := fun _ => []
  wire : Nat → List (ServerMessage V) := fun _ => []

/-- The message that a step of the task puts on the wire. -/
def wroteOnWire (session : Session V) : TaskEvent V → List (ServerMessage V)
  | .initialWritten => match session.task with
    | .initial (message :: _) => [message]
    | _ => []
  | event => wrote session event

/-- An event in the current version. -/
def asCurrent (event : EventEnvelope V) : EventEnvelope V := { event with version := currentVersion }

/-- The messages that a session opened with, after a step. -/
def openedWith (session next : Session V) (earlier : List (ServerMessage V)) :
    List (ServerMessage V) :=
  match session.task, next.task with
  | .registering, .initial messages => messages
  | _, _ => earlier

def Record.after (server : Server V) (owner : Owner V) (event : OwnerEvent V) (next : Owner V)
    (record : Record V) : Record V where
  published := match event with
    | .worked (.publish version publication) =>
      record.published ++ [asCurrent (Owner.eventOf server version (owner.cursor + 1) publication)]
    | _ => record.published
  hello := match event with
    | .task connection (.helloReceived hello) => fun other =>
      if other = connection then some hello else record.hello other
    | _ => record.hello
  opening := fun connection => openedWith (owner.sessions connection) (next.sessions connection)
    (record.opening connection)
  wire := match event with
    | .task connection event => fun other =>
      if other = connection then
        record.wire other ++ wroteOnWire (owner.sessions other) event
      else record.wire other
    | _ => record.wire

/-- The events among messages. -/
def eventsOf (messages : List (ServerMessage V)) : List (EventEnvelope V) :=
  messages.filterMap fun
    | .event event => some event
    | _ => none

def isEventSend : Work V → Bool
  | .send _ (.event _) _ => true
  | _ => false

/-- The events that a turn has still to send to a connection. -/
def pendingEvents (agenda : List (Work V)) (connection : Nat) : List (EventEnvelope V) :=
  agenda.filterMap fun
    | .send other (.event event) _ => if other = connection then some event else none
    | _ => none

/-- The events of one publication are sent before the next is published. -/
def Apart (agenda : List (Work V)) : Prop :=
  ∃ sends rest, agenda = sends ++ rest ∧ (∀ work ∈ sends, isEventSend work = true) ∧
    ∀ work ∈ rest, isEventSend work = false

/-- What a session opens with, for its hello, and the number from which its events go on. -/
inductive Opened (server : Server V) (published : List (EventEnvelope V)) (hello : ClientHello) :
    List (ServerMessage V) → Nat → Prop
  | resumed (resume : ResumeCursor) (cursor : Nat) (asked : hello.resume = some resume)
      (sameServer : resume.serverId = server.serverId)
      (sameInstance : server.instanceId = resume.instanceId)
      (identified : server.instanceId.isSome = true) (later : resume.cursor ≤ cursor)
      (bounded : cursor ≤ published.length) :
      Opened server published hello
        (.welcome ⟨currentVersion, server.serverId, server.instanceId, cursor, .resume⟩ ::
          ((published.take cursor).drop resume.cursor).map .event) resume.cursor
  | snapshot (cursor : Nat) (items : List V.SnapshotItem)
      (few : items.length ≤ server.maximumSnapshotItems) (bounded : cursor ≤ published.length) :
      Opened server published hello
        [.welcome ⟨currentVersion, server.serverId, server.instanceId, cursor,
            if hello.resume.isSome then .snapshotFallback else .snapshot⟩,
          .snapshot ⟨currentVersion, server.serverId, cursor, items⟩] cursor

/-- A message that the owner may send after the opening. -/
def Fair (server : Server V) : ServerMessage V → Prop
  | .event event => event.version = currentVersion ∧ event.serverId = server.serverId
  | .commandReceipt receipt =>
    receipt.version = currentVersion ∧ receipt.serverId = server.serverId
  | .commandResult result => result.version = currentVersion ∧ result.serverId = server.serverId
  | .queryResult result => result.version = currentVersion ∧ result.serverId = server.serverId
  | .accountLogin _ => True
  | .refusal refusal => refusal.serverId = server.serverId
  | .welcome _ | .snapshot _ => False

def FairWork (server : Server V) : Work V → Prop
  | .send _ message _ => Fair server message
  | _ => True

/-- A request of the current version; a registration comes with the hello of its connection. -/
def FairRequest (server : Server V) (record : Record V) : Request V → Prop
  | .register connection hello version =>
    version = currentVersion ∧ record.hello connection = some hello
  | .enqueue _ message => mayEnqueue server message = true
  | .command _ _ version => version = currentVersion

def FairOperation (record : Record V) : Operation V → Prop
  | .command active => active.version = currentVersion
  | .registrationSnapshot pending =>
    pending.version = currentVersion ∧ record.hello pending.connection = some pending.hello

/-- The messages of the owner come from it and are of the current version. -/
structure Current (server : Server V) (owner : Owner V) (record : Record V) : Prop where
  requests : ∀ request ∈ owner.deferredRequests ++ owner.ingress, FairRequest server record request
  operation : ∀ operation, owner.operation = some operation → FairOperation record operation
  receipts : ∀ key stored, owner.receipts.find? key = some stored →
    stored.result.serverId = server.serverId
  subscribers : ∀ connection subscriber, (owner.sessions connection).subscriber = some subscriber →
    subscriber.version = currentVersion
  agenda : ∀ work ∈ owner.agenda, FairWork server work

/-- What a session that has been opened gets of the published events. -/
structure Stream (server : Server V) (published : List (EventEnvelope V))
    (opening accepted : List (ServerMessage V)) (session : Session V)
    (pending : List (EventEnvelope V)) (hello : ClientHello) (start : Nat) : Prop where
  opened : Opened server published hello opening start
  events : eventsOf (opening ++ accepted) <+: published.drop start
  /-- As long as it is subscribed, it gets them all. -/
  subscribed : session.subscriber.isSome = true →
    eventsOf (opening ++ accepted) ++ pending = published.drop start

/-- Where the task stands with its wire. -/
def Wired (session : Session V) (opening accepted written wire : List (ServerMessage V)) : Prop :=
  wire <+: opening ++ accepted ∧
    match session.task with
    | .opening | .registering => opening = [] ∧ wire = []
    | .initial rest => wire ++ rest = opening
    | .running _ _ _ => wire = opening ++ written
    | _ => True

/-- What goes to one session. -/
structure Flow (server : Server V) (published : List (EventEnvelope V)) (hello : Option ClientHello)
    (opening accepted written wire : List (ServerMessage V)) (session : Session V)
    (pending : List (EventEnvelope V)) : Prop where
  fair : ∀ message ∈ accepted, Fair server message
  wired : Wired session opening accepted written wire
  ungreeted : session.task = .opening → hello = none
  unopened : opening = [] → accepted = [] ∧ session.subscriber = none
  streams : opening ≠ [] → ∃ greeting start, hello = some greeting ∧
    Stream server published opening accepted session pending greeting start

/-- What the owner retains of the published events. -/
structure Retains (server : Server V) (owner : Owner V) (record : Record V) : Prop where
  length : record.published.length = owner.cursor
  bounded : owner.cursor < 2 ^ 64
  numbered : Numbered (fun event => (event.cursor : Int)) 0 record.published
  own : ∀ event ∈ record.published,
    event.version = currentVersion ∧ event.serverId = server.serverId
  retained : owner.events.map asCurrent =
    record.published.drop (record.published.length - server.replayCapacity)

/-- What holds of the publication between the steps of an owner that accepts. -/
structure Streaming (server : Server V) (owner : Owner V) (ledger : Ledger V)
    (record : Record V) : Prop extends Retains server owner record where
  apart : Apart owner.agenda
  current : Current server owner record
  fresh : ∀ connection, owner.connectionIds ≤ connection →
    record.opening connection = [] ∧ record.wire connection = [] ∧ record.hello connection = none
  flows : ∀ connection, Flow server record.published (record.hello connection)
    (record.opening connection) (ledger.accepted connection) (ledger.written connection)
    (record.wire connection) (owner.sessions connection) (pendingEvents owner.agenda connection)

section Tasks

variable {server : Server V} {owner : Owner V} {ledger : Ledger V} {record : Record V}
  {session next : Session V} {opening accepted written wire : List (ServerMessage V)}

/-- The wire goes on with what the task writes. -/
theorem Wired.taskStep (wired : Wired session opening accepted written wire)
    (told : Told session accepted written) (sound : Sound session accepted.length)
    {serverId : String} {event : TaskEvent V}
    (moved : session.taskStep serverId event = some next) :
    Wired next opening accepted (written ++ wrote session event)
      (wire ++ wroteOnWire session event) := by
  have later := told.taskStep sound moved
  obtain ⟨part, side⟩ := wired
  unfold Session.taskStep at moved
  split at moved
  case h_1 stage =>
    cases moved
    simp only [wroteOnWire, wrote, List.append_nil]
    exact ⟨part, trivial⟩
  case h_2 stage =>
    split at moved
    · cases moved
      simp only [wroteOnWire, wrote, List.append_nil]
      rw [stage] at side
      exact ⟨part, side⟩
    · cases moved
  case h_3 message rest stage =>
    cases moved
    simp only [wroteOnWire, wrote, stage, List.append_nil]
    rw [stage] at side
    have whole : wire ++ [message] ++ rest = opening := by
      rw [List.append_assoc]
      exact side
    refine ⟨?_, whole⟩
    rw [← whole]
    exact (List.prefix_append _ _).trans (List.prefix_append _ _)
  case h_4 stage =>
    split at moved
    · cases moved
      simp only [wroteOnWire, wrote, List.append_nil]
      exact ⟨part, trivial⟩
    · cases moved
  case h_5 stage =>
    cases moved
    simp only [wroteOnWire, wrote, List.append_nil]
    rw [stage] at side
    unfold Told at told
    rw [stage] at told
    have whole : wire ++ [] = opening := side
    have none : written = [] := told.1
    refine ⟨part, ?_⟩
    dsimp only
    rw [none, ← whole, List.append_nil, List.append_nil]
  case h_12 item _ stage =>
    cases moved
    simp only [wroteOnWire, wrote, stage] at later ⊢
    rw [stage] at side
    have whole : wire ++ [item.message] = opening ++ (written ++ [item.message]) := by
      rw [← List.append_assoc]
      exact congrArg (· ++ [item.message]) side
    refine ⟨?_, whole⟩
    rw [whole, later.2]
    exact (List.prefix_append_right_inj opening).mpr (List.prefix_append _ _)
  case h_13 stage =>
    split at moved
    · cases moved
      simp only [wroteOnWire, wrote, List.append_nil]
      exact ⟨part, trivial⟩
    · cases moved
  case h_14 stage =>
    split at moved
    · cases moved
      simp only [wroteOnWire, wrote, List.append_nil]
      exact ⟨part, trivial⟩
    · cases moved
  case h_15 stage =>
    cases moved
    simp only [wroteOnWire, wrote, List.append_nil]
    exact ⟨part, trivial⟩
  case h_16 stage =>
    split at moved
    · cases moved
      simp only [wroteOnWire, wrote, List.append_nil]
      exact ⟨part, trivial⟩
    · cases moved
  case h_17 => cases moved
  case h_8 stage =>
    split at moved
    · cases moved
      simp only [wroteOnWire, wrote, List.append_nil]
      rw [stage] at side
      exact ⟨part, side⟩
    · cases moved
  case h_11 stage =>
    split at moved
    · cases moved
    · cases moved
      simp only [wroteOnWire, wrote, List.append_nil]
      rw [stage] at side
      exact ⟨part, side⟩
  all_goals
    rename_i stage
    cases moved
    simp only [wroteOnWire, wrote, List.append_nil]
    rw [stage] at side
    exact ⟨part, side⟩

/-- Only a registration opens a session. -/
theorem opening_same {event : OwnerEvent V} {next : Owner V}
    (waits : ∀ connection messages, (owner.sessions connection).task = .registering →
      (next.sessions connection).task ≠ .initial messages) :
    (record.after server owner event next).opening = record.opening := by
  funext connection
  unfold Record.after openedWith
  dsimp only
  split
  · rename_i stage opened
    exact absurd opened (waits connection _ stage)
  · rfl

theorem negotiate_some {version : ProtocolVersion} (agreed : version.negotiate.isSome = true) :
    version = currentVersion := by
  unfold ProtocolVersion.negotiate at agreed
  split at agreed
  · cases agreed
  · rename_i same
    exact not_not.mp same

theorem helloReceived_version {serverId : String} {hello : ClientHello}
    (moved : session.taskStep serverId (.helloReceived hello) = some next) :
    hello.version = currentVersion ∧ session.task = .opening := by
  unfold Session.taskStep at moved
  cases stage : session.task <;> rw [stage] at moved <;> try cases moved
  dsimp only at moved
  split at moved
  · rename_i agreed
    rw [Bool.and_eq_true] at agreed
    exact ⟨negotiate_some agreed.1, rfl⟩
  · cases moved

theorem FairRequest.mono {request : Request V} {next : Record V}
    (fair : FairRequest server record request)
    (same : ∀ connection, registrationOf request = some connection →
      next.hello connection = record.hello connection) : FairRequest server next request := by
  cases request with
  | register connection hello version =>
    obtain ⟨current, greeted⟩ := fair
    exact ⟨current, (same connection rfl).trans greeted⟩
  | enqueue connection message => exact fair
  | command connection command version => exact fair

theorem FairOperation.mono {operation : Operation V} {next : Record V}
    (fair : FairOperation record operation)
    (same : ∀ pending, operation = .registrationSnapshot pending →
      next.hello pending.connection = record.hello pending.connection) :
    FairOperation next operation := by
  cases operation with
  | command active => exact fair
  | registrationSnapshot pending =>
    obtain ⟨current, greeted⟩ := fair
    exact ⟨current, (same pending rfl).trans greeted⟩

theorem registrations_of_request {request : Request V} {connection : Nat}
    (member : request ∈ owner.deferredRequests ++ owner.ingress)
    (names : registrationOf request = some connection) : connection ∈ registrations owner := by
  unfold registrations
  exact List.mem_append_right _ (List.mem_filterMap.mpr ⟨request, member, names⟩)

theorem registrations_of_operation {pending : PendingRegistrationSnapshot}
    (held : owner.operation = some (.registrationSnapshot pending)) :
    pending.connection ∈ registrations owner := by
  unfold registrations
  rw [held]
  exact List.mem_cons_self

/-- The hello of a connection whose registration is made, or is waited for, stays. -/
theorem hello_task {connection : Nat} {event : TaskEvent V} {next : Owner V}
    (moved : (owner.sessions connection).taskStep server.serverId event = some session)
    (other : Nat) (greeted : other = connection → (owner.sessions connection).task ≠ .opening) :
    (record.after server owner (.task connection event) next).hello other =
      record.hello other := by
  cases event with
  | helloReceived hello =>
    unfold Record.after
    dsimp only
    rw [if_neg fun same => greeted same (helloReceived_version moved).2]
  | _ => rfl

theorem taskStep_opening {serverId : String} {event : TaskEvent V}
    (moved : session.taskStep serverId event = some next) : next.task ≠ .opening := by
  unfold Session.taskStep at moved
  intro stage
  split at moved <;> (try split at moved) <;> cases moved <;> cases stage

theorem Flow.taskStep {published pending : List (EventEnvelope V)}
    {greeting later : Option ClientHello}
    (flow : Flow server published greeting opening accepted written wire session pending)
    (told : Told session accepted written) (sound : Sound session accepted.length)
    {serverId : String} {event : TaskEvent V}
    (moved : session.taskStep serverId event = some next)
    (same : session.task ≠ .opening → later = greeting) :
    Flow server published later opening accepted (written ++ wrote session event)
      (wire ++ wroteOnWire session event) next pending := by
  have kept := taskStep_subscriber moved
  refine ⟨flow.fair, flow.wired.taskStep told sound moved,
    fun stage => absurd stage (taskStep_opening moved), ?_, fun opened => ?_⟩
  · intro unopened
    rw [kept]
    exact flow.unopened unopened
  · obtain ⟨hello, start, greeted, stream⟩ := flow.streams opened
    refine ⟨hello, start, ?_, stream.opened, stream.events, ?_⟩
    · rw [same fun stage => ?_, greeted]
      have nothing := flow.wired.2
      rw [stage] at nothing
      exact opened nothing.1
    · rw [kept]
      exact stream.subscribed

/-- What the tasks do keeps the stream. -/
theorem Streaming.task (streaming : Streaming server owner ledger record)
    (orderly : Orderly owner ledger) {connection : Nat} {event : TaskEvent V}
    (moved : (owner.sessions connection).taskStep server.serverId event = some session)
    (allowed : mayRequest server event = true) {next : Owner V}
    (later : next = { owner.withSession connection fun _ => session with
      ingress := owner.ingress ++ requestsOf connection event }) :
    Streaming server next (ledger.after server owner (.task connection event))
      (record.after server owner (.task connection event) next) := by
  have sessions : next.sessions = (owner.withSession connection fun _ => session).sessions := by
    rw [later]
  have agenda : next.agenda = owner.agenda := by
    rw [later]
    rfl
  obtain ⟨waiting, owned⟩ := taskStep_of_registering moved
  have known := orderly.known owned
  have opening : (record.after server owner (.task connection event) next).opening =
      record.opening := by
    refine opening_same fun other messages stage opened => ?_
    rw [sessions] at opened
    by_cases same : other = connection
    · subst same
      exact waiting stage
    · rw [withSession_other _ same, stage] at opened
      cases opened
  have greeted : ∀ other, (owner.sessions other).task = .registering →
      (record.after server owner (.task connection event) next).hello other =
        record.hello other := by
    intro other stage
    refine hello_task moved other fun same => ?_
    subst same
    exact absurd stage waiting
  refine ⟨⟨?_, ?_, streaming.numbered, streaming.own, ?_⟩, ?_, ⟨?_, ?_, ?_, ?_, ?_⟩, ?_, ?_⟩
  · rw [later]
    exact streaming.length
  · rw [later]
    exact streaming.bounded
  · rw [later]
    exact streaming.retained
  · rw [agenda]
    exact streaming.apart
  · intro request member
    have member : request ∈ owner.deferredRequests ++
        (owner.ingress ++ requestsOf connection event) := by
      rw [later] at member
      exact member
    rw [← List.append_assoc] at member
    rcases List.mem_append.mp member with old | new
    · refine (streaming.current.requests request old).mono fun other names => ?_
      exact greeted other (orderly.registering other (registrations_of_request old names))
    · cases event with
      | helloReceived hello =>
        rw [List.mem_singleton.mp new]
        refine ⟨(helloReceived_version moved).1, ?_⟩
        unfold Record.after
        dsimp only
        rw [if_pos rfl]
      | enqueues message =>
        rw [List.mem_singleton.mp new]
        exact allowed
      | submits command =>
        rw [List.mem_singleton.mp new]
        rfl
      | _ => cases new
  · intro operation held
    have held : owner.operation = some operation := by
      rw [later] at held
      exact held
    refine (streaming.current.operation operation held).mono fun pending same => ?_
    subst same
    exact greeted _ (orderly.registering _ (registrations_of_operation held))
  · rw [later]
    exact streaming.current.receipts
  · intro other held subscribed
    refine streaming.current.subscribers other held ?_
    rw [← subscribed, sessions]
    by_cases same : other = connection
    · subst same
      rw [withSession_self]
      exact (taskStep_subscriber moved).symm
    · rw [withSession_other _ same]
  · rw [agenda]
    exact streaming.current.agenda
  · intro other above
    have above : owner.connectionIds ≤ other := by
      rw [later] at above
      exact above
    rw [opening, hello_task moved other fun same => absurd same (by omega)]
    unfold Record.after
    dsimp only
    rw [if_neg (by omega)]
    exact streaming.fresh other above
  · intro other
    rw [opening, sessions, agenda]
    by_cases same : other = connection
    · subst same
      rw [withSession_self]
      have same : (owner.sessions other).task ≠ .opening →
          (record.after server owner (.task other event) next).hello other = record.hello other :=
        fun started => hello_task moved other fun _ => started
      have flow := (streaming.flows other).taskStep (orderly.told other) (orderly.sound other) moved
        same
      unfold Record.after Ledger.after at *
      simpa only [if_pos] using flow
    · rw [withSession_other _ same, hello_task moved other fun equal => absurd equal same]
      unfold Record.after Ledger.after
      simpa only [if_neg same] using streaming.flows other

end Tasks

section Works

variable {server : Server V} {owner : Owner V} {ledger : Ledger V} {record : Record V}
  {agenda rest : List (Work V)} {connection : Nat} {visited : List Nat}

theorem eventsOf_append (first second : List (ServerMessage V)) :
    eventsOf (first ++ second) = eventsOf first ++ eventsOf second :=
  List.filterMap_append

theorem pendingEvents_append (first second : List (Work V)) :
    pendingEvents (first ++ second) connection =
      pendingEvents first connection ++ pendingEvents second connection :=
  List.filterMap_append

theorem pendingEvents_send (other : Nat) (message : ServerMessage V) (counted : Bool) :
    pendingEvents [.send other message counted] connection =
      if other = connection then eventsOf [message] else [] := by
  by_cases same : other = connection
  · rw [if_pos same]
    cases message <;> simp [pendingEvents, eventsOf, same]
  · rw [if_neg same]
    cases message <;> simp [pendingEvents, same]

theorem pendingEvents_of_quiet (quiet : ∀ work ∈ agenda, isEventSend work = false) :
    pendingEvents agenda connection = [] := by
  unfold pendingEvents
  rw [List.filterMap_eq_nil_iff]
  intro work member
  have quiet := quiet work member
  cases work with
  | send other message counted => cases message <;> first | rfl | cases quiet
  | _ => rfl

theorem Apart.tail {work : Work V} (apart : Apart (work :: rest)) : Apart rest := by
  obtain ⟨sends, others, split, sent, quiet⟩ := apart
  cases sends with
  | nil =>
    refine ⟨[], rest, rfl, List.forall_mem_nil _, fun other member => ?_⟩
    rw [List.nil_append] at split
    exact quiet other (split ▸ List.mem_cons_of_mem _ member)
  | cons first sends =>
    rw [List.cons_append, List.cons.injEq] at split
    exact ⟨sends, others, split.2, fun other member => sent other (List.mem_cons_of_mem _ member),
      quiet⟩

/-- When another work comes first, all events have been sent. -/
theorem Apart.quiet {work : Work V} (apart : Apart (work :: rest))
    (first : isEventSend work = false) : ∀ other ∈ rest, isEventSend other = false := by
  obtain ⟨sends, others, split, sent, quiet⟩ := apart
  cases sends with
  | nil =>
    rw [List.nil_append] at split
    exact fun other member => quiet other (split ▸ List.mem_cons_of_mem _ member)
  | cons last sends =>
    rw [List.cons_append, List.cons.injEq] at split
    have sends := sent last List.mem_cons_self
    rw [← split.1, first] at sends
    cases sends

/-- A session that is still subscribed accepted the message. -/
theorem acceptForSession_subscribed {session : Session V} {capacity : Nat}
    {message : ServerMessage V} {accepted : List (ServerMessage V)}
    (side : OwnerSide session accepted.length) {subscriber : Subscriber}
    (held : (session.acceptForSession capacity message).1.subscriber = some subscriber) :
    acceptedOf capacity session message = [message] ∧
      ∃ before, session.subscriber = some before ∧ before.version = subscriber.version := by
  cases taken : (session.acceptForSession capacity message).2.isAccepted with
  | false =>
    rw [sealed_of_unaccepted side taken] at held
    cases held
  | true =>
    refine ⟨acceptedOf_accepted taken, ?_⟩
    rcases acceptForSession_cases capacity message side with ⟨-, same⟩ |
      ⟨before, subscribed, ⟨exhausted, -⟩ | ⟨reason, same, -⟩ | ⟨-, -, same⟩⟩
    · rw [same] at taken
      cases taken
    · rw [exhausted] at taken
      cases taken
    · rw [same] at taken
      cases taken
    · rw [same] at held
      cases held
      exact ⟨before, subscribed, rfl⟩

theorem acceptedOf_nonempty {session : Session V} {capacity : Nat} {message : ServerMessage V}
    (some : acceptedOf capacity session message ≠ []) :
    acceptedOf capacity session message = [message] := by
  unfold acceptedOf at some ⊢
  split
  · rfl
  · rename_i refused
    rw [if_neg refused] at some
    exact absurd rfl some

/-- A message is accepted by a session that is subscribed. -/
theorem acceptedOf_subscribed {session : Session V} {capacity : Nat} {message : ServerMessage V}
    (some : acceptedOf capacity session message ≠ []) : session.subscriber.isSome = true := by
  cases held : session.subscriber with
  | some subscriber => rfl
  | none =>
    refine absurd ?_ some
    unfold acceptedOf Session.acceptForSession
    rw [held]
    rfl

/-- A session is sent a message. -/
theorem Flow.send {published pending : List (EventEnvelope V)} {hello : Option ClientHello}
    {opening accepted written wire : List (ServerMessage V)} {session : Session V}
    {message : ServerMessage V}
    (flow : Flow server published hello opening accepted written wire session
      (eventsOf [message] ++ pending))
    (side : OwnerSide session accepted.length) (fair : Fair server message) (capacity : Nat) :
    Flow server published hello opening (accepted ++ acceptedOf capacity session message) written
      wire (session.acceptForSession capacity message).1 pending := by
  have task := acceptForSession_task capacity message side
  have longer : opening ++ accepted <+: opening ++ (accepted ++ acceptedOf capacity session message) :=
    (List.prefix_append_right_inj opening).mpr (List.prefix_append _ _)
  refine ⟨?_, ⟨flow.wired.1.trans longer, ?_⟩, fun stage => flow.ungreeted (task ▸ stage), ?_,
    fun opened => ?_⟩
  · intro other member
    rcases List.mem_append.mp member with old | new
    · exact flow.fair other old
    · unfold acceptedOf at new
      split at new
      · rw [List.mem_singleton.mp new]
        exact fair
      · cases new
  · rw [task]
    exact flow.wired.2
  · intro unopened
    obtain ⟨none, unsubscribed⟩ := flow.unopened unopened
    rw [subscriber_stays_none _ message unsubscribed]
    refine ⟨?_, unsubscribed⟩
    rw [none, List.nil_append]
    by_contra taken
    have subscribed := acceptedOf_subscribed taken
    rw [unsubscribed] at subscribed
    cases subscribed
  · obtain ⟨greeting, start, greeted, stream⟩ := flow.streams opened
    refine ⟨greeting, start, greeted, stream.opened, ?_, fun subscribed => ?_⟩
    · by_cases refused : acceptedOf capacity session message = []
      · rw [refused, List.append_nil]
        exact stream.events
      · have all := stream.subscribed (acceptedOf_subscribed refused)
        rw [acceptedOf_nonempty refused, ← List.append_assoc, eventsOf_append, ← all,
          ← List.append_assoc]
        exact List.prefix_append _ _
    · obtain ⟨subscriber, held⟩ := Option.isSome_iff_exists.mp subscribed
      obtain ⟨taken, before, subscribed, -⟩ := acceptForSession_subscribed side held
      have all := stream.subscribed (by rw [subscribed]; rfl)
      rw [taken, ← List.append_assoc, eventsOf_append, List.append_assoc]
      exact all

/-- The publication goes on where nothing is published. -/
theorem Streaming.keep (streaming : Streaming server owner ledger record) {next : Owner V}
    {later : Ledger V} {after : Record V} (cursor : next.cursor = owner.cursor)
    (events : next.events = owner.events) (published : after.published = record.published)
    (apart : Apart next.agenda) (current : Current server next after)
    (fresh : ∀ connection, next.connectionIds ≤ connection → after.opening connection = [] ∧
      after.wire connection = [] ∧ after.hello connection = none)
    (flows : ∀ connection, Flow server record.published (after.hello connection)
      (after.opening connection) (later.accepted connection) (later.written connection)
      (after.wire connection) (next.sessions connection)
      (pendingEvents next.agenda connection)) : Streaming server next later after := by
  refine ⟨⟨?_, ?_, ?_, ?_, ?_⟩, apart, current, fresh, ?_⟩
  · rw [published, cursor]
    exact streaming.length
  · rw [cursor]
    exact streaming.bounded
  · rw [published]
    exact streaming.numbered
  · rw [published]
    exact streaming.own
  · rw [published, events]
    exact streaming.retained
  · rw [published]
    exact flows

/-- The sessions keep their openings, where no task waits for its registration. -/
theorem opening_withSession {event : OwnerEvent V} {next : Owner V}
    {change : Session V → Session V}
    (sessions : next.sessions = (owner.withSession connection change).sessions)
    (waits : ∀ messages, (owner.sessions connection).task = .registering →
      (change (owner.sessions connection)).task ≠ .initial messages) :
    (record.after server owner event next).opening = record.opening := by
  refine opening_same fun other messages stage opened => ?_
  rw [sessions] at opened
  by_cases same : other = connection
  · subst same
    rw [withSession_self] at opened
    exact waits messages stage opened
  · rw [withSession_other _ same, stage] at opened
    cases opened

theorem Streaming.send (streaming : Streaming server owner ledger record)
    (orderly : Orderly owner ledger) {message : ServerMessage V} {counted : Bool}
    (next : owner.agenda = .send connection message counted :: rest) :
    Streaming server (owner.work server visited)
      (ledger.after server owner (.worked (.send connection message counted)))
      (record.after server owner (.worked (.send connection message counted))
        (owner.work server visited)) := by
  have side := (orderly.sound connection).owner
  have sessions : (owner.work server visited).sessions = (owner.withSession connection fun _ =>
      ((owner.sessions connection).acceptForSession server.outboundQueueCapacity message).1).sessions := by
    unfold Owner.work
    rw [next]
    rfl
  have agenda : (owner.work server visited).agenda = rest := by
    unfold Owner.work
    rw [next]
  have opening : (record.after server owner (.worked (.send connection message counted))
      (owner.work server visited)).opening = record.opening := by
    refine opening_withSession sessions fun messages stage opened => ?_
    rw [acceptForSession_task _ _ side, stage] at opened
    cases opened
  have apart := streaming.apart
  have fair := streaming.current.agenda
  rw [next] at apart fair
  refine streaming.keep ?_ ?_ rfl ?_ ⟨?_, ?_, ?_, ?_, ?_⟩ ?_ ?_
  · unfold Owner.work
    rw [next]
    rfl
  · unfold Owner.work
    rw [next]
    rfl
  · rw [agenda]
    exact apart.tail
  · intro request member
    refine (streaming.current.requests request ?_).mono fun _ _ => rfl
    unfold Owner.work at member
    rw [next] at member
    exact member
  · intro operation held
    refine (streaming.current.operation operation ?_).mono fun _ _ => rfl
    unfold Owner.work at held
    rw [next] at held
    exact held
  · unfold Owner.work
    rw [next]
    exact streaming.current.receipts
  · intro other subscriber held
    rw [sessions] at held
    by_cases same : other = connection
    · subst same
      rw [withSession_self] at held
      obtain ⟨-, before, subscribed, version⟩ := acceptForSession_subscribed side held
      rw [← version]
      exact streaming.current.subscribers other before subscribed
    · rw [withSession_other _ same] at held
      exact streaming.current.subscribers other subscriber held
  · rw [agenda]
    exact fun work member => fair work (List.mem_cons_of_mem _ member)
  · intro other above
    rw [opening]
    refine streaming.fresh other ?_
    unfold Owner.work at above
    rw [next] at above
    exact above
  · intro other
    have flow := streaming.flows other
    rw [next, ← List.singleton_append, pendingEvents_append, pendingEvents_send] at flow
    rw [opening, sessions, agenda]
    unfold Ledger.after
    dsimp only
    by_cases same : other = connection
    · subst same
      rw [withSession_self, if_pos rfl]
      rw [if_pos rfl] at flow
      exact flow.send side (fair _ List.mem_cons_self) _
    · rw [withSession_other _ same, if_neg same]
      rw [if_neg (Ne.symm same)] at flow
      exact flow

theorem Opened.bounded {published : List (EventEnvelope V)} {hello : ClientHello}
    {opening : List (ServerMessage V)} {start : Nat}
    (opened : Opened server published hello opening start) : start ≤ published.length := by
  cases opened with
  | resumed resume cursor asked sameServer sameInstance identified later bounded =>
    exact later.trans bounded
  | snapshot cursor items few bounded => exact bounded

/-- What a session opened with stays as the publication goes on. -/
theorem Opened.grow {published : List (EventEnvelope V)} {hello : ClientHello}
    {opening : List (ServerMessage V)} {start : Nat}
    (opened : Opened server published hello opening start) (event : EventEnvelope V) :
    Opened server (published ++ [event]) hello opening start := by
  cases opened with
  | resumed resume cursor asked sameServer sameInstance identified later bounded =>
    have same : (published ++ [event]).take cursor = published.take cursor :=
      List.take_append_of_le_length bounded
    rw [← same]
    refine .resumed resume cursor asked sameServer sameInstance identified later ?_
    rw [List.length_append]
    omega
  | snapshot cursor items few bounded =>
    refine .snapshot _ items few ?_
    rw [List.length_append]
    omega

/-- An event is published when all before it have been sent. -/
theorem Flow.publish {published : List (EventEnvelope V)} {hello : Option ClientHello}
    {opening accepted written wire : List (ServerMessage V)} {session : Session V}
    (flow : Flow server published hello opening accepted written wire session [])
    (event : EventEnvelope V) :
    Flow server (published ++ [event]) hello opening accepted written wire session
      (if session.subscriber.isSome then [event] else []) := by
  refine ⟨flow.fair, flow.wired, flow.ungreeted, flow.unopened, fun opened => ?_⟩
  obtain ⟨greeting, start, greeted, stream⟩ := flow.streams opened
  refine ⟨greeting, start, greeted, stream.opened.grow event, ?_, fun subscribed => ?_⟩
  · rw [List.drop_append_of_le_length stream.opened.bounded]
    exact stream.events.trans (List.prefix_append _ _)
  · have all := stream.subscribed subscribed
    rw [List.append_nil] at all
    rw [List.drop_append_of_le_length stream.opened.bounded, if_pos subscribed, all]

/-- Each subscriber is sent the event once. -/
theorem pendingEvents_each {connections : List Nat} (distinct : connections.Nodup)
    (event : EventEnvelope V) :
    pendingEvents (connections.map fun other => .send other (.event event) false) connection =
      if connection ∈ connections then [event] else [] := by
  induction connections with
  | nil => rfl
  | cons first others ih =>
    rw [List.nodup_cons] at distinct
    rw [List.map_cons, ← List.singleton_append, pendingEvents_append, pendingEvents_send,
      ih distinct.2]
    by_cases same : first = connection
    · subst same
      rw [if_pos rfl, if_neg distinct.1, if_pos List.mem_cons_self]
      rfl
    · rw [if_neg same, List.nil_append]
      congr 1
      rw [List.mem_cons]
      simp [Ne.symm same]

theorem eventSends_current (current : Current server owner record)
    (visits : visited.Perm owner.subscribers) (event : EventEnvelope V) :
    owner.eventSends visited event = visited.map fun connection =>
      .send connection (.event (asCurrent event)) false := by
  unfold Owner.eventSends
  rw [← List.filterMap_eq_map]
  refine List.filterMap_congr fun connection member => ?_
  have member : connection ∈ owner.subscribers := visits.mem_iff.mp member
  unfold Owner.subscribers at member
  obtain ⟨subscriber, held⟩ := Option.isSome_iff_exists.mp (List.mem_filter.mp member).2
  have version := current.subscribers connection subscriber held
  rw [held, Option.bind_some, version, if_pos (by decide)]
  rfl

/-- What a publication changes. -/
theorem work_publish {version : ProtocolVersion} {publication : EventPublication V}
    (next : owner.agenda = .publish version publication :: rest)
    (spare : owner.cursor + 1 < 2 ^ 64) :
    owner.work server visited = { owner with
      cursor := owner.cursor + 1
      events := (owner.events ++
          [Owner.eventOf server version (owner.cursor + 1) publication]).drop
        ((owner.events ++ [Owner.eventOf server version (owner.cursor + 1) publication]).length -
          server.replayCapacity)
      agenda := owner.eventSends visited
          (Owner.eventOf server version (owner.cursor + 1) publication) ++ rest } := by
  unfold Owner.work
  rw [next]
  unfold Owner.publishEventLocked
  dsimp only
  rw [if_neg (by omega)]
  rfl

theorem Streaming.publish (streaming : Streaming server owner ledger record)
    (orderly : Orderly owner ledger) {version : ProtocolVersion}
    {publication : EventPublication V}
    (next : owner.agenda = .publish version publication :: rest)
    (visits : visited.Perm owner.subscribers) (spare : owner.cursor + 1 < 2 ^ 64) :
    Streaming server (owner.work server visited)
      (ledger.after server owner (.worked (.publish version publication)))
      (record.after server owner (.worked (.publish version publication)) (owner.work server visited)) := by
  have work : owner.work server visited = _ := work_publish next spare
  generalize held : Owner.eventOf server version (owner.cursor + 1) publication = event at work
  have sessions : (owner.work server visited).sessions = owner.sessions := by rw [work]
  have agenda : (owner.work server visited).agenda = owner.eventSends visited event ++ rest := by rw [work]
  have opening : (record.after server owner (.worked (.publish version publication))
      (owner.work server visited)).opening = record.opening := by
    refine opening_same fun other messages stage opened => ?_
    rw [sessions, stage] at opened
    cases opened
  have published : (record.after server owner (.worked (.publish version publication))
      (owner.work server visited)).published = record.published ++ [asCurrent event] := by
    rw [← held]
    rfl
  have apart := streaming.apart
  have fair := streaming.current.agenda
  rw [next] at apart fair
  have quiet := apart.quiet rfl
  have sends := eventSends_current streaming.current visits event
  have stamp : (asCurrent event).cursor = record.published.length + 1 := by
    rw [← held, streaming.length]
    rfl
  refine ⟨⟨?_, ?_, ?_, ?_, ?_⟩, ?_, ⟨?_, ?_, ?_, ?_, ?_⟩, ?_, ?_⟩
  · rw [published, work, List.length_append, streaming.length]
    rfl
  · rw [work]
    exact spare
  · rw [published]
    exact streaming.numbered.append_one (by rw [stamp]; simp)
  · intro other member
    rw [published] at member
    rcases List.mem_append.mp member with old | new
    · exact streaming.own other old
    · rw [List.mem_singleton.mp new, ← held]
      exact ⟨rfl, rfl⟩
  · have window := window_snoc record.published (asCurrent event) server.replayCapacity
      server.replayPositive
    rw [published, ← window, work, ← streaming.retained, List.map_drop, List.map_append,
      List.map_singleton, List.length_append, List.length_append, List.length_map]
    rfl
  · rw [agenda]
    refine ⟨owner.eventSends visited event, rest, rfl, fun work member => ?_, quiet⟩
    rw [sends] at member
    obtain ⟨other, -, rfl⟩ := List.mem_map.mp member
    rfl
  · intro request member
    rw [work] at member
    exact (streaming.current.requests request member).mono fun _ _ => rfl
  · intro operation active
    rw [work] at active
    exact (streaming.current.operation operation active).mono fun _ _ => rfl
  · rw [work]
    exact streaming.current.receipts
  · rw [sessions]
    exact streaming.current.subscribers
  · intro other member
    rw [agenda] at member
    rcases List.mem_append.mp member with new | old
    · rw [sends] at new
      obtain ⟨connection, -, rfl⟩ := List.mem_map.mp new
      rw [← held]
      exact ⟨rfl, rfl⟩
    · exact fair other (List.mem_cons_of_mem _ old)
  · intro other above
    rw [work] at above
    rw [opening]
    exact streaming.fresh other above
  · intro other
    have flow := streaming.flows other
    rw [next, pendingEvents_of_quiet (List.forall_mem_cons.mpr ⟨rfl, quiet⟩)] at flow
    have later := flow.publish (asCurrent event)
    have listed : other ∈ visited ↔ (owner.sessions other).subscriber.isSome = true := by
      rw [visits.mem_iff]
      unfold Owner.subscribers
      rw [List.mem_filter, List.mem_range]
      refine ⟨And.right, fun subscribed => ⟨?_, subscribed⟩⟩
      by_contra above
      rw [(orderly.fresh other (by omega)).1] at subscribed
      cases subscribed
    have distinct : visited.Nodup := visits.nodup_iff.mpr (List.nodup_range.filter _)
    rw [published, opening, sessions, agenda, pendingEvents_append, pendingEvents_of_quiet quiet,
      List.append_nil, sends, pendingEvents_each distinct]
    simp only [listed]
    exact later

theorem answerReader_subscriber (session : Session V) (delivered : Bool) :
    (session.answerReader delivered).subscriber = session.subscriber := by
  rcases answerReader_eq session delivered with same | ⟨item, progress, -, same⟩
  · rw [same]
  · rw [same]

theorem Flow.answerReader {published pending : List (EventEnvelope V)} {hello : Option ClientHello}
    {opening accepted written wire : List (ServerMessage V)} {session : Session V}
    (flow : Flow server published hello opening accepted written wire session pending)
    (delivered : Bool) : Flow server published hello opening accepted written wire
      (session.answerReader delivered) pending := by
  rcases answerReader_eq session delivered with same | ⟨item, progress, stage, same⟩
  · rw [same]
    exact flow
  · have wired := flow.wired.2
    rw [stage] at wired
    rw [same]
    refine ⟨flow.fair, ⟨flow.wired.1, wired⟩, fun stage => (by cases stage), flow.unopened,
      fun opened => ?_⟩
    obtain ⟨greeting, start, greeted, stream⟩ := flow.streams opened
    exact ⟨greeting, start, greeted, stream.opened, stream.events, stream.subscribed⟩

theorem Streaming.reply (streaming : Streaming server owner ledger record)
    {whileSubscribed : Bool} (next : owner.agenda = .reply connection whileSubscribed :: rest) :
    Streaming server (owner.work server visited)
      (ledger.after server owner (.worked (.reply connection whileSubscribed)))
      (record.after server owner (.worked (.reply connection whileSubscribed))
        (owner.work server visited)) := by
  let change (session : Session V) : Session V :=
    session.answerReader (owner.delivered && (!whileSubscribed || session.subscriber.isSome))
  have work : owner.work server visited =
      { owner.withSession connection change with agenda := rest } := by
    unfold Owner.work
    rw [next]
  have sessions : (owner.work server visited).sessions = (owner.withSession connection change).sessions := by
    rw [work]
  have agenda : (owner.work server visited).agenda = rest := by
    rw [work]
  have opening : (record.after server owner (.worked (.reply connection whileSubscribed))
      (owner.work server visited)).opening = record.opening := by
    refine opening_withSession sessions fun messages stage opened => ?_
    have opened : ((owner.sessions connection).answerReader _).task = .initial messages := opened
    unfold Session.answerReader at opened
    rw [stage] at opened
    cases stage.symm.trans opened
  have apart := streaming.apart
  have fair := streaming.current.agenda
  rw [next] at apart fair
  refine streaming.keep ?_ ?_ rfl ?_ ⟨?_, ?_, ?_, ?_, ?_⟩ ?_ ?_
  · rw [work]
    rfl
  · rw [work]
    rfl
  · rw [agenda]
    exact apart.tail
  · intro request member
    rw [work] at member
    exact (streaming.current.requests request member).mono fun _ _ => rfl
  · intro operation held
    rw [work] at held
    exact (streaming.current.operation operation held).mono fun _ _ => rfl
  · rw [work]
    exact streaming.current.receipts
  · intro other subscriber held
    refine streaming.current.subscribers other subscriber ?_
    rw [← held, sessions]
    by_cases same : other = connection
    · subst same
      rw [withSession_self]
      exact (answerReader_subscriber _ _).symm
    · rw [withSession_other _ same]
  · rw [agenda]
    exact fun work member => fair work (List.mem_cons_of_mem _ member)
  · intro other above
    rw [work] at above
    rw [opening]
    exact streaming.fresh other above
  · intro other
    have flow := streaming.flows other
    rw [next, ← List.singleton_append, pendingEvents_append] at flow
    rw [opening, sessions, agenda]
    by_cases same : other = connection
    · subst same
      rw [withSession_self]
      exact flow.answerReader _
    · rw [withSession_other _ same]
      exact flow

end Works

end Decodex.Guarantees.PublicationStream
