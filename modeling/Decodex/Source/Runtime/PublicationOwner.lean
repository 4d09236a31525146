import Decodex.Library.KeyedMap
import Decodex.Source.Runtime.OwnedSessions

/-!
# The publication owner

Source: crates/decodex-runtime/src/websocket.rs:503-554 (`reconnect_messages`), 1386-1409 (the
directives), 1732-1797 and 1871-2436 (`wait_accepting` and `handle_ordinary` to
`flush_deferred_events`), 2438-2570 (`harvest_task` and `harvest_join_error`), 2996-3058
(`OwnedTasks`) and 3540-3582 (`result_from_execution`), and
crates/decodex-protocol/src/local_transport.rs:1212-1243 (its refusals). An owner accepts until a
directive begins to stop it; what it does after that (`begin_stopping` and the draining phases) and
its termination receipt are left out.

A handler of the source runs to its end, but tasks may run between two of its sends. So a handler
leaves its sends, publications and replies on the agenda of its turn, and one step of the owner does
the first of them; the next handler starts when the agenda is empty. The subscribers of a
publication are a hash map in the source, so they are sent an event in any order.
-/
namespace Decodex.Source.Runtime.Publication

open Decodex.Library Decodex.Source.Protocol.SessionMessages

/-- `ServerInner`, with what it asks of its application and of the serializer. -/
structure Server (V : Vocabulary) where
  serverId : String
  instanceId : Option String
  replayCapacity : Nat
  outboundQueueCapacity : Nat
  receiptCapacity : Nat
  maximumSnapshotItems : Nat
  maximumConcurrentSessions : Nat
  eventCapacity : Nat
  replayPositive : 0 < replayCapacity
  /-- `has_publication_source`. -/
  hasPublicationSource : Bool
  /-- The number of `daemon_service_tasks`, which `new` has spawned. -/
  serviceTasks : Nat
  servicesSpawned : serviceTasks + 1 < 2 ^ 64
  /-- `publishes_event`, by the result. -/
  publishesEvent : V.Result → Bool
  /-- `serde_json::to_vec` of a version, an expected revision and a command. -/
  serialize : ProtocolVersion → Option Nat → V.Command → List UInt8

/-- `supports_publication_instance`. -/
def supportsPublicationInstance (version : ProtocolVersion) : Bool := 2 ≤ version.major

section Types

variable (V : Vocabulary)

/-- `ApplicationEventPublication`. -/
structure EventPublication where
  correlationId : String
  causationId : Option String
  channel : V.Channel
  entityId : String
  entityRevision : Nat
  event : V.Event

structure ApplicationPublication where
  result : V.Result
  channel : V.Channel
  entityId : String
  entityRevision : Nat
  event : V.Event

/-- `PublicationRequest`. -/
inductive Request where
  | register (connection : Nat) (hello : ClientHello) (version : ProtocolVersion)
  | enqueue (connection : Nat) (message : ServerMessage V)
  | command (connection : Nat) (command : CommandEnvelope V) (version : ProtocolVersion)

structure PendingRegistrationSnapshot where
  connection : Nat
  hello : ClientHello
  version : ProtocolVersion
  baseCursor : Nat

structure ActiveCommand where
  connection : Nat
  command : CommandEnvelope V
  version : ProtocolVersion
  fingerprint : List UInt8

/-- `ActiveActorOperation`. -/
inductive Operation where
  | command (active : ActiveCommand V)
  | registrationSnapshot (pending : PendingRegistrationSnapshot)

/-- How an operation of the application ended; nothing when it panicked. -/
inductive Completion where
  | command (execution : Option (Except (CommandError V) (ApplicationPublication V)))
  | snapshot (items : Option (List V.SnapshotItem))

structure StoredCommand where
  fingerprint : List UInt8
  originalClientCommandId : String
  result : CommandResultEnvelope V

/-- What a turn has still to do. A send whose acceptance the sender is told is counted. -/
inductive Work where
  | send (connection : Nat) (message : ServerMessage V) (counted : Bool)
  | publish (version : ProtocolVersion) (publication : EventPublication V)
  | reply (connection : Nat) (whileSubscribed : Bool)

end Types

inductive LocalTransportRefusal where
  | disabled
  | invalidPolicy
  | configurationUnavailable
  | unsupportedPlatform
  | effectiveUidMismatch
  | unsafeDirectory
  | unsafeEndpoint
  | endpointUnavailable
  | endpointInUse
  | endpointReplaced
  | peerCredentialsUnavailable
  | peerUidMismatch
  deriving DecidableEq

/-- `invalidates_listener`. -/
def LocalTransportRefusal.invalidatesListener : LocalTransportRefusal → Bool
  | .peerCredentialsUnavailable | .peerUidMismatch => false
  | _ => true

inductive OwnedTaskKind where
  | session
  | service
  deriving DecidableEq

structure OwnedTaskIdentity where
  spawnId : Nat
  kind : OwnedTaskKind
  deriving DecidableEq

inductive StopCause where
  | requestedShutdown
  | endpointRefusal (refusal : LocalTransportRefusal)
  | actorIngressClosed
  | unexpectedEventEof
  | ownerIntegrity
  | childPanic (identity : OwnedTaskIdentity)
  | childFailure (identity : OwnedTaskIdentity)
  | transportFailed (identity : OwnedTaskIdentity)
  | deadlineClassification (identity : OwnedTaskIdentity)
  deriving DecidableEq

inductive OwnerDirective where
  | proceed
  | beginStopping (cause : StopCause)
  deriving DecidableEq

/-- `combine_directives`. -/
def OwnerDirective.combine : OwnerDirective → OwnerDirective → OwnerDirective
  | .beginStopping cause, _ => .beginStopping cause
  | .proceed, directive => directive

/-- `directive_for_acceptance`. -/
def directiveForAcceptance : SessionAcceptance → OwnerDirective
  | .accepted _ | .unavailable | .sealed .outboundClosed | .sealed .outboundFull => .proceed
  | .sealed _ => .beginStopping .ownerIntegrity

/-- The owner, its ingress and its sessions. -/
structure Owner (V : Vocabulary) where
  cursor : Nat := 0
  events : List (EventEnvelope V) := []
  receipts : KeyedMap (ProtocolVersion × String) (StoredCommand V) := .empty
  operation : Option (Operation V) := none
  deferredEvents : List (EventPublication V) := []
  deferredRequests : List (Request V) := []
  ingress : List (Request V) := []
  sessions : Nat → Session V := fun _ => {}
  /-- The next connection. -/
  connectionIds : Nat := 1
  agenda : List (Work V) := []
  delivered : Bool := true
  directive : OwnerDirective := .proceed

variable {V : Vocabulary} (server : Server V)

/-- `result_from_execution`. -/
def resultFromExecution (command : CommandEnvelope V) (version : ProtocolVersion) :
    Except (CommandError V) (ApplicationPublication V) →
      CommandResultEnvelope V × Option (ApplicationPublication V)
  | .ok publication =>
    (⟨version, server.serverId, command.clientCommandId, command.idempotencyKey, .succeeded,
      some publication.entityRevision, some publication.result, none⟩, some publication)
  | .error error =>
    let outcome := match error with
      | .acceptanceUnknown => .acceptanceUnknown
      | _ => .rejected
    (⟨version, server.serverId, command.clientCommandId, command.idempotencyKey, outcome, none, none,
      some error⟩, none)

namespace Owner

/-- Change the session of one connection. -/
def withSession (owner : Owner V) (connection : Nat) (change : Session V → Session V) : Owner V :=
  { owner with
    sessions := fun other =>
      if other = connection then change (owner.sessions other) else owner.sessions other }

def stop (owner : Owner V) (directive : OwnerDirective) : Owner V :=
  { owner with directive := owner.directive.combine directive }

/-- Connections that have a subscriber. -/
def subscribers (owner : Owner V) : List Nat :=
  (List.range owner.connectionIds).filter fun connection =>
    (owner.sessions connection).subscriber.isSome

/-- Sessions whose task was not harvested. -/
def activeSessionCount (owner : Owner V) : Nat :=
  ((List.range owner.connectionIds).filter fun connection =>
    match (owner.sessions connection).task with
    | .absent => false
    | _ => true).length

/-- The event of a publication. -/
def eventOf (version : ProtocolVersion) (cursor : Nat) (publication : EventPublication V) :
    EventEnvelope V :=
  ⟨version, server.serverId, cursor, publication.channel, publication.entityId,
    publication.entityRevision, publication.correlationId, publication.causationId,
    publication.event⟩

/-- What `publish_event_locked` sends: the event to each subscriber, in its version. -/
def eventSends (owner : Owner V) (visited : List Nat) (event : EventEnvelope V) :
    List (Work V) :=
  visited.filterMap fun connection =>
    (owner.sessions connection).subscriber.bind fun subscriber =>
      if isSupportedIn subscriber.version then
        some (.send connection (.event { event with version := subscriber.version }) false)
      else none

/-- `publish_event_locked`, which visits the subscribers in that order. -/
def publishEventLocked (owner : Owner V) (visited : List Nat) (version : ProtocolVersion)
    (publication : EventPublication V) : Owner V :=
  if 2 ^ 64 ≤ owner.cursor + 1 then owner.stop (.beginStopping .ownerIntegrity)
  else
    let event := eventOf server version (owner.cursor + 1) publication
    let events := owner.events ++ [event]
    { owner with
      cursor := owner.cursor + 1
      events := events.drop (events.length - server.replayCapacity)
      agenda := owner.eventSends visited event ++ owner.agenda }

/-- `flush_deferred_events`. -/
def flushDeferredEvents (owner : Owner V) : Owner V :=
  if owner.operation.isSome then owner
  else
    { owner with
      deferredEvents := []
      agenda := owner.agenda ++ owner.deferredEvents.map (.publish currentVersion) }

/-- `handle_application_event`, of an owner that accepts. -/
def handleApplicationEvent (owner : Owner V) : Option (EventPublication V) → Owner V
  | some publication =>
    if owner.operation.isSome then
      if server.eventCapacity ≤ owner.deferredEvents.length then
        owner.stop (.beginStopping .ownerIntegrity)
      else { owner with deferredEvents := owner.deferredEvents ++ [publication] }
    else { owner with agenda := [.publish currentVersion publication] }
  | none => owner.stop (.beginStopping .unexpectedEventEof)

/-- A resume cursor is of this publication, and what follows it is still retained. -/
def canResume (owner : Owner V) (resume : ResumeCursor) (version : ProtocolVersion) : Bool :=
  supportsPublicationInstance version && server.instanceId == resume.instanceId &&
    server.instanceId.isSome && resume.serverId == server.serverId &&
    decide (resume.cursor ≤ owner.cursor) &&
    owner.events.head?.all fun oldest => decide (oldest.cursor ≤ min (resume.cursor + 1) (2 ^ 64 - 1))

/-- `reconnect_messages`. -/
def reconnectMessages (owner : Owner V) (resume : Option ResumeCursor) (version : ProtocolVersion)
    (items : List V.SnapshotItem) : ReconnectMode × List (ServerMessage V) :=
  match resume.filter fun resume => owner.canResume server resume version with
  | some resume =>
    (.resume, (owner.events.filter fun event => resume.cursor < event.cursor).map fun event =>
      .event { event with version })
  | none =>
    (if resume.isSome then .snapshotFallback else .snapshot,
      [.snapshot ⟨version, server.serverId, owner.cursor, items⟩])

/-- The reply to a registration is an error, and its task ends unregistered. -/
def refuseRegistration (owner : Owner V) (connection : Nat) : Owner V :=
  owner.withSession connection fun session => { session with task := .closing .unregistered }

/-- A registration gets its subscriber and its messages; a task that waits for no reply has
abandoned it. -/
def registerSession (owner : Owner V) (connection : Nat) (version : ProtocolVersion)
    (messages : List (ServerMessage V)) : Owner V :=
  owner.withSession connection fun session =>
    let session := { session with subscriber := some { version } }
    match session.task with
    | .registering => { session with task := .initial messages }
    | _ => session.sealSession .registrationAbandoned

/-- `finish_registration_snapshot`. -/
def finishRegistrationSnapshot (owner : Owner V) (pending : PendingRegistrationSnapshot)
    (result : Option (List V.SnapshotItem)) : Owner V :=
  match result with
  | none =>
    (owner.refuseRegistration pending.connection).stop (.beginStopping .ownerIntegrity)
  | some items =>
    if server.maximumSnapshotItems < items.length then
      (owner.refuseRegistration pending.connection).flushDeferredEvents
    else if owner.cursor ≠ pending.baseCursor ∨
        (owner.sessions pending.connection).containsSession = true then
      (owner.refuseRegistration pending.connection).stop (.beginStopping .ownerIntegrity)
    else
      let (reconnect, messages) :=
        owner.reconnectMessages server pending.hello.resume pending.version items
      let welcome : ServerWelcome := ⟨pending.version, server.serverId,
        if supportsPublicationInstance pending.version then server.instanceId else none,
        pending.baseCursor, reconnect⟩
      (owner.registerSession pending.connection pending.version
        (.welcome welcome :: messages)).flushDeferredEvents

/-- Send a receipt and a result, and tell the session whether both were accepted. -/
def answerCommand (owner : Owner V) (connection : Nat) (receipt : CommandReceipt)
    (result : CommandResultEnvelope V) : Owner V :=
  { owner with
    delivered := true
    agenda := [.send connection (.commandReceipt receipt) true,
      .send connection (.commandResult result) true, .reply connection false] }

/-- The result of a command whose key is stored: the stored one, or a conflict. -/
def duplicateResult (stored : StoredCommand V) (command : CommandEnvelope V)
    (version : ProtocolVersion) (fingerprint : List UInt8) : CommandResultEnvelope V :=
  let result := { stored.result with version, clientCommandId := command.clientCommandId }
  if stored.fingerprint ≠ fingerprint then
    { result with
      outcome := .rejected
      entityRevision := none
      payload := none
      error := some .idempotencyConflict }
  else result

/-- `handle_command_request`. -/
def handleCommandRequest (owner : Owner V) (connection : Nat) (command : CommandEnvelope V)
    (version : ProtocolVersion) : Owner V :=
  let fingerprint := server.serialize version command.expectedRevision command.payload
  match owner.receipts.find? (version, command.idempotencyKey) with
  | some stored =>
    owner.answerCommand connection
      ⟨version, server.serverId, command.clientCommandId, command.idempotencyKey, .duplicate,
        stored.originalClientCommandId⟩
      (duplicateResult stored command version fingerprint)
  | none =>
    if server.receiptCapacity ≤
        (owner.receipts.entries.filter fun entry => entry.1.1 == version).length then
      owner.answerCommand connection
        ⟨version, server.serverId, command.clientCommandId, command.idempotencyKey, .refused,
          command.clientCommandId⟩
        ⟨version, server.serverId, command.clientCommandId, command.idempotencyKey, .rejected, none,
          none, some (.idempotencyCapacityExceeded server.receiptCapacity)⟩
    else
      { owner with operation := some (.command ⟨connection, command, version, fingerprint⟩) }

/-- What follows the result of a command that published. -/
def publicationOf (active : ActiveCommand V) (publication : ApplicationPublication V) :
    List (Work V) :=
  if server.publishesEvent publication.result then
    [.publish active.version ⟨active.command.correlationId, active.command.causationId,
      publication.channel, publication.entityId, publication.entityRevision, publication.event⟩]
  else []

/-- `finish_active_command`, of the operation that was taken. No result is an evolving receipt. -/
def finishActiveCommand (owner : Owner V) (active : ActiveCommand V)
    (execution : Option (Except (CommandError V) (ApplicationPublication V))) : Owner V :=
  match execution with
  | none =>
    { owner.stop (.beginStopping .ownerIntegrity) with
      delivered := false
      agenda := [.reply active.connection false] }
  | some execution =>
    let (result, publication) := resultFromExecution server active.command active.version execution
    let receipt : CommandReceipt := ⟨active.version, server.serverId,
      active.command.clientCommandId, active.command.idempotencyKey, .executed,
      result.clientCommandId⟩
    let owner := if result.outcome ≠ .acceptanceUnknown then
        { owner with
          receipts := owner.receipts.insert (active.version, active.command.idempotencyKey)
            ⟨active.fingerprint, active.command.clientCommandId, result⟩ }
      else owner
    { owner with
      deferredEvents := []
      delivered := true
      agenda := [.send active.connection (.commandReceipt receipt) true,
          .send active.connection (.commandResult result) true] ++
        (publication.map (publicationOf server active)).getD [] ++
        owner.deferredEvents.map (.publish currentVersion) ++ [.reply active.connection true] }

/-- `handle_request`, with the snapshot that the application has at hand. -/
def handleRequest (owner : Owner V) (independent : Option (List V.SnapshotItem)) :
    Request V → Owner V
  | .register connection hello version =>
    if owner.operation.isSome ∧ independent.isNone then
      { owner with
        deferredRequests := owner.deferredRequests ++ [.register connection hello version] }
    else if (owner.sessions connection).containsSession then
      (owner.refuseRegistration connection).stop (.beginStopping .ownerIntegrity)
    else
      let pending := ⟨connection, hello, version, owner.cursor⟩
      match independent with
      | some items => owner.finishRegistrationSnapshot server pending (some items)
      | none => { owner with operation := some (.registrationSnapshot pending) }
  | .enqueue connection message =>
    { owner with
      delivered := true
      agenda := [.send connection message true, .reply connection false] }
  | .command connection command version =>
    if owner.operation.isSome then
      { owner with
        deferredRequests := owner.deferredRequests ++ [.command connection command version] }
    else owner.handleCommandRequest server connection command version

/-- `finish_operation`: the operation is taken, and its completion handled. -/
def finishOperation (owner : Owner V) (completion : Completion V) : Owner V :=
  match owner.operation, completion with
  | some (.command active), .command execution =>
    ({ owner with operation := none }).finishActiveCommand server active execution
  | some (.registrationSnapshot pending), .snapshot items =>
    ({ owner with operation := none }).finishRegistrationSnapshot server pending items
  | _, _ => owner.stop (.beginStopping .ownerIntegrity)

/-- `next_spawn_id`: after the services, each connection takes one. -/
def nextSpawnId (owner : Owner V) : Nat := server.serviceTasks + owner.connectionIds

/-- `handle_accepted`: a connection gets its task, or none when the spawn ids are exhausted. An
owner that stops has dropped the sender that a task needs. -/
def handleAccepted (owner : Owner V) : Except LocalTransportRefusal Unit → Owner V
  | .ok () =>
    if owner.directive ≠ .proceed then owner.stop (.beginStopping .ownerIntegrity)
    else if 2 ^ 64 ≤ owner.nextSpawnId server + 1 then
      { owner with connectionIds := owner.connectionIds + 1 }.stop (.beginStopping .ownerIntegrity)
    else
      { owner.withSession owner.connectionIds fun session => { session with task := .opening } with
        connectionIds := owner.connectionIds + 1 }
  | .error refusal =>
    if refusal.invalidatesListener then owner.stop (.beginStopping (.endpointRefusal refusal))
    else owner

/-- The spawn id of the task of a connection. -/
def sessionIdentity (connection : Nat) : OwnedTaskIdentity :=
  ⟨server.serviceTasks + connection, .session⟩

/-- What `harvest_task` does about a classified session. -/
def directiveForClassification (identity : OwnedTaskIdentity) :
    SessionCompletionClassification → OwnerDirective
  | .unregistered | .exactDrained | .sessionLocal => .proceed
  | .transportFailed => .beginStopping (.transportFailed identity)
  | .deadline => .beginStopping (.deadlineClassification identity)
  | .invalid => .beginStopping .ownerIntegrity

/-- `harvest_task`, of a session that has returned. -/
def harvestTask (owner : Owner V) (connection : Nat) (completion : SessionTaskCompletion) :
    Owner V × SessionCompletionClassification :=
  let (session, classification) :=
    (owner.sessions connection).reconcileSessionCompletion completion
  let session := if classification = .invalid then session.sealSession .taskFailed else session
  ((owner.withSession connection fun _ => { session with task := .absent }).stop
    (directiveForClassification (sessionIdentity server connection) classification),
    classification)

/-- `resolve_failed_session`, of a task whose record was taken. -/
def resolveFailedSession (owner : Owner V) (connection : Nat) : Owner V :=
  owner.withSession connection fun session =>
    { session.sealSession .taskFailed with task := .absent }

end Owner

/-- What `join_next_with_id` gives, but for the completion of a session under its own record: no
task, a task without a record, a task whose completion bears another identity, kind or connection
than its record, and services and sessions that have ended or were lost. -/
inductive TaskFailure where
  | noTask
  | unrecorded
  | mismatched (connection : Option Nat)
  | serviceEnded (service : Nat)
  | serviceLost (service : Nat) (panicked : Bool)
  | sessionLost (connection : Nat) (panicked : Bool)

namespace Owner

/-- `harvest_join_error`, of a task that was recorded. -/
def lostCause (identity : OwnedTaskIdentity) (panicked : Bool) : StopCause :=
  if panicked then .childPanic identity else .childFailure identity

/-- `harvest_task`, where it stops the owner. -/
def harvestFailure (owner : Owner V) : TaskFailure → Owner V
  | .noTask | .unrecorded => owner.stop (.beginStopping .ownerIntegrity)
  | .mismatched none => owner.stop (.beginStopping .ownerIntegrity)
  | .mismatched (some connection) =>
    (owner.resolveFailedSession connection).stop (.beginStopping .ownerIntegrity)
  | .serviceEnded service => owner.stop (.beginStopping (.childFailure ⟨service, .service⟩))
  | .serviceLost service panicked =>
    owner.stop (.beginStopping (lostCause ⟨service, .service⟩ panicked))
  | .sessionLost connection panicked =>
    (owner.resolveFailedSession connection).stop
      (.beginStopping (lostCause (sessionIdentity server connection) panicked))

/-- The first work of the turn, with the order in which a publication visits the subscribers. -/
def work (owner : Owner V) (visited : List Nat) : Owner V :=
  match owner.agenda with
  | [] => owner
  | .send connection message counted :: rest =>
    let (session, acceptance) :=
      (owner.sessions connection).acceptForSession server.outboundQueueCapacity message
    { (owner.withSession connection fun _ => session).stop (directiveForAcceptance acceptance) with
      agenda := rest
      delivered := owner.delivered && (!counted || acceptance.isAccepted) }
  | .publish version publication :: rest =>
    { owner with agenda := rest }.publishEventLocked server visited version publication
  | .reply connection whileSubscribed :: rest =>
    { owner.withSession connection fun session => session.answerReader (owner.delivered &&
        (!whileSubscribed || session.subscriber.isSome)) with
      agenda := rest }

end Owner

/-- The requests that a task event puts into the ingress. -/
def requestsOf (connection : Nat) : TaskEvent V → List (Request V)
  | .helloReceived hello => [.register connection hello hello.version]
  | .enqueues message => [.enqueue connection message]
  | .submits command => [.command connection command currentVersion]
  | _ => []

/-- What the reader of a task enqueues: results of queries and logins, and refusals. -/
def mayEnqueue : ServerMessage V → Bool
  | .queryResult result => result.version == currentVersion && result.serverId == server.serverId
  | .accountLogin _ => true
  | .refusal refusal => refusal.serverId == server.serverId
  | _ => false

/-- A reader sends what it may, and a command of the negotiated version. -/
def mayRequest : TaskEvent V → Bool
  | .enqueues message => mayEnqueue server message
  | .submits command => command.version == currentVersion
  | _ => true

inductive OwnerEvent (V : Vocabulary) where
  | task (connection : Nat) (event : TaskEvent V)
  | connected (connection : Nat)
  | received (request : Request V) (independent : Option (List V.SnapshotItem))
  | resumed (request : Request V) (independent : Option (List V.SnapshotItem))
  | applicationEvent (publication : EventPublication V)
  | completed (completion : Completion V)
  | harvested (connection : Nat) (classification : SessionCompletionClassification)
  | worked (work : Work V)
  | shutdownRequested
  | listenerHealth (refusal : Option LocalTransportRefusal)
  | refused (refusal : LocalTransportRefusal)
  | ingressClosed
  | eventsEnded
  | taskFailed (failure : TaskFailure)

namespace Owner

/-- The turn is over, and no deferred request goes first (`wait_accepting`). -/
structure Waits (owner : Owner V) : Prop where
  agenda : owner.agenda = []
  directive : owner.directive = .proceed
  deferred : owner.operation = none → owner.deferredRequests = []

/-- An operation ends in a completion of its own kind. -/
def expects (owner : Owner V) : Completion V → Bool
  | .command _ => match owner.operation with
    | some (.command _) => true
    | _ => false
  | .snapshot _ => match owner.operation with
    | some (.registrationSnapshot _) => true
    | _ => false

/-- `may_poll_events`. -/
def mayPollEvents (owner : Owner V) : Prop :=
  server.hasPublicationSource = true ∧
    (owner.operation = none ∨ owner.deferredEvents.length < server.eventCapacity)

/-- The task that failed is there. -/
def MayFail (owner : Owner V) : TaskFailure → Prop
  | .serviceEnded service | .serviceLost service _ =>
    0 < service ∧ service ≤ server.serviceTasks
  | .sessionLost connection panicked => (owner.sessions connection).task = .lost panicked
  | _ => True

end Owner

/-- One step of a task or of the owner, while it accepts. -/
inductive Step : Owner V → OwnerEvent V → Owner V → Prop
  | task {owner : Owner V} {connection : Nat} {event : TaskEvent V} {session : Session V}
      (moved : (owner.sessions connection).taskStep server.serverId event = some session)
      (allowed : mayRequest server event = true)
      (room : (owner.ingress ++ requestsOf connection event).length ≤
        max owner.ingress.length server.outboundQueueCapacity) :
      Step owner (.task connection event)
        { owner.withSession connection fun _ => session with
          ingress := owner.ingress ++ requestsOf connection event }
  | connected {owner : Owner V} (waits : owner.Waits)
      (room : owner.activeSessionCount < server.maximumConcurrentSessions) :
      Step owner (.connected owner.connectionIds) (owner.handleAccepted server (.ok ()))
  | refused {owner : Owner V} {refusal : LocalTransportRefusal} (waits : owner.Waits)
      (room : owner.activeSessionCount < server.maximumConcurrentSessions) :
      Step owner (.refused refusal) (owner.handleAccepted server (.error refusal))
  | received {owner : Owner V} {request : Request V} {rest : List (Request V)}
      {independent : Option (List V.SnapshotItem)} (waits : owner.Waits)
      (room : owner.deferredRequests.length < server.outboundQueueCapacity)
      (next : owner.ingress = request :: rest) :
      Step owner (.received request independent)
        ({ owner with ingress := rest }.handleRequest server independent request)
  | ingressClosed {owner : Owner V} (waits : owner.Waits)
      (room : owner.deferredRequests.length < server.outboundQueueCapacity)
      (next : owner.ingress = []) :
      Step owner .ingressClosed (owner.stop (.beginStopping .actorIngressClosed))
  | resumed {owner : Owner V} {request : Request V} {rest : List (Request V)}
      {independent : Option (List V.SnapshotItem)} (ended : owner.agenda = [])
      (accepting : owner.directive = .proceed) (idle : owner.operation = none)
      (next : owner.deferredRequests = request :: rest) :
      Step owner (.resumed request independent)
        ({ owner with deferredRequests := rest }.handleRequest server independent request)
  | applicationEvent {owner : Owner V} {publication : EventPublication V} (waits : owner.Waits)
      (polls : owner.mayPollEvents server) :
      Step owner (.applicationEvent publication)
        (owner.handleApplicationEvent server (some publication))
  | eventsEnded {owner : Owner V} (waits : owner.Waits) (polls : owner.mayPollEvents server) :
      Step owner .eventsEnded (owner.handleApplicationEvent server none)
  | completed {owner : Owner V} {completion : Completion V} (waits : owner.Waits)
      (expected : owner.expects completion = true) :
      Step owner (.completed completion) (owner.finishOperation server completion)
  | harvested {owner : Owner V} {connection : Nat} {completion : SessionTaskCompletion}
      (waits : owner.Waits)
      (returned : (owner.sessions connection).task = .finished completion) :
      Step owner (.harvested connection (owner.harvestTask server connection completion).2)
        (owner.harvestTask server connection completion).1
  | taskFailed {owner : Owner V} {failure : TaskFailure} (waits : owner.Waits)
      (fails : owner.MayFail server failure) :
      Step owner (.taskFailed failure) (owner.harvestFailure server failure)
  | shutdownRequested {owner : Owner V} (waits : owner.Waits) :
      Step owner .shutdownRequested (owner.stop (.beginStopping .requestedShutdown))
  | listenerHealth {owner : Owner V} {refusal : Option LocalTransportRefusal}
      (waits : owner.Waits) :
      Step owner (.listenerHealth refusal) (owner.stop ((refusal.map fun refusal =>
        .beginStopping (.endpointRefusal refusal)).getD .proceed))
  | worked {owner : Owner V} {work : Work V} {rest : List (Work V)} {visited : List Nat}
      (next : owner.agenda = work :: rest) (visits : visited.Perm owner.subscribers) :
      Step owner (.worked work) (owner.work server visited)

end Decodex.Source.Runtime.Publication
