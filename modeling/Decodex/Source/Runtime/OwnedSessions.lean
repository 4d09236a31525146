import Mathlib.Algebra.Order.Ring.Int
import Decodex.Source.Protocol.SessionMessages

/-!
# Owned sessions

Source: crates/decodex-runtime/src/websocket.rs:1238-1345 and 2683-2969 (`write_initial_prefix` to
`finalize_seal_reason`, `PublicationState`, `Subscriber`, `SealedSession`) and 3584-3617
(`accept_for_session`). A connection is one record: what the publication owner keeps for it, the two
channels between them, and its task. The deadline of a shutdown is not modelled, so no session is
classified by it, and no task is aborted for it.
-/
namespace Decodex.Source.Runtime.Publication

open Decodex.Source.Protocol.SessionMessages

inductive SessionSealReason where
  | actorUnavailable
  | deadline
  | initialPrefixFailed
  | ordinalExhausted
  | outboundClosed
  | outboundFull
  | peerDisconnected
  | registrationAbandoned
  | serverDrained
  | serverShutdown
  | taskFailed
  | writerFailed
  deriving DecidableEq

def SessionSealReason.canonicalizesOutboundClosed : SessionSealReason → Bool
  | .actorUnavailable | .peerDisconnected | .serverShutdown | .writerFailed => true
  | _ => false

inductive SessionTransportFailure where
  | initialPrefixEncoding
  | initialPrefixTooLarge
  | initialPrefixWrite
  | messageEncoding
  | messageTooLarge
  | messageWrite
  | closeWrite
  deriving DecidableEq

def SessionTransportFailure.isInitialPrefix : SessionTransportFailure → Bool
  | .initialPrefixEncoding | .initialPrefixTooLarge | .initialPrefixWrite => true
  | _ => false

def SessionTransportFailure.isEncoding : SessionTransportFailure → Bool
  | .initialPrefixEncoding | .messageEncoding => true
  | _ => false

inductive SessionOrdinalProgress where
  | empty
  | through (ordinal : Nat)
  deriving DecidableEq

def SessionOrdinalProgress.le : SessionOrdinalProgress → SessionOrdinalProgress → Bool
  | .empty, _ => true
  | .through _, .empty => false
  | .through first, .through second => first ≤ second

inductive SessionTransportDisposition where
  | drainedThrough (locallyWritten : SessionOrdinalProgress)
  | transportFailed (locallyWritten : SessionOrdinalProgress) (cause : SessionTransportFailure)
  deriving DecidableEq

/-- `SessionTaskCompletion`, of its own connection. -/
inductive SessionTaskCompletion where
  | unregistered
  | registered (sealReason : SessionSealReason) (transport : SessionTransportDisposition)
  deriving DecidableEq

inductive SessionCompletionClassification where
  | unregistered
  | exactDrained
  | sessionLocal
  | transportFailed
  | deadline
  | invalid
  deriving DecidableEq

inductive SessionReaderCompletion where
  | peerClose
  | reason (reason : SessionSealReason)
  deriving DecidableEq

def SessionReaderCompletion.requestedSeal : SessionReaderCompletion → SessionSealReason
  | .peerClose => .peerDisconnected
  | .reason sealing => sealing

structure Subscriber where
  version : ProtocolVersion
  nextOrdinal : Nat := 1
  acceptedThrough : SessionOrdinalProgress := .empty

structure SealedSession where
  acceptedThrough : SessionOrdinalProgress
  reason : SessionSealReason
  deadlineClassified : Bool

/-- What the reader of a task is doing; `frozen` is its completion. -/
inductive Reader where
  | reading
  | waiting
  | answered (delivered : Bool)
  | frozen (completion : SessionReaderCompletion)
  deriving DecidableEq

def Reader.frozen? : Reader → Option SessionReaderCompletion
  | .frozen completion => some completion
  | _ => none

variable {V : Vocabulary}

structure OutboundItem (V : Vocabulary) where
  ordinal : Nat
  message : ServerMessage V

/-- Where the task of a connection stands. `closing` has taken the seal reason and still holds its
receivers; `finished` has returned and waits for its harvest; `lost` has panicked or was cancelled,
and its join error waits. -/
inductive SessionTask (V : Vocabulary) where
  | absent
  | opening
  | registering
  | initial (rest : List (ServerMessage V))
  | running (reader : Reader) (item : Option (OutboundItem V))
      (locallyWritten : SessionOrdinalProgress)
  | closing (completion : SessionTaskCompletion)
  | finished (completion : SessionTaskCompletion)
  | lost (panicked : Bool)

/-- The task runs code of its own. A task that waits for its registration only waits. -/
def SessionTask.runs : SessionTask V → Bool
  | .opening | .initial _ | .running _ _ _ | .closing _ => true
  | .absent | .registering | .finished _ | .lost _ => false

structure Session (V : Vocabulary) where
  subscriber : Option Subscriber := none
  sealedSession : Option SealedSession := none
  /-- The bounded channel of outbound items. -/
  queue : List (OutboundItem V) := []
  receiverOpen : Bool := true
  senderOpen : Bool := true
  /-- The reason that was sent on the seal channel. -/
  sealReason : Option SessionSealReason := none
  task : SessionTask V := .absent

inductive SessionAcceptance where
  | accepted (ordinal : Nat)
  | unavailable
  | sealed (reason : SessionSealReason)
  deriving DecidableEq

def SessionAcceptance.isAccepted : SessionAcceptance → Bool
  | .accepted _ => true
  | _ => false

namespace Session

/-- `contains_session`. -/
def containsSession (session : Session V) : Bool :=
  session.subscriber.isSome || session.sealedSession.isSome

/-- `seal_session`. -/
def sealSession (reason : SessionSealReason) (session : Session V) : Session V :=
  match session.sealedSession, session.subscriber with
  | none, some subscriber =>
    { session with
      subscriber := none
      sealedSession := some ⟨subscriber.acceptedThrough, reason, reason == .deadline⟩
      sealReason := some reason
      senderOpen := false }
  | _, _ => session

/-- `accept_for_session`. -/
def acceptForSession (capacity : Nat) (message : ServerMessage V) (session : Session V) :
    Session V × SessionAcceptance :=
  match session.subscriber with
  | none => (session, .unavailable)
  | some subscriber =>
    if 2 ^ 64 ≤ subscriber.nextOrdinal + 1 then
      (session.sealSession .ordinalExhausted, .sealed .ordinalExhausted)
    else if !session.receiverOpen then
      (session.sealSession .outboundClosed, .sealed .outboundClosed)
    else if capacity ≤ session.queue.length then
      (session.sealSession .outboundFull, .sealed .outboundFull)
    else
      ({ session with
        queue := session.queue ++ [⟨subscriber.nextOrdinal, message⟩]
        subscriber := some { subscriber with
          nextOrdinal := subscriber.nextOrdinal + 1
          acceptedThrough := .through subscriber.nextOrdinal } },
        .accepted subscriber.nextOrdinal)

/-- `canonicalize_outbound_closed`. -/
def canonicalizeOutboundClosed (reason : SessionSealReason) (session : Session V) : Session V :=
  if reason.canonicalizesOutboundClosed then
    { session with
      sealedSession := session.sealedSession.map fun sealing =>
        if sealing.reason = .outboundClosed then { sealing with reason } else sealing }
  else session

end Session

/-- The progress that a transport reports fits what was accepted. -/
def SealedSession.progressMatches (sealing : SealedSession) :
    SessionTransportDisposition → Bool
  | .drainedThrough locallyWritten => locallyWritten == sealing.acceptedThrough
  | .transportFailed locallyWritten .closeWrite => locallyWritten == sealing.acceptedThrough
  | .transportFailed locallyWritten _ => locallyWritten.le sealing.acceptedThrough

/-- The transport fits the reason of the seal. -/
def SealedSession.reasonMatches (sealing : SealedSession) : SessionTransportDisposition → Bool :=
  fun transport => match sealing.reason, transport with
  | .initialPrefixFailed, .transportFailed _ cause => cause.isInitialPrefix
  | .writerFailed, .transportFailed _ cause => !cause.isInitialPrefix
  | .registrationAbandoned, _ | .taskFailed, _ => false
  | .initialPrefixFailed, _ | .writerFailed, _ | .outboundClosed, _ => false
  | _, _ => true

def SessionTransportDisposition.isEncodingFailure : SessionTransportDisposition → Bool
  | .transportFailed _ cause => cause.isEncoding
  | .drainedThrough _ => false

/-- `reconcile` of a sealed session. -/
def SealedSession.reconcile (sealing : SealedSession) (transport : SessionTransportDisposition) :
    SessionCompletionClassification :=
  if !sealing.progressMatches transport then .invalid
  else if !sealing.reasonMatches transport then .invalid
  else if transport.isEncodingFailure then .transportFailed
  else if sealing.deadlineClassified then .deadline
  else
    match transport, sealing.reason with
    | .drainedThrough _, .actorUnavailable => .transportFailed
    | .drainedThrough _, .ordinalExhausted | .drainedThrough _, .outboundFull
    | .drainedThrough _, .peerDisconnected | .drainedThrough _, .serverDrained
    | .drainedThrough _, .serverShutdown => .exactDrained
    | .drainedThrough _, _ => .invalid
    | .transportFailed _ _, .initialPrefixFailed | .transportFailed _ _, .outboundFull
    | .transportFailed _ _, .peerDisconnected | .transportFailed _ _, .serverDrained
    | .transportFailed _ _, .serverShutdown | .transportFailed _ _, .writerFailed => .sessionLocal
    | .transportFailed _ _, .actorUnavailable
    | .transportFailed _ _, .ordinalExhausted => .transportFailed
    | .transportFailed _ _, _ => .invalid

/-- `reconcile_session_completion`, while no deadline has passed. -/
def Session.reconcileSessionCompletion (completion : SessionTaskCompletion)
    (session : Session V) : Session V × SessionCompletionClassification :=
  match completion with
  | .unregistered => (session, if session.containsSession then .invalid else .unregistered)
  | .registered sealReason transport =>
    let session := (session.sealSession sealReason).canonicalizeOutboundClosed sealReason
    match session.sealedSession with
    | none => (session, .invalid)
    | some sealing =>
      if sealing.deadlineClassified then (session, .invalid)
      else
        let classification := sealing.reconcile transport
        if classification = .invalid then (session, classification)
        else ({ session with sealedSession := none }, classification)

/-- `finalize_seal_reason`, from what is on the seal channel. -/
def finalizeSealReason (sealReason requested : Option SessionSealReason) : SessionSealReason :=
  match sealReason with
  | some .outboundClosed =>
    (requested.filter SessionSealReason.canonicalizesOutboundClosed).getD .outboundClosed
  | some reason => reason
  | none => requested.getD .actorUnavailable

/-- What a task does next: its own progress, its peer's, or its transport's. -/
inductive TaskEvent (V : Vocabulary) where
  | openingFailed
  | helloReceived (hello : ClientHello)
  | initialWritten
  | initialFailed (cause : SessionTransportFailure)
  | initialDone
  | enqueues (message : ServerMessage V)
  | submits (command : CommandEnvelope V)
  | readerDone (completion : SessionReaderCompletion)
  | replyRead
  | itemTaken
  | itemWritten
  | itemFailed (cause : SessionTransportFailure)
  | drained (closeSent : Bool)
  | returned
  | lost (panicked : Bool)

namespace Session

/-- The task ends: it takes the seal reason, and keeps its receivers until it returns. -/
def endTask (requested : Option SessionSealReason) (transport : SessionTransportDisposition)
    (session : Session V) : Session V :=
  { session with
    task := .closing (.registered (finalizeSealReason session.sealReason requested) transport) }

/-- The reader is done: the task accepts no more items. -/
def freeze (completion : SessionReaderCompletion) (item : Option (OutboundItem V))
    (locallyWritten : SessionOrdinalProgress) (session : Session V) : Session V :=
  { session with
    receiverOpen := false
    task := .running (.frozen completion) item locallyWritten }

/-- One step of the task: `handle_connection` up to the registration, then `write_initial_prefix`
and the loop of `run`, whose reader is `read_messages`. A task that is lost drops its receivers. -/
def taskStep (serverId : String) (event : TaskEvent V) (session : Session V) :
    Option (Session V) :=
  match event, session.task with
  | .openingFailed, .opening => some { session with task := .closing .unregistered }
  | .helloReceived hello, .opening =>
    if hello.version.negotiate.isSome && hello.expectedServerId.all (· == serverId) then
      some { session with task := .registering }
    else none
  | .initialWritten, .initial (_ :: rest) => some { session with task := .initial rest }
  | .initialFailed cause, .initial (_ :: _) =>
    if cause.isInitialPrefix then
      some (session.endTask (some .initialPrefixFailed) (.transportFailed .empty cause))
    else none
  | .initialDone, .initial [] => some { session with task := .running .reading none .empty }
  | .enqueues _, .running .reading item locallyWritten
  | .submits _, .running .reading item locallyWritten =>
    some { session with task := .running .waiting item locallyWritten }
  | .readerDone completion, .running .reading item locallyWritten =>
    if completion = .peerClose ∨ completion = .reason .peerDisconnected then
      some (session.freeze completion item locallyWritten)
    else none
  | .replyRead, .running (.answered true) item locallyWritten =>
    some { session with task := .running .reading item locallyWritten }
  | .replyRead, .running (.answered false) item locallyWritten =>
    some (session.freeze (.reason .actorUnavailable) item locallyWritten)
  | .itemTaken, .running reader none locallyWritten =>
    match session.queue with
    | [] => none
    | item :: rest =>
      some { session with queue := rest, task := .running reader (some item) locallyWritten }
  | .itemWritten, .running reader (some item) _ =>
    some { session with task := .running reader none (.through item.ordinal) }
  | .itemFailed cause, .running reader (some _) locallyWritten =>
    if cause = .messageEncoding ∨ cause = .messageTooLarge ∨ cause = .messageWrite then
      some (session.endTask
        (some ((reader.frozen?.map SessionReaderCompletion.requestedSeal).getD .writerFailed))
        (.transportFailed locallyWritten cause))
    else none
  | .drained closeSent, .running reader none locallyWritten =>
    if session.queue.isEmpty && (!session.senderOpen || !session.receiverOpen) then
      some (session.endTask (reader.frozen?.map SessionReaderCompletion.requestedSeal)
        (if closeSent then .drainedThrough locallyWritten
          else .transportFailed locallyWritten .closeWrite))
    else none
  | .returned, .closing completion =>
    some { session with receiverOpen := false, task := .finished completion }
  | .lost panicked, task =>
    if task.runs then some { session with receiverOpen := false, task := .lost panicked } else none
  | _, _ => none

/-- The owner's answer to a request of the reader. -/
def answerReader (delivered : Bool) (session : Session V) : Session V :=
  match session.task with
  | .running .waiting item locallyWritten =>
    { session with task := .running (.answered delivered) item locallyWritten }
  | _ => session

end Session

end Decodex.Source.Runtime.Publication
