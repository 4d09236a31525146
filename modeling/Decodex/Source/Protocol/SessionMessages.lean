import Mathlib.Data.List.Basic

/-!
# Messages of a protocol session

Source: crates/decodex-protocol/src/lib.rs:294-313 (versions), crates/decodex-protocol/src/wire.rs
(envelopes). What the payloads are is left open: the session layer carries them and reads none of
their fields. Cursors and revisions are `u64`, checked where the source checks them.
-/
namespace Decodex.Source.Protocol.SessionMessages

/-- The types of the payloads. -/
structure Vocabulary where
  Channel : Type
  Command : Type
  Event : Type
  Result : Type
  /-- A `CommandError` that the session layer does not make itself. -/
  Error : Type
  QueryResult : Type
  LoginStatus : Type
  SnapshotItem : Type

structure ProtocolVersion where
  major : Nat
  minor : Nat
  deriving DecidableEq

def currentVersion : ProtocolVersion := ⟨4, 8⟩

/-- `negotiate`. -/
def ProtocolVersion.negotiate (version : ProtocolVersion) : Option ProtocolVersion :=
  if version ≠ currentVersion then none else some version

/-- `is_supported_in`, of every payload. -/
def isSupportedIn (version : ProtocolVersion) : Bool :=
  version.major == currentVersion.major && version.minor == currentVersion.minor

structure ResumeCursor where
  serverId : String
  instanceId : Option String
  cursor : Nat

structure ClientHello where
  version : ProtocolVersion
  expectedServerId : Option String
  resume : Option ResumeCursor

inductive ReconnectMode where
  | snapshot
  | resume
  | snapshotFallback
  deriving DecidableEq

inductive CommandOutcome where
  | succeeded
  | rejected
  | acceptanceUnknown
  deriving DecidableEq

inductive ReceiptDisposition where
  | executed
  | duplicate
  | refused
  deriving DecidableEq

inductive Refusal where
  | serviceVersionMismatch (requested supported : ProtocolVersion)
  | serverIdentityMismatch (expected actual : String)
  | protocolViolation (message : String)
  | backpressure (queueCapacity : Nat)
  deriving DecidableEq

section Envelopes

variable (V : Vocabulary)

inductive CommandError where
  | idempotencyConflict
  | idempotencyCapacityExceeded (capacity : Nat)
  | acceptanceUnknown
  | other (error : V.Error)

structure CommandEnvelope where
  version : ProtocolVersion
  clientCommandId : String
  idempotencyKey : String
  expectedRevision : Option Nat
  correlationId : String
  causationId : Option String
  payload : V.Command

structure ServerWelcome where
  version : ProtocolVersion
  serverId : String
  instanceId : Option String
  cursor : Nat
  reconnect : ReconnectMode

structure SnapshotEnvelope where
  version : ProtocolVersion
  serverId : String
  cursor : Nat
  items : List V.SnapshotItem

structure EventEnvelope where
  version : ProtocolVersion
  serverId : String
  cursor : Nat
  channel : V.Channel
  entityId : String
  entityRevision : Nat
  correlationId : String
  causationId : Option String
  payload : V.Event

structure CommandReceipt where
  version : ProtocolVersion
  serverId : String
  clientCommandId : String
  idempotencyKey : String
  disposition : ReceiptDisposition
  originalClientCommandId : String

structure CommandResultEnvelope where
  version : ProtocolVersion
  serverId : String
  clientCommandId : String
  idempotencyKey : String
  outcome : CommandOutcome
  entityRevision : Option Nat
  payload : Option V.Result
  error : Option (CommandError V)

structure QueryResultEnvelope where
  version : ProtocolVersion
  serverId : String
  queryId : String
  payload : V.QueryResult

structure RefusalEnvelope where
  serverId : String
  refusal : Refusal

inductive ServerMessage where
  | welcome (welcome : ServerWelcome)
  | snapshot (snapshot : SnapshotEnvelope V)
  | event (event : EventEnvelope V)
  | commandReceipt (receipt : CommandReceipt)
  | commandResult (result : CommandResultEnvelope V)
  | queryResult (result : QueryResultEnvelope V)
  | accountLogin (status : V.LoginStatus)
  | refusal (refusal : RefusalEnvelope)

end Envelopes

end Decodex.Source.Protocol.SessionMessages
