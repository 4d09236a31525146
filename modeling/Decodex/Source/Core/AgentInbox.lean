import Decodex.Source.Core.AgentWork

/-!
# Agent inbox events and capacity retries

Source: database/src/agent.rs:53-71,1669-1693 (`AgentDisposition`, `EnqueueAgentEvent`,
`AgentInboxEvent`), database/src/agent_dispatch_rejection.rs:7-54 (`AgentDispatchRefusal`) and
database/schema.sql:225-238,285-301,1122. The columns that the schema only admits together,
a disposition with its note and time, and a delivery with its turn, are one optional value.
-/
namespace Decodex.Source.Core

open Decodex.Library

inductive AgentDisposition where
  | resolved | followUp | wait | userDecision
  deriving DecidableEq, Repr

/-- The work status with the same text. -/
def AgentDisposition.status : AgentDisposition → AgentWorkStatus
  | .resolved => .resolved
  | .followUp => .followUp
  | .wait => .wait
  | .userDecision => .userDecision

/-- `disposition`, `disposition_note` and `disposed_at_micros`. -/
structure Disposal where
  disposition : AgentDisposition
  note : String
  atMicros : Int
  deriving DecidableEq, Repr

/-- `delivery_work_item_id` and `delivered_turn_id`. The turn is empty while the dispatch is
claimed or unknown, and the exact turn after acknowledgment. -/
structure Delivery where
  workItemId : String
  turnId : String
  deriving DecidableEq, Repr

structure AgentInboxEvent where
  id : Nat
  sourceEventId : String
  workItemId : String
  eventKind : String
  payload : String
  createdAtMicros : Int
  disposal : Option Disposal
  delivery : Option Delivery
  deriving DecidableEq, Repr

structure EnqueueAgentEvent where
  sourceEventId : String
  workItemId : String
  eventKind : String
  payload : String
  deriving DecidableEq, Repr

/-- `length` of SQLite: the characters before the first NUL. -/
def sqlLength (value : String) : Nat := (value.toList.takeWhile (· != '\x00')).length

/-- `length(…) BETWEEN low AND high`. -/
def lengthBetween (low high : Nat) (value : String) : Bool :=
  low ≤ sqlLength value && sqlLength value ≤ high

/-- `agent_inbox_events`: the id is the key, a source is recorded once. -/
def inboxEventTable : Schema AgentInboxEvent Nat where
  key row := row.id
  check row :=
    lengthBetween 1 2048 row.sourceEventId && lengthBetween 1 128 row.eventKind &&
      sqlLength row.payload ≤ 65536 && 0 ≤ row.createdAtMicros &&
      row.disposal.all fun disposal =>
        lengthBetween 1 65536 disposal.note && row.createdAtMicros ≤ disposal.atMicros
  clash left right := left.sourceEventId = right.sourceEventId

inductive CapacityRetryState where
  | pending | claimed | submitted | cancelled
  deriving DecidableEq, Repr

structure CapacityRetry where
  eventId : Nat
  workItemId : String
  failedTurnId : String
  attempt : Int
  dueAtMicros : Int
  state : CapacityRetryState
  retryTurnId : Option String
  deriving DecidableEq, Repr

/-- `agent_capacity_retries`, with its two unique constraints and the unique index over the
pending row of a work item. -/
def capacityRetryTable : Schema CapacityRetry Nat where
  key row := row.eventId
  check row :=
    1 ≤ row.attempt && row.attempt ≤ 3 && 0 ≤ row.dueAtMicros &&
      row.retryTurnId ≠ some row.failedTurnId &&
      (row.state = .submitted) = row.retryTurnId.isSome
  clash left right :=
    left.workItemId = right.workItemId &&
      (left.failedTurnId = right.failedTurnId ||
        (left.retryTurnId.isSome && left.retryTurnId = right.retryTurnId) ||
        (left.state = .pending && right.state = .pending))

/-- Native refusal established before any external effect. -/
inductive AgentDispatchRefusal where
  | serverDraining | managedProviderChanged | providerMismatch | settingsChanged
  | requestTooLarge | requestQueueFull
  deriving DecidableEq, Repr

def AgentDispatchRefusal.reason : AgentDispatchRefusal → String
  | .requestTooLarge => "requestTooLarge"
  | .requestQueueFull => "requestQueueFull"
  | .settingsChanged => "settingsChanged"
  | .serverDraining => "serverDraining"
  | .managedProviderChanged => "managedProviderChanged"
  | .providerMismatch => "settingsChanged"

def AgentDispatchRefusal.note : AgentDispatchRefusal → String
  | .requestTooLarge =>
    "Not sent: this input exceeds the connection size limit. " ++
      "Reduce the input before sending again."
  | .requestQueueFull =>
    "Not sent: the local connection queue is full. " ++
      "Wait for pending requests before sending again."
  | .settingsChanged =>
    "Not sent: task settings changed. Review the current settings and send again."
  | .serverDraining =>
    "Not sent: the native server is draining. Reconnect and send again."
  | .managedProviderChanged =>
    "Not sent: managed model provider requirements changed. " ++
      "Restart the Codex connection before sending again."
  | .providerMismatch =>
    "Not sent: this conversation uses a different provider. " ++
      "Switch back to that provider or Fork before sending again."

end Decodex.Source.Core
