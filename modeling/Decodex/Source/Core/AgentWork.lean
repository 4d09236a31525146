import Decodex.Library.Bytes
import Decodex.Library.Table

/-!
# Agent work items

Source: database/src/agent.rs:36-97,1646-1662 (`AgentWorkKind`, `AgentWorkStatus`,
`AgentDispatchState`, `AgentWorkItem`) and database/schema.sql:422-439. Titles and
instructions are left out: no modelled operation reads them.
-/
namespace Decodex.Source.Core

open Decodex.Library

inductive AgentWorkKind where
  | goal | task
  deriving DecidableEq, Repr

inductive AgentWorkStatus where
  | opened | resolved | followUp | wait | userDecision
  deriving DecidableEq, Repr

inductive AgentDispatchState where
  | idle | dispatching | running | unknown
  deriving DecidableEq, Repr

structure AgentWorkItem where
  id : String
  parentGoalId : Option String
  kind : AgentWorkKind
  codexThreadId : Option String
  dispatchState : AgentDispatchState
  activeTurnId : Option String
  status : AgentWorkStatus
  nextCheckAtMicros : Option Int
  createdAtMicros : Int
  updatedAtMicros : Int
  deriving DecidableEq, Repr

/-- `CHECK (length(CAST(… AS BLOB)) BETWEEN 1 AND 512)`; a null passes. -/
def boundedIdentityColumn (value : Option String) : Bool :=
  value.all fun text => 1 ≤ text.utf8ByteSize && text.utf8ByteSize ≤ 512

/-- The last check of the table: which turn each dispatch state may name. -/
def AgentWorkItem.dispatchShape (item : AgentWorkItem) : Bool :=
  match item.dispatchState with
  | .running => item.activeTurnId.isSome
  | .unknown => true
  | .idle | .dispatching => item.activeTurnId.isNone

/-- `agent_work_items`: the id is the key, a thread is bound once. -/
def workItemTable : Schema AgentWorkItem String where
  key row := row.id
  check row :=
    1 ≤ row.id.length && row.id.length ≤ 512 && boundedIdentityColumn row.codexThreadId &&
      boundedIdentityColumn row.activeTurnId && (row.nextCheckAtMicros.all fun time => 0 ≤ time) &&
      0 ≤ row.createdAtMicros && row.createdAtMicros ≤ row.updatedAtMicros &&
      row.parentGoalId ≠ some row.id && row.dispatchShape
  clash left right := left.codexThreadId.isSome && left.codexThreadId = right.codexThreadId

end Decodex.Source.Core
