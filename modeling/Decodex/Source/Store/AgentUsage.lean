import Decodex.Source.Store.AgentDispatch

/-!
# Token usage of a provider thread

Source: database/src/agent_output.rs:311-405, database/src/agent.rs:806-807,
database/src/agent_native_turns.rs:108-113 and database/schema.sql:397-402. An acknowledged
dispatch and an observed native turn write the usage columns in the transaction that they are
part of; which of two failures of one transaction is reported is left out. `json_extract` is a
parameter: a counter is an integer or null.
-/
namespace Decodex.Source.Store.AgentUsage

open Decodex.Library Decodex.Source.Core Decodex.Source.Store.AgentDispatch

structure UsageCounters where
  input : Option Int
  output : Option Int
  deriving DecidableEq, Repr

structure UsageHost where
  /-- `json_extract` of `$.input_tokens` and `$.output_tokens`; `none` where the text is no JSON. -/
  counters : String → Option UsageCounters

structure AgentUsageRow where
  threadId : String
  workId : String
  turnId : String
  usageJson : String
  baselineInputTokens : Option Int
  baselineOutputTokens : Option Int
  turnInputTokens : Option Int
  turnOutputTokens : Option Int
  deriving DecidableEq, Repr

/-- `INTEGER CHECK (… >= 0)` of a strict table; a null passes. -/
def isCount (value : Option Int) : Bool := value.all fun number => 0 ≤ number && number < 2 ^ 63

def usageTable : Schema AgentUsageRow String where
  key row := row.threadId
  check row :=
    row.usageJson.length ≤ 1024 && isCount row.baselineInputTokens &&
      isCount row.baselineOutputTokens && isCount row.turnInputTokens &&
      isCount row.turnOutputTokens

structure UsageStore where
  agents : AgentStore
  agentUsage : Table usageTable

def malformed : AgentFailure := .raised "malformed JSON"

/-- `FROM agent_work_items WHERE codex_thread_id=?1`. -/
def boundWork (agents : AgentStore) (thread : String) : Option AgentWorkItem :=
  agents.agentWorkItems.rows.find? fun work => work.codexThreadId = some thread

/-- `INSERT … ON CONFLICT(thread_id) DO UPDATE`, with the row that it leaves. -/
def writeRow (table : Table usageTable) (row : AgentUsageRow) :
    Except AgentFailure (Table usageTable) :=
  orElse .constraint <|
    match table.find? row.threadId with
    | none => table.insert row
    | some _ => table.updateKey row.threadId fun old => { row with threadId := old.threadId }

def zeroUsage : String := "\x7b\"input_tokens\":0,\"output_tokens\":0\x7d"

/-- `initialize_agent_usage`: `INSERT OR IGNORE`. -/
def initializeAgentUsage (store : UsageStore) (thread : String) : UsageStore :=
  match (boundWork store.agents thread).bind fun work =>
      store.agentUsage.insert ⟨thread, work.id, "", zeroUsage, none, none, none, none⟩ with
  | some agentUsage => { store with agentUsage }
  | none => store

/-- The update that makes a turn the row's turn, with what is consumed so far as its baseline. -/
def bindTurn (usages : UsageHost) (table : Table usageTable) (thread : Option String)
    (work turn : String) : Except AgentFailure (Table usageTable) :=
  match (thread.bind table.find?).filter fun row => row.workId = work with
  | none => .ok table
  | some row => do
    let counters ← orElse malformed (usages.counters row.usageJson)
    writeRow table
      { row with
        turnId := turn
        baselineInputTokens := counters.input
        baselineOutputTokens := counters.output
        turnInputTokens := none
        turnOutputTokens := none }

/-- `acknowledge_agent_dispatch_with_execution`. -/
def acknowledgeAgentDispatch (usages : UsageHost) (host : PayloadHost) (store : UsageStore)
    (id turn : String) (execution : Option Observation) (deliveries : List Observation)
    (now : Int) : Except AgentFailure UsageStore := do
  let agents ←
    AgentDispatch.acknowledgeAgentDispatch host store.agents id turn execution deliveries now
  let thread := (store.agents.agentWorkItems.find? id).bind (·.codexThreadId)
  let agentUsage ← bindTurn usages store.agentUsage thread id turn
  .ok ⟨agents, agentUsage⟩

/-- `observe_agent_native_turn`. -/
def observeAgentNativeTurn (usages : UsageHost) (host : PayloadHost) (store : UsageStore)
    (thread turn connection payload : String) (account : Option String) (owned : String → Bool)
    (now : Int) : Except AgentFailure UsageStore := do
  let (adopted, agents) ← AgentDispatch.observeAgentNativeTurn host store.agents thread turn
    connection payload account owned now
  match (boundWork store.agents thread).filter fun _ => adopted with
  | none => .ok { store with agents }
  | some work => do
    let agentUsage ← bindTurn usages store.agentUsage (some thread) work.id turn
    .ok ⟨agents, agentUsage⟩

/-- `new >= old`, where a null is not greater. -/
def notLess : Option Int → Option Int → Bool
  | some new, some old => old ≤ new
  | _, _ => false

def minus : Option Int → Option Int → Option Int
  | some left, some right => some (left - right)
  | _, _ => none

/-- The row after a report: the deltas and baselines of a turn that is still the row's turn and
whose counters did not fall. -/
def reportedRow (usages : UsageHost) (row : AgentUsageRow) (turn usage : String) :
    Except AgentFailure AgentUsageRow :=
  if row.turnId = turn then do
    let new ← orElse malformed (usages.counters usage)
    let old ← orElse malformed (usages.counters row.usageJson)
    let input := notLess new.input old.input
    let output := notLess new.output old.output
    .ok { row with
      turnInputTokens := if input then minus new.input row.baselineInputTokens else none
      turnOutputTokens := if output then minus new.output row.baselineOutputTokens else none
      baselineInputTokens := if input then row.baselineInputTokens else none
      baselineOutputTokens := if output then row.baselineOutputTokens else none
      usageJson := usage }
  else
    .ok { row with
      turnInputTokens := none
      turnOutputTokens := none
      baselineInputTokens := none
      baselineOutputTokens := none
      turnId := turn
      usageJson := usage }

/-- The row that `update_agent_usage` leaves: the first of a thread, or the report on its row. -/
def updatedRow (usages : UsageHost) (table : Table usageTable) (work : AgentWorkItem)
    (thread turn usage : String) : Except AgentFailure AgentUsageRow :=
  match table.find? thread with
  | none => .ok ⟨thread, work.id, turn, usage, none, none, none, none⟩
  | some row => reportedRow usages row turn usage

/-- The `SELECT` of `update_agent_usage`. -/
def reportingWork (agents : AgentStore) (thread turn : String) : Option AgentWorkItem :=
  (boundWork agents thread).filter fun work => work.activeTurnId = some turn

def updateAgentUsage (usages : UsageHost) (store : UsageStore) (thread turn usage : String) :
    Except AgentFailure UsageStore := do
  require (¬(1024 < usage.utf8ByteSize ∨ 512 < thread.utf8ByteSize ∨ 512 < turn.utf8ByteSize))
    (invalidInput "invalid usage record")
  match reportingWork store.agents thread turn with
  | none => .ok store
  | some work => do
    let row ← updatedRow usages store.agentUsage work thread turn usage
    let agentUsage ← writeRow store.agentUsage row
    .ok { store with agentUsage }

/-- The `SELECT` of `restore_agent_usage`. -/
def replayedWork (agents : AgentStore) (thread turn : String) : Option AgentWorkItem :=
  (boundWork agents thread).filter fun work => work.activeTurnId ≠ some turn

/-- The row that `restore_agent_usage` inserts. -/
def replayedRow (work : AgentWorkItem) (thread turn usage : String) (counters : UsageCounters) :
    AgentUsageRow :=
  ⟨thread, work.id, work.activeTurnId.getD turn, usage, counters.input, counters.output, none,
    none⟩

/-- The `WHERE` of its update: no delta is known, or no turn is active. -/
def isReplaceable (row : AgentUsageRow) (work : AgentWorkItem) : Bool :=
  (row.turnInputTokens = none ∧ row.turnOutputTokens = none) ∨ work.activeTurnId = none

def restoreAgentUsage (usages : UsageHost) (store : UsageStore) (thread turn usage : String) :
    Except AgentFailure UsageStore := do
  require (¬(1024 < usage.utf8ByteSize ∨ 512 < thread.utf8ByteSize ∨ 512 < turn.utf8ByteSize))
    (invalidInput "invalid usage replay")
  match replayedWork store.agents thread turn with
  | none => .ok store
  | some work => do
    let counters ← orElse malformed (usages.counters usage)
    let row := replayedRow work thread turn usage counters
    require (usageTable.check row = true) .constraint
    match (store.agentUsage.find? thread).filter fun old => !isReplaceable old work with
    | some _ => .ok store
    | none => do
      let workId := ((store.agentUsage.find? thread).map (·.workId)).getD work.id
      let agentUsage ← writeRow store.agentUsage { row with workId }
      .ok { store with agentUsage }

def validateAgentUsageResume (store : UsageStore) (thread : String) (lastTurn : Option String) :
    UsageStore :=
  { store with
    agentUsage := store.agentUsage.deleteWhere fun row =>
      row.threadId = thread && (lastTurn.all fun turn => row.turnId ≠ turn) }

/-- `as u64`. -/
def asU64 (value : Int) : Nat := (value % 2 ^ 64).toNat

def readAgentTurnUsage (store : UsageStore) (thread turn : String) : Option (Nat × Nat) :=
  match (store.agentUsage.find? thread).filter fun row => row.turnId = turn with
  | none => none
  | some row =>
    match row.turnInputTokens, row.turnOutputTokens with
    | some input, some output => some (asU64 input, asU64 output)
    | _, _ => none

inductive UsageCall where
  | initializeAgentUsage (thread : String)
  | acknowledgeAgentDispatch (id turn : String) (execution : Option Observation)
      (deliveries : List Observation) (now : Int)
  | observeAgentNativeTurn (thread turn connection payload : String) (account : Option String)
      (owned : String → Bool) (now : Int)
  | updateAgentUsage (thread turn usage : String)
  | restoreAgentUsage (thread turn usage : String)
  | validateAgentUsageResume (thread : String) (lastTurn : Option String)
  /-- Any other call, with the rest of the store as it leaves it. -/
  | elsewhere (agents : AgentStore)

variable (usages : UsageHost) (host : PayloadHost)

def perform (store : UsageStore) : UsageCall → Except AgentFailure UsageStore
  | .initializeAgentUsage thread => .ok (initializeAgentUsage store thread)
  | .acknowledgeAgentDispatch id turn execution deliveries now =>
    acknowledgeAgentDispatch usages host store id turn execution deliveries now
  | .observeAgentNativeTurn thread turn connection payload account owned now =>
    observeAgentNativeTurn usages host store thread turn connection payload account owned now
  | .updateAgentUsage thread turn usage => updateAgentUsage usages store thread turn usage
  | .restoreAgentUsage thread turn usage => restoreAgentUsage usages store thread turn usage
  | .validateAgentUsageResume thread lastTurn =>
    .ok (validateAgentUsageResume store thread lastTurn)
  | .elsewhere agents => .ok { store with agents }

/-- A call that fails changes nothing. -/
def afterCall (store : UsageStore) (call : UsageCall) : UsageStore :=
  match perform usages host store call with
  | .ok after => after
  | .error _ => store

end Decodex.Source.Store.AgentUsage
