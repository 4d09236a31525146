import Decodex.Library.RecursiveQuery
import Decodex.Library.Run
import Decodex.Source.Core.AgentInbox
import Decodex.Source.Store.AgentProcess
import Decodex.Source.Store.Error

/-!
# Agent dispatch, inbox and capacity retries: the calls

Source: database/src/agent.rs:366-480,503-532,583-712,773-1006,1249-1265,1303-1353,1578-1625,
1716-1722,1838-1925, database/src/agent/capacity.rs, database/src/agent/delegation.rs,
database/src/agent_dispatch_rejection.rs:55-112, database/src/agent_native_turns.rs:62-126 and
database/schema.sql:1203-1272,1284-1289. Each call is one immediate transaction; its clock is
read once. What a call reads of other tables (process ownership, pending selections, stale
instructions, live output) is an argument, and so are the receipts that
`collaboration::record_delivery`, `agent_turn_execution::record` and `retain_partial_output`
derive from them. Left out are writes to tables that no modelled call reads and the title that
a first message may give a new conversation.
-/
namespace Decodex.Source.Store.AgentDispatch

open Decodex.Library Decodex.Source.Core
open Decodex.Source.Store.AgentProcess (isBlank)

structure AgentStore where
  agentWorkItems : Table workItemTable
  agentManagers : List String
  /-- `agent_delegations`: the work and its outstanding instruction. -/
  agentDelegations : List (String × Nat)
  agentInboxEvents : Table inboxEventTable
  /-- One more than the last id that `AUTOINCREMENT` gave. -/
  nextEventId : Nat
  agentCapacityRetries : Table capacityRetryTable

def AgentStore.empty : AgentStore := ⟨.empty, [], [], .empty, 1, .empty⟩

/-- Why a call fails: a check of its own, a trigger, or another constraint of the schema. The
last two reach the caller as `sqlite_error`. -/
inductive AgentFailure where
  | refused (error : StoreError)
  | raised (message : String)
  | constraint
  deriving DecidableEq, Repr

def conflict : AgentFailure := .refused DatabaseError.conflict.toStoreError
def notFound : AgentFailure := .refused DatabaseError.notFound.toStoreError

def invalidInput (reason : String) : AgentFailure := .refused (.invalidInput reason)

def require (condition : Prop) [Decidable condition] (failure : AgentFailure) :
    Except AgentFailure Unit :=
  if condition then .ok () else .error failure

@[simp] theorem require_eq_ok {condition : Prop} [Decidable condition] {failure : AgentFailure}
    {value : Unit} : require condition failure = .ok value ↔ condition := by
  unfold require
  split <;> simp_all

theorem require_of {condition : Prop} [Decidable condition] {failure : AgentFailure}
    (holds : condition) : require condition failure = .ok () :=
  if_pos holds

/-- `Option::ok_or`. -/
def orElse {α : Type} (failure : AgentFailure) : Option α → Except AgentFailure α
  | some value => .ok value
  | none => .error failure

@[simp] theorem orElse_eq_ok {α : Type} {failure : AgentFailure} {found : Option α} {value : α} :
    orElse failure found = .ok value ↔ found = some value := by
  cases found <;> simp [orElse]

/-- What the payload texts say, and the texts that are made of them: `serde_json`, SQLite's
`json_extract` and the digest of a native turn. -/
structure PayloadHost where
  /-- `/terminal/turn/status` is `completed`. -/
  completed : String → Bool
  /-- A failed turn with `serverOverloaded` and `/threadReadback/capacityRetryEligible`. -/
  capacityFailure : String → Bool
  /-- `payload["capacityRetry"]={"exhausted":true,"attempt":3}`. -/
  exhausted : String → String
  /-- `payload["capacityRetry"]={"attempt":…,"dueAtMicros":…}`. -/
  scheduled : String → Int → Int → String
  /-- `payload["capacityRetry"]["cancelled"]=true`. -/
  cancelled : String → Option String
  /-- `{"retryEventId":…,"reason":…}`. -/
  rejection : Nat → String → String
  /-- `json_extract(payload,'$.retryEventId')`. -/
  retryEventId : String → Option Nat
  /-- `json_extract(payload,'$.reason')`. -/
  reason : String → Option String
  /-- The terminal receipt names this thread and turn. -/
  terminalOf : String → String → String → Bool
  /-- `json!([…]).to_string()`, and the keys made of digests of it. -/
  sourceKey : List String → String
  /-- `json!({"text":…,"source":"manager","threadId":…})`. -/
  instruction : String → Option String → String

def bounded (value : String) (max : Nat) : Except AgentFailure Unit :=
  require (¬(isBlank value = true ∨ max < value.utf8ByteSize))
    (invalidInput "Agent text is empty or too large")

def readWork (store : AgentStore) (id : String) : Except AgentFailure AgentWorkItem :=
  orElse notFound (store.agentWorkItems.find? id)

def readEvent (store : AgentStore) (id : Nat) : Except AgentFailure AgentInboxEvent :=
  orElse notFound (store.agentInboxEvents.find? id)

def workExists (store : AgentStore) (id : String) : Bool := (store.agentWorkItems.find? id).isSome

def isManager (store : AgentStore) (id : String) : Bool := decide (id ∈ store.agentManagers)

/-- `UPDATE agent_work_items SET … WHERE id=?1`, of columns other than the status. -/
def updateWork (store : AgentStore) (id : String) (change : AgentWorkItem → AgentWorkItem) :
    Except AgentFailure AgentStore := do
  let agentWorkItems ← orElse .constraint (store.agentWorkItems.updateKey id change)
  .ok { store with agentWorkItems }

/-- `INSERT INTO agent_inbox_events`, with its foreign keys. -/
def insertRow (store : AgentStore) (input : EnqueueAgentEvent) (now : Int)
    (disposal : Option Disposal) (delivery : Option Delivery) :
    Except AgentFailure AgentStore := do
  require (workExists store input.workItemId = true ∧
    (delivery.all fun delivery => workExists store delivery.workItemId) = true) .constraint
  let agentInboxEvents ← orElse .constraint (store.agentInboxEvents.insert
    { id := store.nextEventId
      sourceEventId := input.sourceEventId
      workItemId := input.workItemId
      eventKind := input.eventKind
      payload := input.payload
      createdAtMicros := now
      disposal
      delivery })
  .ok { store with agentInboxEvents, nextEventId := store.nextEventId + 1 }

/-- `UPDATE agent_inbox_events`, behind trigger `agent_inbox_disposition_once`. -/
def updateEvents (store : AgentStore) (selected : AgentInboxEvent → Bool)
    (change : AgentInboxEvent → AgentInboxEvent) : Except AgentFailure AgentStore := do
  require (∀ row ∈ store.agentInboxEvents.rows, selected row = true → row.disposal = none)
    (.raised "event already disposed")
  let agentInboxEvents ← orElse .constraint (store.agentInboxEvents.updateWhere selected change)
  .ok { store with agentInboxEvents }

/-- The reasons that trigger `agent_capacity_transition` accepts. -/
def refusalReasons : List String :=
  ["serverDraining", "managedProviderChanged", "settingsChanged", "requestTooLarge",
    "requestQueueFull"]

/-- The refusal receipt that lets a claimed retry be cancelled. -/
def refusalRecorded (host : PayloadHost) (store : AgentStore) (retry : CapacityRetry) : Bool :=
  store.agentInboxEvents.rows.any fun event =>
    event.workItemId = retry.workItemId && event.eventKind = "capacity_retry_rejected" &&
      (event.disposal.any fun disposal => disposal.disposition = .resolved) &&
      host.retryEventId event.payload = some retry.eventId &&
      ((host.reason event.payload).any fun reason => decide (reason ∈ refusalReasons))

/-- What trigger `agent_capacity_transition` lets pass. -/
def capacityTransition (host : PayloadHost) (store : AgentStore) (old new : CapacityRetry) : Bool :=
  (old.state = .pending && (new.state = .claimed || new.state = .cancelled)) ||
    (old.state = .claimed && new.state = .submitted) ||
    (old.state = .claimed && new.state = .cancelled && refusalRecorded host store old)

/-- `UPDATE agent_capacity_retries`, behind its trigger. -/
def updateRetries (host : PayloadHost) (store : AgentStore) (selected : CapacityRetry → Bool)
    (change : CapacityRetry → CapacityRetry) : Except AgentFailure AgentStore := do
  require (∀ row ∈ store.agentCapacityRetries.rows, selected row = true →
    capacityTransition host store row (change row) = true)
    (.raised "capacity retry cannot be replayed")
  let agentCapacityRetries ←
    orElse .constraint (store.agentCapacityRetries.updateWhere selected change)
  .ok { store with agentCapacityRetries }

def cancelRetry (row : CapacityRetry) : CapacityRetry := { row with state := .cancelled }

/-- An `UPDATE` that sets a disposition, with trigger `agent_capacity_disposition_cancel`
after it. -/
def disposeEvents (host : PayloadHost) (store : AgentStore) (selected : AgentInboxEvent → Bool)
    (change : AgentInboxEvent → AgentInboxEvent) : Except AgentFailure AgentStore := do
  let disposed ← updateEvents store selected change
  updateRetries host disposed (fun retry => retry.state = .pending &&
    store.agentInboxEvents.rows.any fun row => selected row && row.id = retry.eventId) cancelRetry

def dispose (disposition : AgentDisposition) (note : String) (now : Int) (row : AgentInboxEvent) :
    AgentInboxEvent :=
  { row with disposal := some ⟨disposition, note, max row.createdAtMicros now⟩ }

/-- The undisposed events with a pending retry of a work item. -/
def pendingRetryEvent (store : AgentStore) (work : String) (row : AgentInboxEvent) : Bool :=
  row.disposal.isNone && store.agentCapacityRetries.rows.any fun retry =>
    retry.eventId = row.id && retry.workItemId = work && retry.state = .pending

/-- Trigger `agent_capacity_work_judgment_cancel`, after an `UPDATE` that sets the status. -/
def judgeWork (host : PayloadHost) (store : AgentStore) (id : String) :
    Except AgentFailure AgentStore :=
  match store.agentWorkItems.find? id with
  | none => .ok store
  | some work =>
    if work.status = .opened then .ok store
    else disposeEvents host store (pendingRetryEvent store id)
      (dispose .resolved "Capacity retry cancelled because the work decision changed."
        work.updatedAtMicros)

/-- An `UPDATE` that sets the status, with its trigger. -/
def updateStatus (host : PayloadHost) (store : AgentStore) (id : String)
    (change : AgentWorkItem → AgentWorkItem) : Except AgentFailure AgentStore := do
  let updated ← updateWork store id change
  judgeWork host updated id

inductive ObservationKind where
  | turnExecution | collaborationDelivery | partialOutput | capacityRetryRejected
  | nativeTurnStarted
  deriving DecidableEq, Repr

def ObservationKind.text : ObservationKind → String
  | .turnExecution => "turn_execution"
  | .collaborationDelivery => "collaboration_delivery"
  | .partialOutput => "partial_output"
  | .capacityRetryRejected => "capacity_retry_rejected"
  | .nativeTurnStarted => "native_turn_started"

/-- A receipt that is disposed when it is recorded. -/
structure Observation where
  sourceEventId : String
  workItemId : String
  kind : ObservationKind
  payload : String
  note : String
  delivery : Option Delivery

def Observation.input (observation : Observation) : EnqueueAgentEvent :=
  ⟨observation.sourceEventId, observation.workItemId, observation.kind.text, observation.payload⟩

def observe (store : AgentStore) (observation : Observation) (now : Int) :
    Except AgentFailure AgentStore :=
  insertRow store observation.input now (some ⟨.resolved, observation.note, now⟩)
    observation.delivery

/-- `ON CONFLICT(source_event_id) DO NOTHING`. -/
def observeOnce (store : AgentStore) (observation : Observation) (now : Int) :
    Except AgentFailure AgentStore :=
  if store.agentInboxEvents.rows.any fun row => row.sourceEventId = observation.sourceEventId
  then .ok store
  else observe store observation now

def observeEach (store : AgentStore) (observations : List Observation) (now : Int) :
    Except AgentFailure AgentStore :=
  observations.foldlM (fun store observation => observeOnce store observation now) store

def cancelPendingWithNote (host : PayloadHost) (store : AgentStore) (work note : String)
    (now : Int) : Except AgentFailure AgentStore := do
  let disposed ← disposeEvents host store (pendingRetryEvent store work) (dispose .resolved note now)
  updateRetries host disposed (fun retry => retry.workItemId = work && retry.state = .pending)
    cancelRetry

def cancelPending (host : PayloadHost) (store : AgentStore) (work : String) (now : Int) :
    Except AgentFailure AgentStore :=
  cancelPendingWithNote host store work "Automatic retry cancelled or superseded by new input." now

/-- `next_retry`: the attempt and when it is due. -/
def nextRetry (store : AgentStore) (work turn : String) (now : Int) :
    Except AgentFailure (Option (Int × Int)) := do
  let previous := (store.agentCapacityRetries.rows.find? fun retry =>
    retry.workItemId = work && retry.retryTurnId = some turn && retry.state = .submitted).map
      (·.attempt)
  let attempt := previous.getD 0 + 1
  let due (delay : Int) : Except AgentFailure (Option (Int × Int)) :=
    if now + delay ≤ i64Max then .ok (some (attempt, now + delay))
    else .error (invalidInput "retry deadline overflow")
  if attempt = 1 then due 15000000
  else if attempt = 2 then due 30000000
  else if attempt = 3 then due 60000000
  else .ok none

/-- `cancel_reverted_agent_capacity_retries`; `owned` is what `owns_work` says. -/
def cancelRevertedAgentCapacityRetries (host : PayloadHost) (store : AgentStore) (thread : String)
    (owned : String → Bool) (now : Int) : Except AgentFailure AgentStore := do
  bounded thread 512
  let works := (store.agentWorkItems.rows.filter fun work =>
    work.codexThreadId = some thread).map (·.id)
  (works.filter owned).foldlM (fun store id => cancelPendingWithNote host store id
    "Automatic retry cancelled because native history was reverted." now) store

/-- `begin_agent_capacity_retry`; `pending` says that a selection or an edit is pending. -/
def beginAgentCapacityRetry (host : PayloadHost) (store : AgentStore) (work : String)
    (event : Nat) (due : Int) (pending : Bool) (now : Int) : Except AgentFailure AgentStore := do
  let item ← readWork store work
  require (item.dispatchState = .idle ∧ item.codexThreadId ≠ none ∧ pending = false) conflict
  let retry ← orElse conflict (store.agentCapacityRetries.rows.find? fun retry =>
    retry.eventId = event && retry.workItemId = work && retry.state = .pending &&
      retry.dueAtMicros ≤ due)
  let claimed ← updateRetries host store (fun row => row.eventId = event)
    fun row => { row with state := .claimed }
  let disposed ← disposeEvents host claimed
    (fun row => row.id = event && row.disposal.isNone)
    (dispose .resolved "Automatic capacity retry requested." now)
  let dispatching ← updateWork disposed work fun item =>
    { item with dispatchState := .dispatching, updatedAtMicros := max item.updatedAtMicros now }
  updateEvents dispatching
    (fun row => row.delivery = some ⟨work, retry.failedTurnId⟩ && row.disposal.isNone)
    fun row => { row with delivery := some ⟨work, ""⟩ }

/-- `cancel_agent_capacity_retry`. -/
def cancelAgentCapacityRetry (host : PayloadHost) (store : AgentStore) (work : String)
    (event : Nat) (now : Int) : Except AgentFailure AgentStore := do
  require (∃ retry ∈ store.agentCapacityRetries.rows, retry.eventId = event ∧
    retry.workItemId = work ∧ retry.state = .pending) conflict
  let cancelled ← cancelPending host store work now
  let item ← readWork cancelled work
  if item.parentGoalId.isSome then do
    let original ← readEvent cancelled event
    let payload ← orElse (invalidInput "invalid capacity receipt") (host.cancelled original.payload)
    insertRow cancelled ⟨"capacity-cancel:" ++ toString event, work, "worker_turn_completed",
      payload⟩ now none none
  else .ok cancelled

/-- The rows of `create_agent_work_record` in the two tables. -/
def createAgentWork (store : AgentStore) (item : AgentWorkItem) (manager : Bool) :
    Except AgentFailure AgentStore := do
  bounded item.id 512
  require ((item.status = .opened ∨ (manager = true ∧ item.status = .wait)) ∧
      item.codexThreadId = none ∧ item.dispatchState = .idle ∧ item.activeTurnId = none)
    (invalidInput
      "new Agent work must be open (or a waiting manager) and unbound with valid timestamps")
  require (∀ parent, item.parentGoalId = some parent →
    (store.agentWorkItems.find? parent).any (fun parent => parent.kind = .goal) = true)
    (invalidInput "Agent parent must be a goal")
  require (workExists store item.id = false) (.refused DatabaseError.alreadyExists.toStoreError)
  let agentWorkItems ← orElse .constraint (store.agentWorkItems.insert item)
  require (manager = true → item.kind = .goal) (.raised "manager must be a goal")
  .ok { store with
    agentWorkItems
    agentManagers := if manager then store.agentManagers ++ [item.id] else store.agentManagers }

/-- `set_agent_work_status`. -/
def setAgentWorkStatus (host : PayloadHost) (store : AgentStore) (id : String)
    (status : AgentWorkStatus) (nextCheckAtMicros : Option Int) (now : Int) :
    Except AgentFailure AgentStore := do
  require (¬((nextCheckAtMicros.any fun time => time < 0) = true ∨
    (status = .resolved ∧ nextCheckAtMicros.isSome = true))) (invalidInput "invalid Agent next check")
  let _ ← readWork store id
  updateStatus host store id fun item =>
    { item with status, nextCheckAtMicros, updatedAtMicros := max item.updatedAtMicros now }

/-- `begin_agent_thread_creation`. -/
def beginAgentThreadCreation (store : AgentStore) (id : String) (now : Int) :
    Except AgentFailure AgentStore := do
  let work ← readWork store id
  require (work.dispatchState = .idle ∧ work.codexThreadId = none) conflict
  updateWork store id fun item =>
    { item with dispatchState := .dispatching, updatedAtMicros := max item.updatedAtMicros now }

/-- `acknowledge_agent_thread_creation`. -/
def acknowledgeAgentThreadCreation (store : AgentStore) (id thread : String) (now : Int) :
    Except AgentFailure AgentStore := do
  bounded thread 512
  let work ← readWork store id
  require (work.dispatchState = .dispatching ∧ work.codexThreadId = none) conflict
  updateWork store id fun item =>
    { item with
      codexThreadId := some thread
      dispatchState := .idle
      updatedAtMicros := max item.updatedAtMicros now }

/-- The recursive select of `owned`: the children of the start and of works that do not manage. -/
def ownedChildren (store : AgentStore) (start id : String) : List String :=
  if id = start ∨ isManager store id = false then
    (store.agentWorkItems.rows.filter fun work => work.parentGoalId = some id).map (·.id)
  else []

def ownedWorks (store : AgentStore) (start : String) : List String :=
  (saturate (ownedChildren store start) (store.agentWorkItems.rows.length + 1) [] [start]).getD []

def wakeKinds : List String :=
  ["worker_turn_completed", "automation_result", "followup_due", "assistant_instruction",
    "user_message", "collaboration_request", "collaboration_result", "research_completed",
    "research_attention"]

/-- The events that a dispatch of `id` may claim. -/
def claimable (store : AgentStore) (id : String) (row : AgentInboxEvent) : Bool :=
  decide (row.workItemId ∈ ownedWorks store id) && row.disposal.isNone &&
    (decide (row.eventKind ∈ wakeKinds) || (row.eventKind = "async_question_answer" &&
      row.workItemId = id && row.delivery.isNone)) &&
    (row.workItemId = id || row.eventKind = "worker_turn_completed" ||
      !isManager store row.workItemId) &&
    (row.workItemId ≠ id || row.eventKind ≠ "worker_turn_completed") &&
    (row.delivery.isNone || row.delivery.any fun delivery =>
      delivery.workItemId = id && delivery.turnId ≠ "")

/-- One round of the second loop of `begin_agent_dispatch_with_input`. -/
def claimEvent (id : String) (store : AgentStore) (event : Nat) :
    Except AgentFailure AgentStore := do
  require (∃ row ∈ store.agentInboxEvents.rows, row.id = event ∧ claimable store id row = true)
    conflict
  updateEvents store (fun row => row.id = event && claimable store id row)
    fun row => { row with delivery := some ⟨id, ""⟩ }

/-- `delegation::begin`. -/
def beginDelegation (store : AgentStore) (work : String) (instruction : Nat) : AgentStore :=
  if (store.agentWorkItems.find? work).any fun item => item.parentGoalId.isSome then
    { store with
      agentDelegations :=
        (store.agentDelegations.filter fun row => row.1 ≠ work) ++ [(work, instruction)] }
  else store

/-- `coalesce(max(id),0)` of the events of a work item. -/
def lastEventOf (store : AgentStore) (work : String) : Nat :=
  ((store.agentInboxEvents.rows.filter fun row => row.workItemId = work).map (·.id)).foldl max 0

/-- The saved instruction of `begin_agent_dispatch_with_input`. -/
def saveInstruction (host : PayloadHost) (store : AgentStore) (work : AgentWorkItem)
    (text : String) (now : Int) : Except AgentFailure AgentStore := do
  let payload := host.instruction text work.codexThreadId
  require (payload.utf8ByteSize ≤ 65536) (invalidInput "instruction exceeds saved event bound")
  let saved ← insertRow store
    ⟨host.sourceKey ["work_instruction", work.id, toString (lastEventOf store work.id)], work.id,
      "work_instruction", payload⟩ now none (some ⟨work.id, ""⟩)
  .ok (beginDelegation saved work.id store.nextEventId)

/-- A dispatched task, and a dispatched manager, is open again. -/
def reopenWork (host : PayloadHost) (store : AgentStore) (work : AgentWorkItem) :
    Except AgentFailure AgentStore :=
  if work.kind = .task ∨ isManager store work.id = true then
    updateStatus host store work.id fun item =>
      { item with status := .opened, nextCheckAtMicros := none }
  else .ok store

/-- `begin_agent_dispatch_with_input`; `pending` says that a selection or an edit is pending,
`stale` which events carry a superseded instruction. -/
def beginAgentDispatchWithInput (host : PayloadHost) (store : AgentStore) (id : String)
    (eventIds : List Nat) (instruction : Option String) (pending : Bool) (stale : Nat → Bool)
    (now : Int) : Except AgentFailure AgentStore := do
  require (∀ text, instruction = some text → bounded text 65536 = .ok ())
    (invalidInput "Agent text is empty or too large")
  require (eventIds.length ≤ 1000) (invalidInput "too many Agent dispatch events")
  let work ← readWork store id
  require (work.dispatchState = .idle ∧ work.codexThreadId ≠ none ∧ pending = false) conflict
  let cancelled ← cancelPending host store id now
  let dispatching ← updateWork cancelled id fun item =>
    { item with dispatchState := .dispatching, updatedAtMicros := max item.updatedAtMicros now }
  require (∀ event ∈ eventIds, stale event = false) conflict
  let claimed ← eventIds.foldlM (claimEvent id) dispatching
  let reopened ← reopenWork host claimed work
  match instruction with
  | none => .ok reopened
  | some text => saveInstruction host reopened work text now

/-- `UPDATE agent_inbox_events SET delivered_turn_id=?2` of the claims of a work item. -/
def deliverClaims (store : AgentStore) (id turn : String) : Except AgentFailure AgentStore :=
  updateEvents store (fun row => row.delivery = some ⟨id, ""⟩ && row.disposal.isNone)
    fun row => { row with delivery := some ⟨id, turn⟩ }

/-- `UPDATE agent_capacity_retries SET state='submitted',retry_turn_id=?2`. -/
def submitRetries (host : PayloadHost) (store : AgentStore) (id turn : String) :
    Except AgentFailure AgentStore :=
  updateRetries host store (fun row => row.workItemId = id && row.state = .claimed)
    fun row => { row with state := .submitted, retryTurnId := some turn }

def runWork (turn : String) (now : Int) (item : AgentWorkItem) : AgentWorkItem :=
  { item with
    dispatchState := .running
    activeTurnId := some turn
    updatedAtMicros := max item.updatedAtMicros now }

def idleWork (now : Int) (item : AgentWorkItem) : AgentWorkItem :=
  { item with
    dispatchState := .idle
    activeTurnId := none
    updatedAtMicros := max item.updatedAtMicros now }

/-- `acknowledge_agent_dispatch_with_execution`; `execution` is the row of
`agent_turn_execution::record`, `deliveries` those of `collaboration::record_delivery`. -/
def acknowledgeAgentDispatch (host : PayloadHost) (store : AgentStore) (id turn : String)
    (execution : Option Observation) (deliveries : List Observation) (now : Int) :
    Except AgentFailure AgentStore := do
  bounded turn 512
  let work ← readWork store id
  require (work.dispatchState = .dispatching) conflict
  require (execution.isSome = true → work.codexThreadId ≠ none) conflict
  let executed ← execution.toList.foldlM (fun store row => observe store row now) store
  let running ← updateWork executed id (runWork turn now)
  let observed ← observeEach running deliveries now
  let delivered ← deliverClaims observed id turn
  let accepted ← disposeEvents host delivered (fun row =>
      row.delivery = some ⟨id, turn⟩ && row.disposal.isNone &&
        (row.eventKind = "work_instruction" || row.eventKind = "assistant_instruction"))
    (dispose .resolved
      "Instruction accepted by the provider; completion is tracked separately." now)
  submitRetries host accepted id turn

/-- `complete_agent_turn`. -/
def completeAgentTurn (store : AgentStore) (id turn : String) (now : Int) :
    Except AgentFailure AgentStore := do
  let work ← readWork store id
  require (work.dispatchState = .running ∧ work.activeTurnId = some turn) conflict
  updateWork store id (idleWork now)

def isTurnReceipt (kind : String) : Bool :=
  kind = "agent_turn_completed" || kind = "worker_turn_completed"

/-- The kind of a turn receipt says whether the work is delegated. -/
def receiptInput (store : AgentStore) (work : AgentWorkItem) (input : EnqueueAgentEvent) :
    EnqueueAgentEvent :=
  if isTurnReceipt input.eventKind then
    { input with
      eventKind :=
        if store.agentDelegations.any fun row => row.1 = work.id then "worker_turn_completed"
        else "agent_turn_completed" }
  else input

/-- The terminal event that is recorded, and the retry that goes with it. -/
def terminalInput (host : PayloadHost) (store : AgentStore) (work : AgentWorkItem) (turn : String)
    (input : EnqueueAgentEvent) (now : Int) :
    Except AgentFailure (EnqueueAgentEvent × Option (Int × Int)) :=
  if work.status = .opened ∧ isTurnReceipt input.eventKind = true ∧
      host.capacityFailure input.payload = true then do
    match ← nextRetry store work.id turn now with
    | none =>
      let encoded := host.exhausted input.payload
      .ok (if encoded.utf8ByteSize ≤ 65536 then { input with payload := encoded } else input, none)
    | some (attempt, due) =>
      let encoded := host.scheduled input.payload attempt due
      if encoded.utf8ByteSize ≤ 65536 then
        .ok ({ input with eventKind := "capacity_retry", payload := encoded }, some (attempt, due))
      else .ok (input, none)
  else .ok (input, none)

/-- The event with this source, recorded now if it was not before. -/
def recordOnce (store : AgentStore) (input : EnqueueAgentEvent) (now : Int) :
    Except AgentFailure (AgentStore × AgentInboxEvent) :=
  match store.agentInboxEvents.rows.find? fun row => row.sourceEventId = input.sourceEventId with
  | some event => do
    require (event.workItemId = input.workItemId ∧ event.eventKind = input.eventKind ∧
      event.payload = input.payload) (.refused .idempotencyConflict)
    .ok (store, event)
  | none => do
    let inserted ← insertRow store input now none none
    let event ← readEvent inserted store.nextEventId
    .ok (inserted, event)

/-- The pending row of a scheduled retry. -/
def scheduleRetry (store : AgentStore) (event : Nat) (work turn : String) (attempt due : Int) :
    Except AgentFailure AgentStore := do
  let agentCapacityRetries ← orElse .constraint (store.agentCapacityRetries.insert
    ⟨event, work, turn, attempt, due, .pending, none⟩)
  .ok { store with agentCapacityRetries }

/-- `complete_agent_turn_with_event`; `partialOutput` are the rows of `retain_partial_output`. -/
def completeAgentTurnWithEvent (host : PayloadHost) (store : AgentStore) (id turn : String)
    (input : EnqueueAgentEvent) (partialOutput : List Observation) (now : Int) :
    Except AgentFailure AgentStore := do
  bounded input.sourceEventId 2048
  bounded input.eventKind 128
  require (input.payload.utf8ByteSize ≤ 65536 ∧ input.workItemId = id)
    (invalidInput "invalid Agent terminal event")
  let userInputHandled := isTurnReceipt input.eventKind && host.completed input.payload
  let work ← readWork store id
  require (work.dispatchState = .running ∧ work.activeTurnId = some turn) conflict
  let (terminal, retry) ← terminalInput host store work turn (receiptInput store work input) now
  let retained ← observeEach store partialOutput now
  let (recorded, event) ← recordOnce retained terminal now
  let idle ← updateWork recorded id (idleWork now)
  let resolved ← disposeEvents host idle (fun row =>
      row.id = event.id && event.eventKind = "agent_turn_completed" && event.disposal.isNone)
    (dispose .resolved "Agent turn receipt recorded; work judgment is unchanged." now)
  let handled ← disposeEvents host resolved (fun row =>
      userInputHandled && row.disposal.isNone && row.delivery = some ⟨id, turn⟩ &&
        (row.eventKind = "user_message" || row.eventKind = "async_question_answer"))
    (dispose .resolved
      "User input handled by completed Agent turn; work judgment is unchanged." now)
  match retry with
  | none => .ok handled
  | some (attempt, due) => scheduleRetry handled event.id id turn attempt due

/-- `reconcile_agent_dispatch`. -/
def reconcileAgentDispatch (host : PayloadHost) (store : AgentStore) (id turn : String)
    (deliveries : List Observation) (now : Int) : Except AgentFailure AgentStore := do
  bounded turn 512
  let work ← readWork store id
  require (work.dispatchState = .dispatching ∨ work.dispatchState = .unknown) conflict
  require (∀ active, work.activeTurnId = some active → active = turn) conflict
  let running ← updateWork store id (runWork turn now)
  let observed ← observeEach running deliveries now
  let delivered ← deliverClaims observed id turn
  submitRetries host delivered id turn

/-- `mark_agent_dispatch_unknown`. -/
def markAgentDispatchUnknown (store : AgentStore) (id : String) (now : Int) :
    Except AgentFailure AgentStore := do
  let work ← readWork store id
  require (work.dispatchState = .dispatching ∨ work.dispatchState = .running) conflict
  updateWork store id fun item =>
    { item with dispatchState := .unknown, updatedAtMicros := max item.updatedAtMicros now }

/-- The claims of a work item: its undisposed events without a turn yet. -/
def isClaim (id : String) (row : AgentInboxEvent) : Bool :=
  row.delivery = some ⟨id, ""⟩ && row.disposal.isNone

/-- The branch of `reject_agent_dispatch` for a claimed retry. -/
def rejectRetry (host : PayloadHost) (store : AgentStore) (previous : AgentWorkItem)
    (event : Nat) (refusal : AgentDispatchRefusal) (now : Int) :
    Except AgentFailure AgentStore := do
  let retry ← orElse .constraint (store.agentCapacityRetries.rows.find? fun retry =>
    retry.eventId = event && retry.workItemId = previous.id && retry.state = .claimed)
  let recorded ← observe store
    ⟨host.sourceKey ["capacity_retry_rejected", toString event], previous.id,
      .capacityRetryRejected, host.rejection event refusal.reason, refusal.note, none⟩ now
  let cancelled ← updateRetries host recorded (fun row => row.eventId = event) cancelRetry
  let restored ← updateEvents cancelled (isClaim previous.id)
    fun row => { row with delivery := some ⟨previous.id, retry.failedTurnId⟩ }
  if previous.parentGoalId.isSome then do
    let original ← readEvent restored event
    let payload ← orElse (invalidInput "invalid capacity receipt") (host.cancelled original.payload)
    insertRow restored ⟨"capacity-refused:" ++ toString event, previous.id,
      "worker_turn_completed", payload⟩ now none none
  else .ok restored

/-- The claims that an ordinary refusal cannot take back. -/
def unsafeClaim (store : AgentStore) (id : String) : Bool :=
  (store.agentInboxEvents.rows.any fun row => isClaim id row &&
    !(row.eventKind = "user_message" || row.eventKind = "async_question_answer" ||
      row.eventKind = "work_instruction")) ||
    store.agentCapacityRetries.rows.any fun retry =>
      retry.workItemId = id && retry.state = .claimed

/-- The branch of `reject_agent_dispatch` for an ordinary dispatch. -/
def rejectClaims (host : PayloadHost) (store : AgentStore) (previous : AgentWorkItem)
    (refusal : AgentDispatchRefusal) (now : Int) : Except AgentFailure AgentStore := do
  require (unsafeClaim store previous.id = false) (invalidInput "dispatch has other effects")
  disposeEvents host store (isClaim previous.id)
    fun row => { dispose .userDecision refusal.note now row with delivery := none }

def settleRefusal (host : PayloadHost) (store : AgentStore) (previous : AgentWorkItem)
    (retryEvent : Option Nat) (refusal : AgentDispatchRefusal) (now : Int) :
    Except AgentFailure AgentStore :=
  match retryEvent with
  | some event => rejectRetry host store previous event refusal now
  | none => rejectClaims host store previous refusal now

/-- `reject_agent_dispatch`; `owned` is what `owns_work` says. -/
def rejectAgentDispatch (host : PayloadHost) (store : AgentStore) (previous : AgentWorkItem)
    (owned : Bool) (retryEvent : Option Nat) (refusal : AgentDispatchRefusal) (now : Int) :
    Except AgentFailure AgentStore := do
  require (previous.dispatchState = .idle) (invalidInput "invalid pre-dispatch state")
  require ((store.agentWorkItems.find? previous.id).any (fun work =>
    previous.codexThreadId.isSome && work.codexThreadId = previous.codexThreadId &&
      work.dispatchState = .dispatching && work.activeTurnId = previous.activeTurnId) = true ∧
    owned = true) (invalidInput "dispatch ownership changed")
  let settled ← settleRefusal host store previous retryEvent refusal now
  updateStatus host settled previous.id fun item =>
    { item with
      dispatchState := .idle
      status := .userDecision
      nextCheckAtMicros := none
      updatedAtMicros := max item.updatedAtMicros now }

/-- `observe_agent_native_turn`; `account` is what the process binding says. -/
def observeAgentNativeTurn (host : PayloadHost) (store : AgentStore) (thread turn : String)
    (connection payload : String) (account : Option String) (owned : String → Bool) (now : Int) :
    Except AgentFailure (Bool × AgentStore) := do
  require ([thread, turn, connection].all (fun id => !id.isEmpty && id.utf8ByteSize ≤ 512) = true)
    (invalidInput "invalid native turn identity")
  match store.agentWorkItems.rows.find? fun work => work.codexThreadId = some thread with
  | none => .ok (false, store)
  | some work =>
    let key := host.sourceKey ["native-turn", work.id, account.getD "", thread, turn]
    if owned work.id = false ∨ ¬(work.dispatchState = .idle ∨
        (work.dispatchState = .running ∧ work.activeTurnId = some turn)) ∨
        (store.agentInboxEvents.rows.any fun row => row.sourceEventId = key ||
          (row.workItemId = work.id && (isTurnReceipt row.eventKind ||
            row.eventKind = "capacity_retry") && host.terminalOf row.payload thread turn)) = true
    then .ok (false, store)
    else do
      let observed ← observe store ⟨key, work.id, .nativeTurnStarted, payload,
        "Native turn observed; no local input delivery inferred.", none⟩ now
      if work.dispatchState = .idle then do
        let cancelled ← cancelPending host observed work.id now
        let running ← updateWork cancelled work.id (runWork turn now)
        .ok (true, running)
      else .ok (false, observed)

/-- `insert_event`; `busy` is what its reads of other rows and tables say, `observation` whether
the event is disposed when it is recorded. -/
def insertEvent (store : AgentStore) (input : EnqueueAgentEvent) (observation : Bool)
    (busy : Option StoreError) (now : Int) : Except AgentFailure AgentStore := do
  bounded input.sourceEventId 2048
  bounded input.eventKind 128
  match store.agentInboxEvents.rows.find? fun row => row.sourceEventId = input.sourceEventId with
  | some event => do
    require (event.workItemId = input.workItemId ∧ event.eventKind = input.eventKind ∧
      event.payload = input.payload) (.refused .idempotencyConflict)
    .ok store
  | none => do
    require (workExists store input.workItemId = true) notFound
    match busy with
    | some error => .error (.refused error)
    | none =>
      insertRow store input now
        (if observation then
          some ⟨.resolved, "Provider observation recorded; work judgment unchanged.", now⟩
        else none) none

/-- `delegation::accept`. -/
def acceptDelegation (store : AgentStore) (work : String) (result : Nat) : AgentStore :=
  { store with
    agentDelegations := store.agentDelegations.filter fun row =>
      !(row.1 = work && row.2 < result) }

/-- The work takes the status of the disposition, unless a later instruction is outstanding. -/
def judgeDisposed (host : PayloadHost) (store : AgentStore) (event : AgentInboxEvent)
    (disposition : AgentDisposition) (nextCheckAtMicros : Option Int) (now : Int) :
    Except AgentFailure AgentStore :=
  if event.eventKind ≠ "worker_turn_completed" ∨
      (store.agentDelegations.all fun row =>
        !(row.1 = event.workItemId && event.id < row.2)) = true then
    updateStatus host store event.workItemId fun item =>
      { item with
        status := disposition.status
        nextCheckAtMicros
        updatedAtMicros := max item.updatedAtMicros (max now event.createdAtMicros) }
  else .ok store

/-- `dispose_agent_event`. -/
def disposeAgentEvent (host : PayloadHost) (store : AgentStore) (id : Nat)
    (disposition : AgentDisposition) (note : String) (nextCheckAtMicros : Option Int) (now : Int) :
    Except AgentFailure AgentStore := do
  bounded note 65536
  require (¬((nextCheckAtMicros.any fun time => time < 0) = true ∨
    (disposition = .resolved ∧ nextCheckAtMicros.isSome = true)))
    (invalidInput "invalid Agent next check")
  let event ← readEvent store id
  require (event.disposal = none) conflict
  let disposed ← disposeEvents host store (fun row => row.id = id && row.disposal.isNone)
    (dispose disposition note now)
  let judged ← judgeDisposed host disposed event disposition nextCheckAtMicros now
  if disposition = .resolved ∧ event.eventKind = "worker_turn_completed" then
    .ok (acceptDelegation judged event.workItemId id)
  else .ok judged

/-- `hold_agent_unsent_input_with_reason`. -/
def holdAgentUnsentInput (host : PayloadHost) (store : AgentStore) (work reason : String)
    (now : Int) : Except AgentFailure AgentStore := do
  bounded reason 2048
  disposeEvents host store (fun row => row.workItemId = work && row.eventKind = "user_message" &&
    row.disposal.isNone && row.delivery.isNone) (dispose .userDecision reason now)

/-- `retry_agent_input`. -/
def retryAgentInput (host : PayloadHost) (store : AgentStore) (work thread : String) (id : Nat)
    (busy : Option StoreError) (now : Int) : Except AgentFailure AgentStore := do
  let owner ← readWork store work
  let event ← readEvent store id
  require (isManager store work = true ∧ owner.codexThreadId = some thread ∧
    event.workItemId = work ∧ event.eventKind = "user_message" ∧
    (event.disposal.any fun disposal => disposal.disposition = .userDecision) = true ∧
    event.delivery = none) conflict
  let source := host.sourceKey ["user_message_retry", work, toString id]
  if (store.agentInboxEvents.rows.any fun row => row.sourceEventId = source) = true then .ok store
  else do
    require (owner.dispatchState = .idle) conflict
    let queued ← insertEvent store ⟨source, work, "user_message", event.payload⟩ false busy now
    if owner.status = .userDecision then
      updateStatus host queued work fun item =>
        { item with
          status := .opened
          nextCheckAtMicros := none
          updatedAtMicros := max item.updatedAtMicros now }
    else .ok queued

end Decodex.Source.Store.AgentDispatch
