import Decodex.Source.Core.AgentInbox
import Decodex.Source.Core.Work
import Decodex.Source.Store.AgentProcess

/-!
# The Work tables and their readers

Source: database/schema.sql:441-480, 651-663, 1058-1113; database/src/works.rs:334-537.
`json_valid` holds of every text the writers serialize and is not checked again. Of agents,
work items and projects only the ids are kept, which is what the foreign keys and `agent`
read. The portfolio reads and the native dispatch and delivery records are left out: they
write no table that a Work command reads.
-/
namespace Decodex.Source.Store.Works

open Decodex.Library
open Decodex.Source.Core
open Decodex.Source.Store.AgentProcess (isBlank)

structure WorkRow where
  id : String
  projectId : Option String
  ownerAgentId : String
  title : String
  requirementsId : String
  state : WorkState
  reason : Option String
  resumeCondition : Option String
  userHold : Bool
  assessmentJson : Option String
  deriving DecidableEq, Repr

/-- A comparison with NULL is unknown, and an unknown `CHECK` passes. -/
def works : Schema WorkRow String where
  key row := row.id
  check row :=
    lengthBetween 1 512 row.id && lengthBetween 1 120 row.title &&
      (row.state != .blocked ||
        (row.reason.all fun reason => 0 < sqlLength reason) &&
          row.resumeCondition.all fun condition => 0 < sqlLength condition) &&
      (row.state != .completed || row.assessmentJson.isSome)

structure WorkRequirementsRow where
  workId : String
  requirements : WorkRequirements
  deriving DecidableEq, Repr

def workRequirements : Schema WorkRequirementsRow (String × String) where
  key row := (row.workId, row.requirements.id)

structure WorkMaterialRow where
  id : String
  workId : String
  recordJson : String
  deriving DecidableEq, Repr

def workMaterials : Schema WorkMaterialRow (String × String) where
  key row := (row.workId, row.id)

structure WorkResultRow where
  id : String
  workId : String
  requirementsId : String
  instructionId : Option String
  agentId : String
  recordJson : String
  deriving DecidableEq, Repr

def workResults : Schema WorkResultRow String where
  key row := row.id

structure WorkResultReuseRow where
  workId : String
  requirementsId : String
  resultId : String
  assessment : String
  deriving DecidableEq, Repr

def workResultReuse : Schema WorkResultReuseRow (String × String × String) where
  key row := (row.workId, row.requirementsId, row.resultId)

structure CollaborationRequestRow where
  id : String
  workId : String
  recipientAgentId : String
  instructionId : String
  state : CollaborationState
  required : Bool
  outcome : Option String
  note : Option String
  deriving DecidableEq, Repr

def collaborationRequests : Schema CollaborationRequestRow String where
  key row := row.id
  check row :=
    (row.outcome.all fun outcome =>
      ["used", "not_used", "declined", "cancelled", "failed"].contains outcome) &&
      decide (row.state = .closed) == row.outcome.isSome

structure CollaborationInstructionRow where
  requestId : String
  id : String
  requirementsId : String
  text : String
  materialIdsJson : String
  eventId : Int
  deriving DecidableEq, Repr

/-- `id` and `event_id` are unique by themselves. -/
def collaborationInstructions : Schema CollaborationInstructionRow (String × String) where
  key row := (row.requestId, row.id)
  clash a b := a.id == b.id || a.eventId == b.eventId

def nativeWorkContributions : Schema NativeContribution String where
  key row := row.id
  check row :=
    row.childThreadId.isNone == row.parentTurnId.isNone &&
      row.childThreadId.isNone == row.parentItemId.isNone
  clash a b :=
    a.parentTurnId.isSome && a.parentItemId.isSome && a.parentTurnId == b.parentTurnId &&
      a.parentItemId == b.parentItemId

structure WorkCommandRow where
  id : String
  agentId : String
  commandJson : String
  deriving DecidableEq, Repr

def workCommands : Schema WorkCommandRow String where
  key row := row.id

/-- The tables a Work command reads or writes. `inboxSequence` is the largest event id that
`AUTOINCREMENT` has given. -/
structure WorkStore where
  agents : List String
  agentWorkItems : List String
  projects : List String
  agentInboxEvents : Table inboxEventTable
  inboxSequence : Nat
  works : Table works
  workRequirements : Table workRequirements
  workMaterials : Table workMaterials
  workResults : Table workResults
  workResultReuse : Table workResultReuse
  collaborationRequests : Table collaborationRequests
  collaborationInstructions : Table collaborationInstructions
  nativeWorkContributions : Table nativeWorkContributions
  workCommands : Table workCommands

/-- An insertion whose immediate foreign keys are `present`. -/
def insertReferencing {ρ κ : Type} [DecidableEq κ] {schema : Schema ρ κ} (table : Table schema)
    (present : Bool) (row : ρ) : Option (Table schema) :=
  if present then table.insert row else none

theorem insertReferencing_eq_some {ρ κ : Type} [DecidableEq κ] {schema : Schema ρ κ}
    {table after : Table schema} {present : Bool} {row : ρ}
    (inserted : insertReferencing table present row = some after) :
    table.insert row = some after := by
  unfold insertReferencing at inserted
  split at inserted
  · exact inserted
  · cases inserted

/-- The values that the commands serialize, the `json!` payloads of notices among them. -/
inductive WorkRecord where
  | command (command : WorkCommand)
  | assessment (assessment : WorkAssessment)
  | result (result : WorkResult)
  | material (material : Material)
  | materialIds (ids : List String)
  | returnedNotice (workId requestId instructionId : String) (result : WorkResult)
  | declinedNotice (requestId note : String)
  | requestNotice (requestId instructionId workId : String) (requirements : WorkRequirements)
      (text : String) (materials : List String) (requestingAgentId : String)
  deriving DecidableEq

/-- What `json_extract` reads of an inbox payload. -/
structure InboxPayload where
  source : Option String
  authorityEventId : Option Int
  delegatedBy : Option String

/-- serde_json, and SQLite's reading of a payload; `none` is a refused value or text. -/
structure WorkHost where
  toJson : WorkRecord → Option String
  /-- `Value::to_string` of an array of strings. -/
  sourceText : List String → String
  readAssessment : String → Option WorkAssessment
  readMaterialIds : String → Option (List String)
  isJson : String → Bool
  inboxPayload : String → Option InboxPayload

def invalid (message : String) : StoreError := .invalidInput message

def conflict : StoreError := DatabaseError.conflict.toStoreError

/-- `if condition { return Err(error) }`. -/
def refuse (condition : Prop) [Decidable condition] (error : StoreError) : Except StoreError Unit :=
  if condition then .error error else .ok ()

@[simp] theorem refuse_eq_ok {condition : Prop} [Decidable condition] {error : StoreError}
    {value : Unit} : refuse condition error = .ok value ↔ ¬condition := by
  unfold refuse
  split <;> simp_all

def text (value : String) (max : Nat) : Except StoreError Unit :=
  refuse (isBlank value = true ∨ max < value.utf8ByteSize)
    (invalid "invalid Work text or identity")

def encode (host : WorkHost) (record : WorkRecord) : Except StoreError String :=
  match host.toJson record with
  | none => .error (invalid "invalid Work record")
  | some json =>
    if 65536 < json.utf8ByteSize then .error (invalid "Work record exceeds 64 KiB") else .ok json

def decode {α : Type} : Option α → Except StoreError α
  | some value => .ok value
  | none => .error (invalid "invalid retained Work record")

/-- An encoded record is what the serializer gave. -/
theorem encode_eq_ok {host : WorkHost} {record : WorkRecord} {json : String}
    (encoded : encode host record = .ok json) : host.toJson record = some json := by
  unfold encode at encoded
  split at encoded
  · cases encoded
  · split at encoded
    · cases encoded
    · cases encoded
      assumption

variable (host : WorkHost)

/-- `row.8.map(decode).transpose()`. -/
def savedAssessment : Option String → Except StoreError (Option WorkAssessment)
  | none => .ok none
  | some json => (decode (host.readAssessment json)).map some

def readWork (store : WorkStore) (id : String) : Except StoreError Work := do
  let row ← execute (store.works.find? id)
  let r ← execute (store.workRequirements.find? (id, row.requirementsId))
  let assessment ← savedAssessment host row.assessmentJson
  .ok {
    id, projectId := row.projectId, ownerAgentId := row.ownerAgentId, title := row.title
    requirements := r.requirements, state := row.state, reason := row.reason
    resumeCondition := row.resumeCondition, userHold := row.userHold, assessment }

def owner (store : WorkStore) (id agent revision : String) : Except StoreError Work := do
  let work ← readWork host store id
  refuse (work.ownerAgentId ≠ agent ∨ work.requirements.id ≠ revision) conflict
  .ok work

def active (work : Work) : Except StoreError Unit :=
  refuse (work.state ≠ .opened) (invalid "Work is not open")

def agent (store : WorkStore) (id : String) : Except StoreError Unit :=
  refuse (id ∉ store.agents) (invalid "expected an existing persistent Agent")

/-- `requirements`: the checked texts and the row of a new revision. -/
def requirements (store : WorkStore) (work : String) (r : WorkRequirements) :
    Except StoreError WorkStore := do
  text r.id 512
  text r.goal 16384
  text r.criteria 16384
  text r.source 1024
  let table ← execute (insertReferencing store.workRequirements
    (store.works.find? work).isSome ⟨work, r⟩)
  .ok { store with workRequirements := table }

/-- `str::parse::<i64>`. -/
def parseI64 (value : String) : Option Int :=
  let (negative, digits) := match value.toList with
    | '-' :: rest => (true, rest)
    | '+' :: rest => (false, rest)
    | digits => (false, digits)
  if digits.isEmpty || !digits.all Char.isDigit then none
  else
    let magnitude : Nat := digits.foldl (fun number c => 10 * number + (c.toNat - 48)) 0
    let number : Int := if negative then -magnitude else magnitude
    if -i64Max - 1 ≤ number ∧ number ≤ i64Max then some number else none

def eventOfSource (source : String) : Option Int :=
  if "event:".toList.isPrefixOf source.toList then
    parseI64 (String.ofList (source.toList.drop 6))
  else none

/-- The event with an id that need not be one. -/
def findEvent (store : WorkStore) (id : Int) : Option AgentInboxEvent :=
  store.agentInboxEvents.rows.find? fun event => decide ((event.id : Int) = id)

def isDelivered (event : AgentInboxEvent) : Bool :=
  event.delivery.any fun delivery => delivery.turnId != ""

/-- A delivered user message or confirmed answer. -/
def isUserDecision (event : AgentInboxEvent) : Except StoreError Bool :=
  if (event.eventKind = "user_message" ∨ event.eventKind = "async_question_answer") ∧
      isDelivered event = true then do
    let payload ← execute (host.inboxPayload event.payload)
    .ok (payload.source == some "user" || event.eventKind == "async_question_answer")
  else .ok false

/-- The decision that a delivered instruction of the assistant is linked to. -/
def isDelegated (store : WorkStore) (event : AgentInboxEvent) : Except StoreError Bool :=
  if event.eventKind = "assistant_instruction" ∧ isDelivered event = true then do
    let payload ← execute (host.inboxPayload event.payload)
    if payload.source = some "assistant" then
      match payload.authorityEventId.bind (findEvent store) with
      | some linked =>
        if payload.delegatedBy = some linked.workItemId then isUserDecision host linked
        else .ok false
      | none => .ok false
    else .ok false
  else .ok false

/-- `authority`: the user, or the exact user decision that the source cites. -/
def authority (store : WorkStore) (agent source : String) (user : Bool) :
    Except StoreError Unit :=
  if user then .ok ()
  else match eventOfSource source with
    | none =>
      .error (invalid "cite an exact event:<id> user decision from the delivered inbox")
    | some event =>
      match (findEvent store event).filter (·.workItemId == agent) with
      | none => .error (invalid "requirements need a current delivered user decision")
      | some row => do
        let valid ← isUserDecision host row
        let delegated ← isDelegated host store row
        refuse (¬(valid = true ∧ agent ∈ store.agentWorkItems) ∧ delegated = false)
          (invalid "requirements need a current delivered user decision")

/-- `request`: a request with its current instruction and that instruction's event. -/
def request (store : WorkStore) (id : String) : Except StoreError CollaborationRequest := do
  let q ← execute (store.collaborationRequests.find? id)
  let i ← execute (store.collaborationInstructions.find? (id, q.instructionId))
  let e ← execute (findEvent store i.eventId)
  let materialIds ← decode (host.readMaterialIds i.materialIdsJson)
  .ok {
    id, workId := q.workId, recipientAgentId := q.recipientAgentId
    instruction := {
      id := q.instructionId, requirementsId := i.requirementsId, text := i.text, materialIds
      eventId := some i.eventId, deliveredTurnId := e.delivery.map (·.turnId) }
    state := q.state, required := q.required, outcome := q.outcome, note := q.note }

variable {host} {store : WorkStore}

/-- `work` was read from `row`. -/
structure ReadFrom (store : WorkStore) (work : Work) (row : WorkRow) : Prop where
  found : store.works.find? work.id = some row
  ownerAgentId : work.ownerAgentId = row.ownerAgentId
  requirementsId : work.requirements.id = row.requirementsId
  state : work.state = row.state
  userHold : work.userHold = row.userHold

theorem readWork_ok {id : String} {work : Work} (read : readWork host store id = .ok work) :
    work.id = id ∧ ∃ row, ReadFrom store work row := by
  unfold readWork at read
  obtain ⟨row, found, read⟩ := bind_ok read
  obtain ⟨r, current, read⟩ := bind_ok read
  obtain ⟨assessment, _, read⟩ := bind_ok read
  cases read
  have key := Table.key_of_find? (execute_eq_ok.mp current)
  refine ⟨rfl, row, execute_eq_ok.mp found, rfl, ?_, rfl, rfl⟩
  exact congrArg Prod.snd key

theorem owner_ok {id agent revision : String} {work : Work}
    (owned : owner host store id agent revision = .ok work) :
    work.id = id ∧ work.ownerAgentId = agent ∧ work.requirements.id = revision ∧
      ∃ row, ReadFrom store work row := by
  unfold owner at owned
  obtain ⟨read, reads, owned⟩ := bind_ok owned
  obtain ⟨_, allowed, owned⟩ := bind_ok owned
  cases owned
  simp only [refuse_eq_ok, not_or, not_not] at allowed
  exact ⟨(readWork_ok reads).1, allowed.1, allowed.2, (readWork_ok reads).2⟩

theorem active_ok {work : Work} {value : Unit} (open' : active work = .ok value) :
    work.state = .opened := by
  simpa [active] using open'

theorem requirements_ok {work : String} {r : WorkRequirements} {after : WorkStore}
    (written : requirements store work r = .ok after) :
    ∃ table, store.workRequirements.insert ⟨work, r⟩ = some table ∧
      after = { store with workRequirements := table } := by
  unfold requirements at written
  obtain ⟨_, _, written⟩ := bind_ok written
  obtain ⟨_, _, written⟩ := bind_ok written
  obtain ⟨_, _, written⟩ := bind_ok written
  obtain ⟨_, _, written⟩ := bind_ok written
  obtain ⟨table, inserted, written⟩ := bind_ok written
  cases written
  exact ⟨table, insertReferencing_eq_some (execute_eq_ok.mp inserted), rfl⟩

/-- `q` was read from `row` and its current instruction `i`. -/
structure RequestOf (store : WorkStore) (q : CollaborationRequest) (row : CollaborationRequestRow)
    (i : CollaborationInstructionRow) : Prop where
  found : store.collaborationRequests.find? q.id = some row
  current : store.collaborationInstructions.find? (q.id, row.instructionId) = some i
  workId : q.workId = row.workId
  recipientAgentId : q.recipientAgentId = row.recipientAgentId
  instructionId : q.instruction.id = row.instructionId
  requirementsId : q.instruction.requirementsId = i.requirementsId
  state : q.state = row.state
  outcome : q.outcome = row.outcome
  event : ∃ e, findEvent store i.eventId = some e ∧
    q.instruction.deliveredTurnId = e.delivery.map (·.turnId)

theorem request_ok {id : String} {q : CollaborationRequest}
    (read : request host store id = .ok q) : q.id = id ∧ ∃ row i, RequestOf store q row i := by
  unfold request at read
  obtain ⟨row, found, read⟩ := bind_ok read
  obtain ⟨i, current, read⟩ := bind_ok read
  obtain ⟨e, event, read⟩ := bind_ok read
  obtain ⟨_, _, read⟩ := bind_ok read
  cases read
  exact ⟨rfl, row, i, execute_eq_ok.mp found, execute_eq_ok.mp current, rfl, rfl, rfl, rfl, rfl,
    rfl, e, execute_eq_ok.mp event, rfl⟩

end Decodex.Source.Store.Works
