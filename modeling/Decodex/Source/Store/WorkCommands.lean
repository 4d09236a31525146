import Decodex.Library.Except
import Decodex.Source.Store.Works

/-!
# Work commands

Source: database/src/works.rs:126-172 (`apply_work_command`), works/commands.rs:13-318 and
works/collaboration.rs:14-316. A command runs in one immediate transaction: an error leaves
the store as it was, and the deferred foreign keys are checked at the commit. One command
takes one reading of the clock.
-/
namespace Decodex.Source.Store.Works

open Decodex.Library
open Decodex.Source.Core

variable (host : WorkHost) (now : Int)

/-- `notice`: one more inbox event; the result has its id. -/
def notice (store : WorkStore) (agent source kind payload : String) :
    Except StoreError (Int × WorkStore) := do
  refuse (i64Max ≤ (store.inboxSequence : Int)) sqliteError
  let event := store.inboxSequence + 1
  let events ← execute (insertReferencing store.agentInboxEvents
    (decide (agent ∈ store.agentWorkItems))
    ⟨event, source, agent, kind, payload, now, none, none⟩)
  .ok (event, { store with agentInboxEvents := events, inboxSequence := event })

def resolved (note : String) (row : AgentInboxEvent) : AgentInboxEvent :=
  { row with disposal := some ⟨.resolved, note, max row.createdAtMicros now⟩ }

def retire (store : WorkStore) (event : Option Int) (note : String) :
    Except StoreError WorkStore := do
  let events ← execute (store.agentInboxEvents.updateWhere
    (fun row => event == some (row.id : Int) && row.disposal.isNone) (resolved now note))
  .ok { store with agentInboxEvents := events }

/-- A granted Material: its saved text, which must be JSON. -/
def grantedMaterial (store : WorkStore) (work id : String) : Except StoreError String := do
  let row ← execute (store.workMaterials.find? (work, id))
  refuse (host.isJson row.recordJson = false) (invalid "invalid Material")
  .ok row.recordJson

/-- `instruction`: the notice to the recipient and the row that names its event. -/
def instruction (store : WorkStore) (q : CollaborationRequest) (i : CollaborationInstruction)
    (w : Work) : Except StoreError WorkStore := do
  text i.id 512
  text i.text 16384
  refuse (i.requirementsId ≠ w.requirements.id ∨ i.eventId.isSome = true ∨
    i.deliveredTurnId.isSome = true ∨ 100 < i.materialIds.length) conflict
  let materials ← i.materialIds.mapM (grantedMaterial host store w.id)
  let payload ← encode host
    (.requestNotice q.id i.id w.id w.requirements i.text materials w.ownerAgentId)
  let (event, store) ← notice now store q.recipientAgentId
    (host.sourceText ["collaboration", q.id, i.id]) "collaboration_request" payload
  let materialIds ← encode host (.materialIds i.materialIds)
  let rows ← execute (insertReferencing store.collaborationInstructions
    (store.collaborationRequests.find? q.id).isSome
    ⟨q.id, i.id, i.requirementsId, i.text, materialIds, event⟩)
  .ok { store with collaborationInstructions := rows }

/-- `recipient`: the named recipient, after the exact instruction was delivered. -/
def recipient (store : WorkStore) (actor id instruction : String) :
    Except StoreError CollaborationRequest := do
  let q ← request host store id
  refuse (q.recipientAgentId ≠ actor ∨ q.instruction.id ≠ instruction) conflict
  refuse ((q.instruction.deliveredTurnId.any fun turn => turn != "") = false)
    (invalid "accept only the exact delivered instruction")
  .ok q

/-- `UPDATE collaboration_requests … WHERE id = ?1`. -/
def updateRequest (store : WorkStore) (id : String)
    (change : CollaborationRequestRow → CollaborationRequestRow) : Except StoreError WorkStore := do
  let rows ← execute (store.collaborationRequests.updateKey id change)
  .ok { store with collaborationRequests := rows }

def createRequest (store : WorkStore) (actor : String) (q : CollaborationRequest) :
    Except StoreError WorkStore := do
  text q.id 512
  agent store q.recipientAgentId
  let w ← owner host store q.workId actor q.instruction.requirementsId
  active w
  refuse (q.recipientAgentId = actor ∨ q.state ≠ .pending ∨ q.outcome.isSome = true ∨
      q.note.isSome = true)
    (invalid "new Collaboration Request must be pending and target another Agent")
  let rows ← execute (insertReferencing store.collaborationRequests
    ((store.works.find? q.workId).isSome && decide (q.recipientAgentId ∈ store.agents))
    ⟨q.id, q.workId, q.recipientAgentId, q.instruction.id, .pending, q.required, none, none⟩)
  instruction host now { store with collaborationRequests := rows } q q.instruction w

/-- A Result of the current instruction and requirements of an unfinished Work. -/
def isCurrentReturn (q : CollaborationRequest) (w : Work) (revision instruction : String) : Prop :=
  q.instruction.id = instruction ∧ q.state ≠ .closed ∧ (w.state = .opened ∨ w.state = .blocked) ∧
    w.requirements.id = revision

instance (q : CollaborationRequest) (w : Work) (revision instruction : String) :
    Decidable (isCurrentReturn q w revision instruction) :=
  inferInstanceAs (Decidable (_ ∧ _ ∧ _ ∧ _))

/-- `returned`. A late return leaves every request as it is. -/
def returned (store : WorkStore) (actor : String) (w : Work) (r : WorkResult)
    (instruction : String) : Except StoreError WorkStore := do
  let i ← execute (store.collaborationInstructions.rows.find? fun row => row.id == instruction)
  let row ← execute (store.collaborationRequests.find? i.requestId)
  refuse (row.recipientAgentId ≠ actor ∨ i.requirementsId ≠ r.requirementsId) conflict
  let q ← request host store row.id
  refuse (q.workId ≠ w.id) conflict
  if isCurrentReturn q w i.requirementsId instruction then do
    let _ ← recipient host store actor row.id instruction
    let store ← updateRequest store row.id fun row => { row with state := .returned }
    let store ← retire now store q.instruction.eventId
      "Contribution returned; requesting owner must assess it"
    let payload ← encode host (.returnedNotice w.id row.id instruction r)
    let (_, store) ← notice now store w.ownerAgentId
      (host.sourceText ["collaboration_result", r.id]) "collaboration_result" payload
    .ok store
  else .ok store

/-- The rows that `cancel_work` closes. -/
def isUnclosed (work : String) (row : CollaborationRequestRow) : Bool :=
  row.workId == work && row.state != .closed

def cancelledRequest (row : CollaborationRequestRow) : CollaborationRequestRow :=
  { row with
    state := .closed
    outcome := some "cancelled"
    note := some "Work cancelled; no new related admission" }

def retireRequest (store : WorkStore) (id : String) : Except StoreError WorkStore := do
  let q ← request host store id
  retire now store q.instruction.eventId
    "Request cancelled; unrelated recipient execution is unchanged"

def cancelWork (store : WorkStore) (work : String) : Except StoreError WorkStore := do
  let requests := (store.collaborationRequests.rows.filter (isUnclosed work)).map (·.id)
  let store ← requests.foldlM (retireRequest host now) store
  let rows ← execute (store.collaborationRequests.updateWhere (isUnclosed work) cancelledRequest)
  .ok { store with collaborationRequests := rows }

/-- `WorkCommand::Respond`. -/
def respond (store : WorkStore) (actor requestId instructionId : String) (accept : Bool)
    (note : String) : Except StoreError WorkStore := do
  let q ← recipient host store actor requestId instructionId
  let w ← readWork host store q.workId
  active w
  refuse (q.state ≠ .pending ∨ q.instruction.requirementsId ≠ w.requirements.id) conflict
  text note 4096
  let store ← updateRequest store requestId fun row =>
    { row with
      state := if accept then .accepted else .closed
      outcome := if accept then none else some "declined"
      note := some note }
  let store ← retire now store q.instruction.eventId
    "Recipient explicitly responded; delivery is separate from acceptance"
  if accept then .ok store
  else do
    let payload ← encode host (.declinedNotice requestId note)
    let (_, store) ← notice now store w.ownerAgentId
      (host.sourceText ["collaboration_declined", requestId, instructionId])
      "collaboration_result" payload
    .ok store

/-- `WorkCommand::Repair`. -/
def repair (store : WorkStore) (actor requestId expectedInstruction : String)
    (i : CollaborationInstruction) : Except StoreError WorkStore := do
  let q ← request host store requestId
  let w ← owner host store q.workId actor i.requirementsId
  active w
  refuse (q.instruction.id ≠ expectedInstruction ∨ q.outcome = some "cancelled") conflict
  let store ← retire now store q.instruction.eventId
    "Superseded by an explicit repair instruction; in-flight effects need reconciliation"
  let store ← instruction host now store q i w
  updateRequest store requestId fun row =>
    { row with instructionId := i.id, state := .pending, outcome := none, note := none }

/-- `WorkCommand::CloseRequest`. -/
def closeRequest (store : WorkStore) (actor requestId instructionId outcome note : String) :
    Except StoreError WorkStore := do
  let q ← request host store requestId
  let w ← readWork host store q.workId
  let _ ← owner host store w.id actor w.requirements.id
  refuse (q.instruction.id ≠ instructionId ∨ q.state = .closed) conflict
  text note 4096
  refuse (["used", "not_used", "cancelled", "failed"].contains outcome = false ∨
      outcome = "used" ∧
        (q.state ≠ .returned ∨ q.instruction.requirementsId ≠ w.requirements.id))
    (invalid "use only a returned contribution for current requirements")
  let store ← updateRequest store requestId fun row =>
    { row with state := .closed, outcome := some outcome, note := some note }
  retire now store q.instruction.eventId "Contribution assessed or cancelled by its Work owner"

def prepareSubagent (store : WorkStore) (actor : String) (b : NativeContribution) :
    Except StoreError WorkStore := do
  let w ← owner host store b.workId actor b.requirementsId
  active w
  text b.id 512
  text b.instruction 16384
  refuse (b.childThreadId.isSome = true ∨ b.parentTurnId.isSome = true ∨
    b.parentItemId.isSome = true) (invalid "new native contribution must be unbound")
  let rows ← execute (insertReferencing store.nativeWorkContributions
    (store.workRequirements.find? (b.workId, b.requirementsId)).isSome
    ⟨b.id, b.workId, b.requirementsId, b.instruction, none, none, none⟩)
  .ok { store with nativeWorkContributions := rows }

def bindSubagent (store : WorkStore) (actor contributionId parentTurnId parentItemId
    childThreadId : String) : Except StoreError WorkStore := do
  let row ← execute (store.nativeWorkContributions.find? contributionId)
  let _ ← owner host store row.workId actor row.requirementsId
  refuse (row.childThreadId.isSome = true) conflict
  let rows ← execute (store.nativeWorkContributions.updateKey contributionId fun row =>
    { row with
      childThreadId := some childThreadId
      parentTurnId := some parentTurnId
      parentItemId := some parentItemId })
  .ok { store with nativeWorkContributions := rows }

/-- The row of a new Work. -/
def newWork (work : Work) (actor : String) : WorkRow :=
  ⟨work.id, work.projectId, actor, work.title, work.requirements.id, .opened, none, none, false,
    none⟩

def create (store : WorkStore) (actor : String) (work : Work) (user : Bool) :
    Except StoreError WorkStore := do
  text work.id 512
  text work.title 120
  refuse (work.ownerAgentId ≠ actor ∨ work.state ≠ .opened ∨ work.assessment.isSome = true ∨
      work.userHold = true ∨ work.reason.isSome = true ∨ work.resumeCondition.isSome = true)
    (invalid "new Work must be open and owned by its creating Agent")
  authority host store actor work.requirements.source user
  let rows ← execute (insertReferencing store.works
    ((work.projectId.all fun project => decide (project ∈ store.projects)) &&
      decide (actor ∈ store.agents)) (newWork work actor))
  requirements { store with works := rows } work.id work.requirements

/-- The inbox events of the instructions of one Work that are neither disposed nor delivered. -/
def awaitsAdmission (store : WorkStore) (work : String) (row : AgentInboxEvent) : Bool :=
  row.disposal.isNone && row.delivery.isNone &&
    store.collaborationInstructions.rows.any fun i => i.eventId == (row.id : Int) &&
      (store.collaborationRequests.find? i.requestId).any fun q => q.workId == work

def revisedWork (requirementsId : String) (row : WorkRow) : WorkRow :=
  { row with
    requirementsId
    state := if row.userHold then .blocked else .opened
    assessmentJson := none }

def revise (store : WorkStore) (actor workId expectedRequirements : String)
    (r : WorkRequirements) (user : Bool) : Except StoreError WorkStore := do
  let w ← owner host store workId actor expectedRequirements
  refuse (w.state = .cancelled) (invalid "cancelled Work needs a new authorized assignment")
  authority host store actor r.source user
  let store ← requirements store workId r
  let events ← execute (store.agentInboxEvents.updateWhere (awaitsAdmission store workId)
    (resolved now
      "Requirements changed before admission; owner must issue a current instruction"))
  let rows ← execute (store.works.updateKey workId (revisedWork r.id))
  .ok { store with agentInboxEvents := events, works := rows }

/-- The texts that a target state needs, and the end of the requests of a cancelled Work. -/
def prepareState (store : WorkStore) (workId : String) (state : WorkState)
    (reason resumeCondition : Option String) : Except StoreError WorkStore :=
  match state with
  | .blocked => do
    text (reason.getD "") 4096
    text (resumeCondition.getD "") 4096
    .ok store
  | .cancelled => do
    text (reason.getD "") 4096
    cancelWork host now store workId
  | _ => .ok store

def setWorkState (state : WorkState) (reason resumeCondition : Option String) (userHold : Bool)
    (row : WorkRow) : WorkRow :=
  { row with state, reason, resumeCondition, userHold }

def setState (store : WorkStore) (actor workId expectedRequirements : String)
    (state : WorkState) (reason resumeCondition : Option String) (userHold user : Bool) :
    Except StoreError WorkStore := do
  let w ← owner host store workId actor expectedRequirements
  refuse (state = .completed ∨ w.state = .completed ∨ w.state = .cancelled)
    (invalid "completion needs an assessment; reopening needs authorized requirements")
  refuse ((w.userHold = true ∧ user = false) ∨ (userHold = true ∧ user = false))
    (invalid "a user hold requires explicit user release")
  let store ← prepareState host now store workId state reason resumeCondition
  let rows ← execute (store.works.updateKey workId
    (setWorkState state reason resumeCondition userHold))
  .ok { store with works := rows }

def addMaterial (store : WorkStore) (actor : String) (material : Material) :
    Except StoreError WorkStore := do
  let w ← readWork host store material.workId
  let _ ← owner host store w.id actor w.requirements.id
  active w
  text material.id 512
  text material.title 1024
  text material.reference 4096
  let json ← encode host (.material material)
  let rows ← execute (insertReferencing store.workMaterials
    (store.works.find? material.workId).isSome ⟨material.id, material.workId, json⟩)
  .ok { store with workMaterials := rows }

/-- The Result names a bound contribution of its own Work and requirements. -/
def namesBoundContribution (store : WorkStore) (result : WorkResult) : Bool :=
  match result.nativeContributionId with
  | none => true
  | some binding => (store.nativeWorkContributions.find? binding).any fun row =>
      row.workId == result.workId && row.requirementsId == result.requirementsId &&
        row.childThreadId.isSome

/-- What a Result changes besides its own row. -/
def admitResult (store : WorkStore) (actor : String) (w : Work) (result : WorkResult) :
    Except StoreError WorkStore :=
  match result.instructionId with
  | some instruction => returned host now store actor w result instruction
  | none => do
    refuse (w.ownerAgentId ≠ actor)
      (invalid "foreign Work requires an exact Collaboration instruction")
    .ok store

def recordResult (store : WorkStore) (actor : String) (result : WorkResult) :
    Except StoreError WorkStore := do
  text result.id 512
  text result.summary 16384
  refuse (namesBoundContribution store result = false)
    (invalid "native Result requires its exact bound contribution")
  refuse (result.agentId ≠ actor)
    (invalid "a Result belongs to its actual contributing Agent")
  let w ← readWork host store result.workId
  let store ← admitResult host now store actor w result
  let json ← encode host (.result result)
  let rows ← execute (insertReferencing store.workResults
    ((store.workRequirements.find? (result.workId, result.requirementsId)).isSome &&
      (result.instructionId.all fun id =>
        store.collaborationInstructions.rows.any fun row => row.id == id) &&
      decide (actor ∈ store.agents))
    ⟨result.id, result.workId, result.requirementsId, result.instructionId, actor, json⟩)
  .ok { store with workResults := rows }

def reuseResult (store : WorkStore) (actor workId expectedRequirements resultId
    assessment : String) : Except StoreError WorkStore := do
  let w ← owner host store workId actor expectedRequirements
  active w
  text assessment 16384
  refuse ((store.workResults.find? resultId).any (fun row => row.workId == workId) = false)
    conflict
  let rows ← execute (insertReferencing store.workResultReuse
    ((store.workResults.find? resultId).isSome &&
      (store.workRequirements.find? (workId, expectedRequirements)).isSome)
    ⟨workId, expectedRequirements, resultId, assessment⟩)
  .ok { store with workResultReuse := rows }

/-- A Result of the Work made under the requirements or explicitly reused for them. -/
def supports (store : WorkStore) (workId requirementsId resultId : String) : Bool :=
  (store.workResults.find? resultId).any fun row => row.workId == workId &&
    (row.requirementsId == requirementsId ||
      (store.workResultReuse.find? (row.workId, requirementsId, row.id)).isSome)

def completedWork (assessmentJson : String) (row : WorkRow) : WorkRow :=
  { row with
    state := .completed
    reason := none
    resumeCondition := none
    assessmentJson := some assessmentJson }

def complete (store : WorkStore) (actor workId expectedRequirements : String)
    (assessment : WorkAssessment) : Except StoreError WorkStore := do
  let w ← owner host store workId actor expectedRequirements
  active w
  refuse (assessment.requirementsId ≠ expectedRequirements ∨ assessment.resultIds = [] ∨
    100 < assessment.resultIds.length) conflict
  text assessment.summary 16384
  refuse (assessment.resultIds.all (supports store workId expectedRequirements) = false)
    (invalid "completion needs related Results checked against current requirements")
  refuse (store.collaborationRequests.rows.any
      (fun row => isUnclosed workId row && row.required) = true)
    (invalid "assess or cancel required contributions before completion")
  let json ← encode host (.assessment assessment)
  let rows ← execute (store.works.updateKey workId (completedWork json))
  .ok { store with works := rows }

/-- `commands::apply`, with `collaboration::apply` for the last four commands. -/
def apply (store : WorkStore) (actor : String) (command : WorkCommand) (user : Bool) :
    Except StoreError WorkStore :=
  match command with
  | .prepareSubagent b => prepareSubagent host store actor b
  | .bindSubagent contributionId parentTurnId parentItemId childThreadId =>
    bindSubagent host store actor contributionId parentTurnId parentItemId childThreadId
  | .create work => create host store actor work user
  | .revise workId expected r => revise host now store actor workId expected r user
  | .setState workId expected state reason resumeCondition userHold =>
    setState host now store actor workId expected state reason resumeCondition userHold user
  | .addMaterial material => addMaterial host store actor material
  | .recordResult result => recordResult host now store actor result
  | .reuseResult workId expected resultId assessment =>
    reuseResult host store actor workId expected resultId assessment
  | .complete workId expected assessment => complete host store actor workId expected assessment
  | .request q => createRequest host now store actor q
  | .respond requestId instructionId accept note =>
    respond host now store actor requestId instructionId accept note
  | .repair requestId expected i => repair host now store actor requestId expected i
  | .closeRequest requestId instructionId outcome note =>
    closeRequest host now store actor requestId instructionId outcome note

/-- The deferred foreign keys of `works` and `collaboration_requests`. -/
def deferredForeignKeys (store : WorkStore) : Bool :=
  (store.works.rows.all fun row =>
      (store.workRequirements.find? (row.id, row.requirementsId)).isSome) &&
    store.collaborationRequests.rows.all fun row =>
      (store.collaborationInstructions.find? (row.id, row.instructionId)).isSome

structure WorkCall where
  actor : String
  commandId : String
  command : WorkCommand
  userAuthority : Bool
  deriving DecidableEq

/-- The new command: its effect, its receipt and the commit. -/
def applyFresh (store : WorkStore) (call : WorkCall) (json : String) :
    Except StoreError WorkStore := do
  let store ← apply host now store call.actor call.command call.userAuthority
  let rows ← execute (insertReferencing store.workCommands (decide (call.actor ∈ store.agents))
    ⟨call.commandId, call.actor, json⟩)
  let store := { store with workCommands := rows }
  refuse (deferredForeignKeys store = false) sqliteError
  .ok store

/-- `apply_work_command`. -/
def applyWorkCommand (store : WorkStore) (call : WorkCall) : Except StoreError WorkStore := do
  text call.commandId 512
  let json ← encode host (.command call.command)
  agent store call.actor
  match store.workCommands.find? call.commandId with
  | some saved =>
    if saved.agentId = call.actor ∧ saved.commandJson = json then .ok store else .error conflict
  | none => applyFresh host now store call json

end Decodex.Source.Store.Works
