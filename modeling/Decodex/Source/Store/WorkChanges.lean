import Decodex.Source.Store.WorkCommands

/-!
# What a committed Work command changes

One lemma per function of works/commands.rs and works/collaboration.rs says what its success
leaves behind. Together they make `apply_change`: a command creates or moves one Work, or
creates or moves one request, or leaves both tables as they are.
-/
namespace Decodex.Source.Store.Works

open Decodex.Library
open Decodex.Source.Core

/-- The current instruction of the request was delivered. -/
def Delivered (store : WorkStore) (q : CollaborationRequestRow) : Prop :=
  ∃ i e, store.collaborationInstructions.find? (q.id, q.instructionId) = some i ∧
    findEvent store i.eventId = some e ∧ isDelivered e = true

/-- The current instruction of the request is for the current requirements of its Work. -/
def ForCurrentRequirements (store : WorkStore) (q : CollaborationRequestRow) : Prop :=
  ∃ i w, store.collaborationInstructions.find? (q.id, q.instructionId) = some i ∧
    store.works.find? q.workId = some w ∧ i.requirementsId = w.requirementsId

/-- The state of the Work of a request. -/
def WorkIs (store : WorkStore) (q : CollaborationRequestRow) (state : WorkState) : Prop :=
  ∃ w, store.works.find? q.workId = some w ∧ w.state = state

/-- A reason and a resume condition that say something. -/
def Explained (reason resumeCondition : Option String) : Prop :=
  (∃ value, reason = some value ∧ value ≠ "") ∧ ∃ value, resumeCondition = some value ∧ value ≠ ""

/-- What a command does to one Work. -/
inductive WorkMove (host : WorkHost) (store : WorkStore) (call : WorkCall) :
    WorkRow → WorkRow → Prop
  | revised {row : WorkRow} {expected : String} {r : WorkRequirements}
      (command : call.command = .revise row.id expected r) (live : row.state ≠ .cancelled) :
      WorkMove host store call row (revisedWork r.id row)
  | stateSet {row : WorkRow} {expected : String} {state : WorkState}
      {reason resumeCondition : Option String} {userHold : Bool}
      (command : call.command = .setState row.id expected state reason resumeCondition userHold)
      (live : row.state ≠ .completed ∧ row.state ≠ .cancelled) (target : state ≠ .completed)
      (held : row.userHold = true ∨ userHold = true → call.userAuthority = true)
      (explained : state = .blocked → Explained reason resumeCondition) :
      WorkMove host store call row (setWorkState state reason resumeCondition userHold row)
  | completed {row : WorkRow} {expected json : String} {assessment : WorkAssessment}
      (command : call.command = .complete row.id expected assessment)
      (opened : row.state = .opened) (encoded : host.toJson (.assessment assessment) = some json)
      (current : assessment.requirementsId = row.requirementsId)
      (named : assessment.resultIds ≠ [])
      (supported : ∀ id ∈ assessment.resultIds, supports store row.id row.requirementsId id = true)
      (handled : ∀ id q, store.collaborationRequests.find? id = some q → q.workId = row.id →
        q.required = true → q.state = .closed) :
      WorkMove host store call row (completedWork json row)

/-- A Result of the current instruction and requirements of an unfinished Work. -/
structure ReturnsCurrent (store : WorkStore) (call : WorkCall) (result : WorkResult)
    (q : CollaborationRequestRow) : Prop where
  names : result.instructionId = some q.instructionId
  actor : call.actor = q.recipientAgentId
  delivered : Delivered store q
  current : ForCurrentRequirements store q
  ofWork : result.workId = q.workId
  revision : ∃ w, store.works.find? q.workId = some w ∧ w.requirementsId = result.requirementsId
  live : WorkIs store q .opened ∨ WorkIs store q .blocked
  unclosed : q.state ≠ .closed

/-- What a command does to one request. -/
inductive RequestMove (store : WorkStore) (call : WorkCall) :
    CollaborationRequestRow → CollaborationRequestRow → Prop
  | responded {q : CollaborationRequestRow} {accept : Bool} {note : String}
      (command : call.command = .respond q.id q.instructionId accept note)
      (actor : call.actor = q.recipientAgentId) (delivered : Delivered store q)
      (current : ForCurrentRequirements store q) (opened : WorkIs store q .opened)
      (pending : q.state = .pending) :
      RequestMove store call q { q with
        state := if accept then .accepted else .closed
        outcome := if accept then none else some "declined"
        note := some note }
  | returned {q : CollaborationRequestRow} {result : WorkResult}
      (command : call.command = .recordResult result)
      (returns : ReturnsCurrent store call result q) :
      RequestMove store call q { q with state := .returned }
  | repaired {q : CollaborationRequestRow} {expected : String} {i : CollaborationInstruction}
      (command : call.command = .repair q.id expected i) (opened : WorkIs store q .opened) :
      RequestMove store call q
        { q with instructionId := i.id, state := .pending, outcome := none, note := none }
  | closed {q : CollaborationRequestRow} {outcome note : String}
      (command : call.command = .closeRequest q.id q.instructionId outcome note)
      (unclosed : q.state ≠ .closed)
      (used : outcome = "used" → q.state = .returned ∧ ForCurrentRequirements store q) :
      RequestMove store call q { q with state := .closed, outcome := some outcome, note := some note }

/-- The Work that a command moves. -/
def movedWork : WorkCommand → Option String
  | .revise workId _ _ => some workId
  | .setState workId _ _ _ _ _ => some workId
  | .complete workId _ _ => some workId
  | _ => none

/-- What a command does to the Works and the requests. -/
inductive WorkChange (host : WorkHost) (store : WorkStore) (call : WorkCall)
    (works' : Table works) (requests' : Table collaborationRequests) : Prop
  | kept (quiet : movedWork call.command = none) (sameWorks : works' = store.works)
      (sameRequests : requests' = store.collaborationRequests)
  | created (work : Work) (command : call.command = .create work)
      (inserted : store.works.insert (newWork work call.actor) = some works')
      (sameRequests : requests' = store.collaborationRequests)
  | moved (row row' : WorkRow) (found : store.works.find? row.id = some row)
      (move : WorkMove host store call row row')
      (updated : ∀ id, works'.find? id = if id = row.id then some row' else store.works.find? id)
      (requests : if row'.state = .cancelled then
          store.collaborationRequests.updateWhere (isUnclosed row.id) cancelledRequest
            = some requests'
        else requests' = store.collaborationRequests)
  | requested (q : CollaborationRequestRow) (quiet : movedWork call.command = none)
      (sameWorks : works' = store.works)
      (opened : WorkIs store q .opened) (pending : q.state = .pending ∧ q.outcome = none)
      (inserted : store.collaborationRequests.insert q = some requests')
  | requestMoved (q q' : CollaborationRequestRow)
      (found : store.collaborationRequests.find? q.id = some q)
      (move : RequestMove store call q q') (sameWorks : works' = store.works)
      (updated : ∀ id, requests'.find? id =
        if id = q.id then some q' else store.collaborationRequests.find? id)

/-- The saved evidence only grows. -/
structure EvidenceGrows (store after : WorkStore) : Prop where
  instructions : Table.Grows store.collaborationInstructions after.collaborationInstructions
  results : Table.Grows store.workResults after.workResults
  reuse : Table.Grows store.workResultReuse after.workResultReuse

variable {host : WorkHost} {now : Int} {store after : WorkStore}

/-- Only the inbox differs. -/
def Notified (store after : WorkStore) : Prop :=
  ∃ events sequence,
    after = { store with agentInboxEvents := events, inboxSequence := sequence }

theorem Notified.trans {middle : WorkStore} (first : Notified store middle)
    (second : Notified middle after) : Notified store after := by
  obtain ⟨_, _, rfl⟩ := first
  obtain ⟨events, sequence, rfl⟩ := second
  exact ⟨events, sequence, rfl⟩

theorem notice_ok {agent source kind payload : String} {event : Int}
    (noticed : notice now store agent source kind payload = .ok (event, after)) :
    Notified store after := by
  unfold notice at noticed
  obtain ⟨_, _, noticed⟩ := bind_ok noticed
  obtain ⟨events, _, noticed⟩ := bind_ok noticed
  cases noticed
  exact ⟨events, _, rfl⟩

theorem retire_ok {event : Option Int} {note : String}
    (retired : retire now store event note = .ok after) : Notified store after := by
  unfold retire at retired
  obtain ⟨events, _, retired⟩ := bind_ok retired
  cases retired
  exact ⟨events, _, rfl⟩

theorem instruction_ok {q : CollaborationRequest} {i : CollaborationInstruction} {w : Work}
    (written : instruction host now store q i w = .ok after) :
    ∃ middle row rows, Notified store middle ∧
      store.collaborationInstructions.insert row = some rows ∧
      row.requestId = q.id ∧ row.id = i.id ∧
      after = { middle with collaborationInstructions := rows } := by
  unfold instruction at written
  obtain ⟨_, _, written⟩ := bind_ok written
  obtain ⟨_, _, written⟩ := bind_ok written
  obtain ⟨_, _, written⟩ := bind_ok written
  obtain ⟨materials, _, written⟩ := bind_ok written
  obtain ⟨payload, _, written⟩ := bind_ok written
  obtain ⟨⟨event, middle⟩, noticed, written⟩ := bind_ok written
  obtain ⟨materialIds, _, written⟩ := bind_ok written
  obtain ⟨rows, inserted, written⟩ := bind_ok written
  cases written
  have notified := notice_ok noticed
  obtain ⟨events, sequence, rfl⟩ := notified
  exact ⟨_, _, rows, ⟨events, sequence, rfl⟩,
    insertReferencing_eq_some (execute_eq_ok.mp inserted), rfl, rfl, rfl⟩

theorem recipient_ok {actor id named : String} {q : CollaborationRequest}
    (allowed : recipient host store actor id named = .ok q) :
    q.id = id ∧ ∃ row i, RequestOf store q row i ∧ row.recipientAgentId = actor ∧
      row.instructionId = named ∧ Delivered store row := by
  unfold recipient at allowed
  obtain ⟨read, reads, allowed⟩ := bind_ok allowed
  obtain ⟨_, matching, allowed⟩ := bind_ok allowed
  obtain ⟨_, delivered, allowed⟩ := bind_ok allowed
  cases allowed
  obtain ⟨same, row, i, saved⟩ := request_ok reads
  obtain ⟨e, event, turn⟩ := saved.event
  simp only [refuse_eq_ok, not_or, not_not, Bool.not_eq_false] at matching delivered
  have rowId : row.id = q.id := Table.key_of_find? saved.found
  refine ⟨same, row, i, saved, ?_, ?_, i, e, ?_, event, ?_⟩
  · rw [← saved.recipientAgentId]
    exact matching.1
  · rw [← saved.instructionId]
    exact matching.2
  · rw [rowId]
    exact saved.current
  · rw [turn, Option.any_map] at delivered
    exact delivered

/-- The request of a saved row, and the requirements that its Work has. -/
theorem RequestOf.forCurrent {q : CollaborationRequest} {row : CollaborationRequestRow}
    {i : CollaborationInstructionRow} {w : Work} {work : WorkRow} (saved : RequestOf store q row i)
    (read : ReadFrom store w work) (sameWork : w.id = q.workId)
    (current : q.instruction.requirementsId = w.requirements.id) :
    ForCurrentRequirements store row := by
  have rowId : row.id = q.id := Table.key_of_find? saved.found
  refine ⟨i, work, ?_, ?_, ?_⟩
  · rw [rowId]
    exact saved.current
  · rw [← saved.workId, ← sameWork]
    exact read.found
  · rw [← saved.requirementsId, current]
    exact read.requirementsId

theorem RequestOf.workIs {q : CollaborationRequest} {row : CollaborationRequestRow}
    {i : CollaborationInstructionRow} {w : Work} {work : WorkRow} (saved : RequestOf store q row i)
    (read : ReadFrom store w work) (sameWork : w.id = q.workId) :
    WorkIs store row w.state := by
  refine ⟨work, ?_, read.state.symm⟩
  rw [← saved.workId, ← sameWork]
  exact read.found

theorem updateRequest_ok {id : String}
    {change : CollaborationRequestRow → CollaborationRequestRow}
    (updated : updateRequest store id change = .ok after) :
    ∃ rows, store.collaborationRequests.updateKey id change = some rows ∧
      after = { store with collaborationRequests := rows } := by
  unfold updateRequest at updated
  obtain ⟨rows, changed, updated⟩ := bind_ok updated
  cases updated
  exact ⟨rows, execute_eq_ok.mp changed, rfl⟩

/-- An update of one request, seen from its row. -/
theorem workChange_of_update {call : WorkCall} {row : CollaborationRequestRow}
    {rows : Table collaborationRequests}
    {change : CollaborationRequestRow → CollaborationRequestRow}
    (found : store.collaborationRequests.find? row.id = some row)
    (updated : store.collaborationRequests.updateKey row.id change = some rows)
    (keeps : ∀ row, (change row).id = row.id) (move : RequestMove store call row (change row)) :
    WorkChange host store call store.works rows :=
  .requestMoved row (change row) found move rfl
    (Table.find?_updateKey_of_found updated found keeps)

theorem RequestOf.found_row {q : CollaborationRequest} {row : CollaborationRequestRow}
    {i : CollaborationInstructionRow} (saved : RequestOf store q row i) :
    row.id = q.id ∧ store.collaborationRequests.find? row.id = some row := by
  have rowId : row.id = q.id := Table.key_of_find? saved.found
  refine ⟨rowId, ?_⟩
  rw [rowId]
  exact saved.found

theorem createRequest_change {call : WorkCall} {actor : String} {q : CollaborationRequest}
    (command : call.command = .request q)
    (success : createRequest host now store actor q = .ok after) :
    WorkChange host store call after.works after.collaborationRequests ∧
      EvidenceGrows store after := by
  unfold createRequest at success
  obtain ⟨_, _, success⟩ := bind_ok success
  obtain ⟨_, _, success⟩ := bind_ok success
  obtain ⟨w, owned, success⟩ := bind_ok success
  obtain ⟨_, opened, success⟩ := bind_ok success
  obtain ⟨_, _, success⟩ := bind_ok success
  obtain ⟨rows, inserted, success⟩ := bind_ok success
  obtain ⟨middle, row, instructions, notified, appended, _, _, rfl⟩ := instruction_ok success
  obtain ⟨events, sequence, rfl⟩ := notified
  obtain ⟨sameWork, _, _, work, read⟩ := owner_ok owned
  refine ⟨.requested ⟨q.id, q.workId, q.recipientAgentId, q.instruction.id, .pending, q.required,
    none, none⟩ (by rw [command]; rfl) rfl ⟨work, ?_, ?_⟩ ⟨rfl, rfl⟩
    (insertReferencing_eq_some (execute_eq_ok.mp inserted)), ?_⟩
  · rw [← sameWork]
    exact read.found
  · rw [← read.state]
    exact active_ok opened
  · exact ⟨Table.grows_insert appended, .refl _, .refl _⟩

theorem respond_change {call : WorkCall} {requestId instructionId note : String} {accept : Bool}
    (command : call.command = .respond requestId instructionId accept note)
    (success : respond host now store call.actor requestId instructionId accept note = .ok after) :
    WorkChange host store call after.works after.collaborationRequests ∧
      EvidenceGrows store after := by
  unfold respond at success
  obtain ⟨q, allowed, success⟩ := bind_ok success
  obtain ⟨w, reads, success⟩ := bind_ok success
  obtain ⟨_, opened, success⟩ := bind_ok success
  obtain ⟨_, pending, success⟩ := bind_ok success
  obtain ⟨_, _, success⟩ := bind_ok success
  obtain ⟨answered, updated, success⟩ := bind_ok success
  obtain ⟨retired, retires, ending⟩ := bind_ok success
  obtain ⟨sameId, row, i, saved, recipient, named, delivered⟩ := recipient_ok allowed
  obtain ⟨sameWork, work, read⟩ := readWork_ok reads
  obtain ⟨rows, changed, rfl⟩ := updateRequest_ok updated
  simp only [refuse_eq_ok, not_or, not_not] at pending
  have notified : Notified { store with collaborationRequests := rows } after := by
    refine (retire_ok retires).trans ?_
    split at ending
    · cases ending
      exact ⟨_, _, rfl⟩
    · obtain ⟨payload, _, ending⟩ := bind_ok ending
      obtain ⟨⟨event, last⟩, noticed, ending⟩ := bind_ok ending
      cases ending
      exact notice_ok noticed
  obtain ⟨events, sequence, rfl⟩ := notified
  obtain ⟨rowId, found⟩ := saved.found_row
  have opening : WorkIs store row .opened := by
    have state := saved.workIs read sameWork
    rwa [active_ok opened] at state
  subst sameId named
  rw [← rowId] at changed command
  have waiting : row.state = .pending := by
    rw [← saved.state]
    exact pending.1
  refine ⟨workChange_of_update found changed (fun _ => rfl) ?_, .refl _, .refl _, .refl _⟩
  exact .responded command recipient.symm delivered (saved.forCurrent read sameWork pending.2)
    opening waiting

theorem repair_change {call : WorkCall} {requestId expected : String}
    {i : CollaborationInstruction} (command : call.command = .repair requestId expected i)
    (success : repair host now store call.actor requestId expected i = .ok after) :
    WorkChange host store call after.works after.collaborationRequests ∧
      EvidenceGrows store after := by
  unfold repair at success
  obtain ⟨q, reads, success⟩ := bind_ok success
  obtain ⟨w, owned, success⟩ := bind_ok success
  obtain ⟨_, opened, success⟩ := bind_ok success
  obtain ⟨_, _, success⟩ := bind_ok success
  obtain ⟨retired, retires, success⟩ := bind_ok success
  obtain ⟨instructed, written, ending⟩ := bind_ok success
  obtain ⟨sameId, row, old, saved⟩ := request_ok reads
  obtain ⟨sameWork, _, _, work, read⟩ := owner_ok owned
  obtain ⟨rows, changed, rfl⟩ := updateRequest_ok ending
  obtain ⟨middle, new, instructions, notified, appended, _, _, rfl⟩ := instruction_ok written
  obtain ⟨_, _, rfl⟩ := (retire_ok retires).trans notified
  obtain ⟨_, _, rfl⟩ := retire_ok retires
  obtain ⟨rowId, found⟩ := saved.found_row
  have opening : WorkIs store row .opened := by
    have state := saved.workIs read sameWork
    rwa [active_ok opened] at state
  subst sameId
  rw [← rowId] at changed command
  exact ⟨workChange_of_update found changed (fun _ => rfl) (.repaired command opening),
    Table.grows_insert appended, .refl _, .refl _⟩

theorem closeRequest_change {call : WorkCall} {requestId instructionId outcome note : String}
    (command : call.command = .closeRequest requestId instructionId outcome note)
    (success : closeRequest host now store call.actor requestId instructionId outcome note
      = .ok after) :
    WorkChange host store call after.works after.collaborationRequests ∧
      EvidenceGrows store after := by
  unfold closeRequest at success
  obtain ⟨q, reads, success⟩ := bind_ok success
  obtain ⟨w, readsWork, success⟩ := bind_ok success
  obtain ⟨_, _, success⟩ := bind_ok success
  obtain ⟨_, matching, success⟩ := bind_ok success
  obtain ⟨_, _, success⟩ := bind_ok success
  obtain ⟨_, allowed, success⟩ := bind_ok success
  obtain ⟨closed, updated, retires⟩ := bind_ok success
  obtain ⟨sameId, row, i, saved⟩ := request_ok reads
  obtain ⟨sameWork, work, read⟩ := readWork_ok readsWork
  obtain ⟨rows, changed, rfl⟩ := updateRequest_ok updated
  obtain ⟨_, _, rfl⟩ := retire_ok retires
  obtain ⟨rowId, found⟩ := saved.found_row
  simp only [refuse_eq_ok, not_or, not_not, not_and_or] at matching allowed
  obtain ⟨named, unclosed⟩ := matching
  rw [saved.instructionId] at named
  subst sameId named
  rw [← rowId] at changed command
  refine ⟨workChange_of_update found changed (fun _ => rfl) ?_, .refl _, .refl _, .refl _⟩
  refine .closed command ?_ fun used => ?_
  · rw [← saved.state]
    exact unclosed
  · rcases allowed.2 with unused | current
    · exact absurd used unused
    · rw [← saved.state]
      exact ⟨current.1, saved.forCurrent read sameWork current.2⟩

/-- An instruction id names one instruction. -/
theorem instruction_unique {a b : CollaborationInstructionRow}
    (left : a ∈ store.collaborationInstructions.rows)
    (right : b ∈ store.collaborationInstructions.rows) (same : a.id = b.id) : a = b := by
  by_cases key : collaborationInstructions.key a = collaborationInstructions.key b
  · exact Table.eq_of_key left right key
  · have apart := Table.no_clash left right key
    simp [collaborationInstructions, same] at apart

/-- What a Result does besides its own row: it moves the request of its instruction to
returned, or nothing at all. -/
theorem returned_ok {call : WorkCall} {w : Work} {work : WorkRow} {result : WorkResult}
    {named : String} (names : result.instructionId = some named) (ofWork : w.id = result.workId)
    (read : ReadFrom store w work) (success : returned host now store call.actor w result named = .ok after) :
    (∃ row rows, Notified { store with collaborationRequests := rows } after ∧
      store.collaborationRequests.find? row.id = some row ∧
      store.collaborationRequests.updateKey row.id
        (fun row => { row with state := .returned }) = some rows ∧
      ReturnsCurrent store call result row) ∨ after = store := by
  unfold returned at success
  obtain ⟨i, chosen, success⟩ := bind_ok success
  obtain ⟨row, _, success⟩ := bind_ok success
  obtain ⟨_, matching, success⟩ := bind_ok success
  obtain ⟨q, reads, success⟩ := bind_ok success
  obtain ⟨_, sameWork, success⟩ := bind_ok success
  simp only [refuse_eq_ok, not_or, not_not] at matching sameWork
  split at success
  · rename_i current
    obtain ⟨_, unclosed, live, revision⟩ := current
    obtain ⟨q', allowed, success⟩ := bind_ok success
    obtain ⟨changed, updated, success⟩ := bind_ok success
    obtain ⟨retired, retires, success⟩ := bind_ok success
    obtain ⟨payload, _, success⟩ := bind_ok success
    obtain ⟨⟨event, last⟩, noticed, ending⟩ := bind_ok success
    cases ending
    obtain ⟨sameId, saved, i', of, recipient, instructionId, delivered⟩ := recipient_ok allowed
    obtain ⟨rows, changes, rfl⟩ := updateRequest_ok updated
    obtain ⟨sameId', saved', i'', of'⟩ := request_ok reads
    -- Both readings of the request are of one row, and the Result names its instruction.
    have one : saved' = saved := by
      have found := of'.found
      rw [sameId', ← sameId, of.found] at found
      exact (Option.some.inj found).symm
    subst one
    obtain ⟨savedId, found⟩ := of.found_row
    have instructed := Table.mem_of_find? of'.current
    have key := Table.key_of_find? of'.current
    have chosenId : i.id = i''.id := by
      have chosenNamed := List.find?_some (execute_eq_ok.mp chosen)
      rw [beq_iff_eq] at chosenNamed
      rw [chosenNamed, ← instructionId]
      exact (congrArg Prod.snd key).symm
    have same : i = i'' :=
      instruction_unique (List.mem_of_find?_eq_some (execute_eq_ok.mp chosen)) instructed chosenId
    subst same
    have asked : q.instruction.requirementsId = w.requirements.id :=
      of'.requirementsId.trans revision.symm
    have state : WorkIs store saved' w.state := of'.workIs read sameWork.symm
    have pending : saved'.state ≠ .closed := by
      rw [← of'.state]
      exact unclosed
    refine .inl ⟨saved', rows, (retire_ok retires).trans (notice_ok noticed), found, ?_, ?_⟩
    · rw [savedId, sameId]
      exact changes
    · refine ⟨?_, recipient.symm, delivered, of'.forCurrent read sameWork.symm asked, ?_, ?_, ?_,
        pending⟩
      · rw [instructionId]
        exact names
      · rw [← ofWork, ← sameWork]
        exact of'.workId
      · obtain ⟨work', found', _⟩ := state
        refine ⟨work', found', ?_⟩
        rw [← of'.workId, sameWork, read.found] at found'
        cases found'
        rw [← read.requirementsId, revision, matching.2]
      · rcases live with opened | blocked
        · rw [opened] at state
          exact .inl state
        · rw [blocked] at state
          exact .inr state
  · cases success
    exact .inr rfl

/-- A recorded Result is one more row, beside which at most its request has moved. -/
theorem recordResult_ok {call : WorkCall} {result : WorkResult}
    (success : recordResult host now store call.actor result = .ok after) :
    (∃ json, store.workResults.insert ⟨result.id, result.workId, result.requirementsId,
      result.instructionId, call.actor, json⟩ = some after.workResults) ∧
    ((∃ row rows, Notified { store with
          collaborationRequests := rows, workResults := after.workResults } after ∧
        store.collaborationRequests.find? row.id = some row ∧
        store.collaborationRequests.updateKey row.id
          (fun row => { row with state := .returned }) = some rows ∧
        ReturnsCurrent store call result row) ∨
      after = { store with workResults := after.workResults }) := by
  unfold recordResult at success
  obtain ⟨_, _, success⟩ := bind_ok success
  obtain ⟨_, _, success⟩ := bind_ok success
  obtain ⟨_, _, success⟩ := bind_ok success
  obtain ⟨_, _, success⟩ := bind_ok success
  obtain ⟨w, reads, success⟩ := bind_ok success
  obtain ⟨middle, admitted, success⟩ := bind_ok success
  obtain ⟨json, _, success⟩ := bind_ok success
  obtain ⟨rows, inserted, success⟩ := bind_ok success
  cases success
  obtain ⟨ofWork, work, read⟩ := readWork_ok reads
  have inserted := insertReferencing_eq_some (execute_eq_ok.mp inserted)
  unfold admitResult at admitted
  cases names : result.instructionId with
  | none =>
    rw [names] at admitted inserted
    obtain ⟨_, _, admitted⟩ := bind_ok admitted
    cases admitted
    exact ⟨⟨json, inserted⟩, .inr rfl⟩
  | some named =>
    rw [names] at admitted inserted
    rcases returned_ok names ofWork read admitted with
      ⟨row, requests, ⟨events, sequence, rfl⟩, found, updated, returns⟩ | rfl
    · exact ⟨⟨json, inserted⟩, .inl ⟨row, requests, ⟨events, sequence, rfl⟩, found, updated,
        returns⟩⟩
    · exact ⟨⟨json, inserted⟩, .inr rfl⟩

theorem recordResult_change {call : WorkCall} {result : WorkResult}
    (command : call.command = .recordResult result)
    (success : recordResult host now store call.actor result = .ok after) :
    WorkChange host store call after.works after.collaborationRequests ∧
      EvidenceGrows store after := by
  obtain ⟨⟨json, inserted⟩, moved | kept⟩ := recordResult_ok success
  · obtain ⟨row, rows, ⟨events, sequence, same⟩, found, updated, returns⟩ := moved
    have grows := Table.grows_insert inserted
    rw [same] at grows ⊢
    exact ⟨workChange_of_update found updated (fun _ => rfl) (.returned command returns), .refl _,
      grows, .refl _⟩
  · have grows := Table.grows_insert inserted
    rw [kept] at grows ⊢
    exact ⟨.kept (by rw [command]; rfl) rfl rfl, .refl _, grows, .refl _⟩

theorem cancelWork_ok {work : String} (success : cancelWork host now store work = .ok after) :
    ∃ rows, store.collaborationRequests.updateWhere (isUnclosed work) cancelledRequest
        = some rows ∧
      Notified { store with collaborationRequests := rows } after := by
  unfold cancelWork at success
  obtain ⟨retired, retires, success⟩ := bind_ok success
  obtain ⟨rows, updated, success⟩ := bind_ok success
  cases success
  have notified : Notified store retired := by
    refine foldlM_ok_prefix (fun _ middle => Notified store middle) ?_ ⟨_, _, rfl⟩ retires
    intro _ before id last held step
    unfold retireRequest at step
    obtain ⟨q, _, step⟩ := bind_ok step
    exact held.trans (retire_ok step)
  obtain ⟨events, sequence, rfl⟩ := notified
  exact ⟨rows, execute_eq_ok.mp updated, events, sequence, rfl⟩

theorem text_ok {value : String} {max : Nat} {done : Unit} (checked : text value max = .ok done) :
    value ≠ "" := by
  unfold text at checked
  simp only [refuse_eq_ok, not_or] at checked
  intro blank
  rw [blank] at checked
  exact checked.1 rfl

theorem prepareState_ok {work : String} {state : WorkState} {reason resumeCondition : Option String}
    (success : prepareState host now store work state reason resumeCondition = .ok after) :
    (state = .blocked → Explained reason resumeCondition) ∧
      ∃ rows, Notified { store with collaborationRequests := rows } after ∧
        if state = .cancelled then
          store.collaborationRequests.updateWhere (isUnclosed work) cancelledRequest = some rows
        else rows = store.collaborationRequests := by
  unfold prepareState at success
  split at success
  · obtain ⟨_, reasonText, success⟩ := bind_ok success
    obtain ⟨_, conditionText, success⟩ := bind_ok success
    cases success
    refine ⟨fun _ => ⟨?_, ?_⟩, _, ⟨_, _, rfl⟩, rfl⟩
    · cases reason with
      | none => exact absurd rfl (text_ok reasonText)
      | some value => exact ⟨value, rfl, text_ok reasonText⟩
    · cases resumeCondition with
      | none => exact absurd rfl (text_ok conditionText)
      | some value => exact ⟨value, rfl, text_ok conditionText⟩
  · obtain ⟨_, _, success⟩ := bind_ok success
    obtain ⟨rows, updated, notified⟩ := cancelWork_ok success
    exact ⟨by simp, rows, notified, updated⟩
  · rename_i notBlocked notCancelled
    cases success
    refine ⟨fun blocked => absurd blocked notBlocked, _, ⟨_, _, rfl⟩, ?_⟩
    rw [if_neg notCancelled]

/-- An update of one Work, seen from its row. -/
theorem workChange_of_work {call : WorkCall} {row : WorkRow} {rows : Table works}
    {change : WorkRow → WorkRow} {requests : Table collaborationRequests}
    (found : store.works.find? row.id = some row)
    (updated : store.works.updateKey row.id change = some rows)
    (keeps : ∀ row, (change row).id = row.id) (move : WorkMove host store call row (change row))
    (ends : if (change row).state = .cancelled then
        store.collaborationRequests.updateWhere (isUnclosed row.id) cancelledRequest
          = some requests
      else requests = store.collaborationRequests) :
    WorkChange host store call rows requests :=
  .moved row (change row) found move (Table.find?_updateKey_of_found updated found keeps) ends

/-- The row that an owner's command names. -/
theorem owner_row {id agent revision : String} {work : Work}
    (owned : owner host store id agent revision = .ok work) :
    ∃ row, row.id = id ∧ store.works.find? row.id = some row ∧ work.state = row.state ∧
      work.userHold = row.userHold ∧ row.requirementsId = revision := by
  obtain ⟨sameId, _, current, row, read⟩ := owner_ok owned
  have rowId : row.id = work.id := Table.key_of_find? read.found
  refine ⟨row, rowId.trans sameId, ?_, read.state, read.userHold, ?_⟩
  · rw [rowId]
    exact read.found
  · rw [← read.requirementsId]
    exact current

theorem create_change {call : WorkCall} {work : Work} (command : call.command = .create work)
    (success : create host store call.actor work call.userAuthority = .ok after) :
    WorkChange host store call after.works after.collaborationRequests ∧
      EvidenceGrows store after := by
  unfold create at success
  obtain ⟨_, _, success⟩ := bind_ok success
  obtain ⟨_, _, success⟩ := bind_ok success
  obtain ⟨_, _, success⟩ := bind_ok success
  obtain ⟨_, _, success⟩ := bind_ok success
  obtain ⟨rows, inserted, success⟩ := bind_ok success
  obtain ⟨revisions, _, rfl⟩ := requirements_ok success
  exact ⟨.created work command (insertReferencing_eq_some (execute_eq_ok.mp inserted)) rfl,
    .refl _, .refl _, .refl _⟩

theorem revise_change {call : WorkCall} {workId expected : String} {r : WorkRequirements}
    (command : call.command = .revise workId expected r)
    (success : revise host now store call.actor workId expected r call.userAuthority = .ok after) :
    WorkChange host store call after.works after.collaborationRequests ∧
      EvidenceGrows store after := by
  unfold revise at success
  obtain ⟨w, owned, success⟩ := bind_ok success
  obtain ⟨_, live, success⟩ := bind_ok success
  obtain ⟨_, _, success⟩ := bind_ok success
  obtain ⟨middle, written, success⟩ := bind_ok success
  obtain ⟨events, _, success⟩ := bind_ok success
  obtain ⟨rows, updated, ending⟩ := bind_ok success
  cases ending
  obtain ⟨revisions, _, rfl⟩ := requirements_ok written
  obtain ⟨row, rowId, found, state, _, _⟩ := owner_row owned
  rw [refuse_eq_ok, state] at live
  subst rowId
  refine ⟨workChange_of_work found (execute_eq_ok.mp updated) (fun _ => rfl)
    (.revised command live) ?_, .refl _, .refl _, .refl _⟩
  rw [if_neg]
  unfold revisedWork
  split <;> simp

theorem setState_change {call : WorkCall} {workId expected : String} {state : WorkState}
    {reason resumeCondition : Option String} {userHold : Bool}
    (command : call.command = .setState workId expected state reason resumeCondition userHold)
    (success : setState host now store call.actor workId expected state reason resumeCondition
      userHold call.userAuthority = .ok after) :
    WorkChange host store call after.works after.collaborationRequests ∧
      EvidenceGrows store after := by
  unfold setState at success
  obtain ⟨w, owned, success⟩ := bind_ok success
  obtain ⟨_, live, success⟩ := bind_ok success
  obtain ⟨_, held, success⟩ := bind_ok success
  obtain ⟨middle, prepared, success⟩ := bind_ok success
  obtain ⟨rows, updated, ending⟩ := bind_ok success
  cases ending
  obtain ⟨explained, requests, notified, ends⟩ := prepareState_ok prepared
  obtain ⟨events, sequence, rfl⟩ := notified
  obtain ⟨row, rowId, found, sameState, sameHold, _⟩ := owner_row owned
  simp only [refuse_eq_ok, not_or, sameState, sameHold, not_and_or, Bool.not_eq_true,
    Bool.not_eq_false] at live held
  subst rowId
  refine ⟨workChange_of_work found (execute_eq_ok.mp updated) (fun _ => rfl)
    (.stateSet command live.2 live.1 (fun hold => ?_) explained) ends, .refl _, .refl _, .refl _⟩
  rcases hold with hold | hold
  · exact held.1.resolve_left (by simp [hold])
  · exact held.2.resolve_left (by simp [hold])

theorem complete_change {call : WorkCall} {workId expected : String} {assessment : WorkAssessment}
    (command : call.command = .complete workId expected assessment)
    (success : complete host store call.actor workId expected assessment = .ok after) :
    WorkChange host store call after.works after.collaborationRequests ∧
      EvidenceGrows store after := by
  unfold complete at success
  obtain ⟨w, owned, success⟩ := bind_ok success
  obtain ⟨_, opened, success⟩ := bind_ok success
  obtain ⟨_, matching, success⟩ := bind_ok success
  obtain ⟨_, _, success⟩ := bind_ok success
  obtain ⟨_, supported, success⟩ := bind_ok success
  obtain ⟨_, handled, success⟩ := bind_ok success
  obtain ⟨json, encoded, success⟩ := bind_ok success
  obtain ⟨rows, updated, ending⟩ := bind_ok success
  cases ending
  obtain ⟨row, rowId, found, sameState, _, current⟩ := owner_row owned
  simp only [refuse_eq_ok, not_or, not_not, Bool.not_eq_false, List.all_eq_true] at matching supported
  have rowOpened : row.state = .opened := by
    rw [← sameState]
    exact active_ok opened
  subst rowId current
  refine ⟨workChange_of_work found (execute_eq_ok.mp updated) (fun _ => rfl)
    (.completed command rowOpened (encode_eq_ok encoded) matching.1 matching.2.1 supported
      fun id q foundRequest ofWork required => ?_) ?_, .refl _, .refl _, .refl _⟩
  · by_contra unclosed
    simp only [refuse_eq_ok, List.any_eq_true, not_exists, not_and] at handled
    apply handled q (Table.mem_of_find? foundRequest)
    simp [isUnclosed, ofWork, required, unclosed]
  · rw [if_neg]
    simp [completedWork]

theorem prepareSubagent_change {call : WorkCall} {actor : String} {b : NativeContribution}
    (command : call.command = .prepareSubagent b)
    (success : prepareSubagent host store actor b = .ok after) :
    WorkChange host store call after.works after.collaborationRequests ∧
      EvidenceGrows store after := by
  unfold prepareSubagent at success
  obtain ⟨_, _, success⟩ := bind_ok success
  obtain ⟨_, _, success⟩ := bind_ok success
  obtain ⟨_, _, success⟩ := bind_ok success
  obtain ⟨_, _, success⟩ := bind_ok success
  obtain ⟨_, _, success⟩ := bind_ok success
  obtain ⟨rows, _, success⟩ := bind_ok success
  cases success
  exact ⟨.kept (by rw [command]; rfl) rfl rfl, .refl _, .refl _, .refl _⟩

theorem bindSubagent_change {call : WorkCall}
    {actor contributionId parentTurnId parentItemId childThreadId : String}
    (command : call.command =
      .bindSubagent contributionId parentTurnId parentItemId childThreadId)
    (success : bindSubagent host store actor contributionId parentTurnId parentItemId
      childThreadId = .ok after) :
    WorkChange host store call after.works after.collaborationRequests ∧
      EvidenceGrows store after := by
  unfold bindSubagent at success
  obtain ⟨_, _, success⟩ := bind_ok success
  obtain ⟨_, _, success⟩ := bind_ok success
  obtain ⟨_, _, success⟩ := bind_ok success
  obtain ⟨rows, _, success⟩ := bind_ok success
  cases success
  exact ⟨.kept (by rw [command]; rfl) rfl rfl, .refl _, .refl _, .refl _⟩

theorem addMaterial_change {call : WorkCall} {actor : String} {material : Material}
    (command : call.command = .addMaterial material)
    (success : addMaterial host store actor material = .ok after) :
    WorkChange host store call after.works after.collaborationRequests ∧
      EvidenceGrows store after := by
  unfold addMaterial at success
  obtain ⟨_, _, success⟩ := bind_ok success
  obtain ⟨_, _, success⟩ := bind_ok success
  obtain ⟨_, _, success⟩ := bind_ok success
  obtain ⟨_, _, success⟩ := bind_ok success
  obtain ⟨_, _, success⟩ := bind_ok success
  obtain ⟨_, _, success⟩ := bind_ok success
  obtain ⟨_, _, success⟩ := bind_ok success
  obtain ⟨rows, _, success⟩ := bind_ok success
  cases success
  exact ⟨.kept (by rw [command]; rfl) rfl rfl, .refl _, .refl _, .refl _⟩

theorem reuseResult_change {call : WorkCall}
    {actor workId expected resultId assessment : String}
    (command : call.command = .reuseResult workId expected resultId assessment)
    (success : reuseResult host store actor workId expected resultId assessment = .ok after) :
    WorkChange host store call after.works after.collaborationRequests ∧
      EvidenceGrows store after := by
  unfold reuseResult at success
  obtain ⟨_, _, success⟩ := bind_ok success
  obtain ⟨_, _, success⟩ := bind_ok success
  obtain ⟨_, _, success⟩ := bind_ok success
  obtain ⟨_, _, success⟩ := bind_ok success
  obtain ⟨rows, inserted, success⟩ := bind_ok success
  cases success
  exact ⟨.kept (by rw [command]; rfl) rfl rfl, .refl _, .refl _,
    Table.grows_insert (insertReferencing_eq_some (execute_eq_ok.mp inserted))⟩

theorem apply_change {call : WorkCall}
    (success : apply host now store call.actor call.command call.userAuthority = .ok after) :
    WorkChange host store call after.works after.collaborationRequests ∧
      EvidenceGrows store after := by
  cases command : call.command <;> rw [command] at success
  case prepareSubagent => exact prepareSubagent_change command success
  case bindSubagent => exact bindSubagent_change command success
  case create => exact create_change command success
  case revise => exact revise_change command success
  case setState => exact setState_change command success
  case addMaterial => exact addMaterial_change command success
  case recordResult => exact recordResult_change command success
  case reuseResult => exact reuseResult_change command success
  case complete => exact complete_change command success
  case request => exact createRequest_change command success
  case respond => exact respond_change command success
  case repair => exact repair_change command success
  case closeRequest => exact closeRequest_change command success

/-- A committed call with a new id has run its command. -/
theorem applyWorkCommand_fresh {call : WorkCall}
    (fresh : store.workCommands.find? call.commandId = none)
    (success : applyWorkCommand host now store call = .ok after) : ∃ applied rows,
      apply host now store call.actor call.command call.userAuthority = .ok applied ∧
      after = { applied with workCommands := rows } ∧ deferredForeignKeys after = true := by
  unfold applyWorkCommand at success
  obtain ⟨_, _, success⟩ := bind_ok success
  obtain ⟨json, _, success⟩ := bind_ok success
  obtain ⟨_, _, success⟩ := bind_ok success
  rw [fresh] at success
  unfold applyFresh at success
  obtain ⟨applied, applies, success⟩ := bind_ok success
  obtain ⟨rows, _, success⟩ := bind_ok success
  obtain ⟨_, committed, success⟩ := bind_ok success
  cases success
  rw [refuse_eq_ok, Bool.not_eq_false] at committed
  exact ⟨applied, rows, applies, rfl, committed⟩

/-- A call whose id is known changes nothing. -/
theorem applyWorkCommand_known {call : WorkCall} {saved : WorkCommandRow}
    (known : store.workCommands.find? call.commandId = some saved)
    (success : applyWorkCommand host now store call = .ok after) : after = store := by
  unfold applyWorkCommand at success
  obtain ⟨_, _, success⟩ := bind_ok success
  obtain ⟨json, _, success⟩ := bind_ok success
  obtain ⟨_, _, success⟩ := bind_ok success
  rw [known] at success
  dsimp only at success
  split at success
  · cases success
    rfl
  · cases success

end Decodex.Source.Store.Works
