import Decodex.Library.Run
import Decodex.Source.Store.WorkChanges

/-!
# Collaboration and completion stay sound

Commands of any actors arrive in any order, with any ids and authority. Between them the rest
of the program delivers and disposes inbox events and changes agents, work items and projects
as it likes; only the commands write the Work tables.
-/
namespace Decodex.Guarantees.Works

open Decodex.Library Decodex.Source.Core Decodex.Source.Store.Works
open Decodex.Source.Store (StoreError)

inductive WorkEvent where
  /-- A new command that was committed. -/
  | applied (call : WorkCall)
  /-- A refused command, or the repetition of a committed one. -/
  | kept (call : WorkCall)
  | outside

/-- One step of a run; `outside` leaves the Work tables as they are. -/
inductive WorkStep (host : WorkHost) (s : WorkStore) : WorkEvent → WorkStore → Prop where
  | applied {call : WorkCall} {now : Int} {t : WorkStore}
      (fresh : s.workCommands.find? call.commandId = none)
      (success : applyWorkCommand host now s call = .ok t) : WorkStep host s (.applied call) t
  | repeated {call : WorkCall} {now : Int} {t : WorkStore} {saved : WorkCommandRow}
      (known : s.workCommands.find? call.commandId = some saved)
      (success : applyWorkCommand host now s call = .ok t) : WorkStep host s (.kept call) t
  | refused {call : WorkCall} {now : Int} {error : StoreError}
      (failure : applyWorkCommand host now s call = .error error) : WorkStep host s (.kept call) s
  | outside (agents agentWorkItems projects : List String) (events : Table inboxEventTable)
      (sequence : Nat) :
      WorkStep host s .outside { s with
        agents, agentWorkItems, projects, agentInboxEvents := events, inboxSequence := sequence }

variable {host : WorkHost} {s t start store : WorkStore} {event : WorkEvent}
  {events : List WorkEvent}

/-- The Work tables of a step: those of an applied command, or the ones there were. -/
inductive StepChange (host : WorkHost) (s : WorkStore) : WorkEvent → WorkStore → Prop where
  | applied {call : WorkCall} {now : Int} {done : WorkStore} {rows : Table workCommands}
      (applies : apply host now s call.actor call.command call.userAuthority = .ok done)
      (committed : deferredForeignKeys { done with workCommands := rows } = true) :
      StepChange host s (.applied call) { done with workCommands := rows }
  | same {event : WorkEvent} {t : WorkStore} (works : t.works = s.works)
      (requests : t.collaborationRequests = s.collaborationRequests)
      (instructions : t.collaborationInstructions = s.collaborationInstructions)
      (results : t.workResults = s.workResults) (reuse : t.workResultReuse = s.workResultReuse)
      (other : ∀ call, event ≠ .applied call) : StepChange host s event t

theorem workStep_change (step : WorkStep host s event t) : StepChange host s event t := by
  cases step with
  | applied fresh success =>
    obtain ⟨done, rows, applies, rfl, committed⟩ := applyWorkCommand_fresh fresh success
    exact .applied applies committed
  | repeated known success =>
    cases applyWorkCommand_known known success
    exact .same rfl rfl rfl rfl rfl (by simp)
  | refused failure => exact .same rfl rfl rfl rfl rfl (by simp)
  | outside => exact .same rfl rfl rfl rfl rfl (by simp)

/-- A Result of the Work, made under its current requirements or reused for them. -/
def CountsFor (store : WorkStore) (work : WorkRow) (resultId : String) : Prop :=
  ∃ result, store.workResults.find? resultId = some result ∧ result.workId = work.id ∧
    (result.requirementsId = work.requirementsId ∨
      ∃ reuse, store.workResultReuse.find? (work.id, work.requirementsId, resultId) = some reuse)

/-- The saved assessment is of the current requirements and of Results that count for them. -/
def Assessed (host : WorkHost) (store : WorkStore) (work : WorkRow) : Prop :=
  ∃ assessment json, host.toJson (.assessment assessment) = some json ∧
    work.assessmentJson = some json ∧ assessment.requirementsId = work.requirementsId ∧
    assessment.resultIds ≠ [] ∧ ∀ id ∈ assessment.resultIds, CountsFor store work id

/-- All the requests of the Work that meet `needed` are closed. -/
def RequestsClosed (store : WorkStore) (work : WorkRow)
    (needed : CollaborationRequestRow → Prop) : Prop :=
  ∀ id q, store.collaborationRequests.find? id = some q → q.workId = work.id → needed q →
    q.state = .closed

/-- The recipient has returned a Result for the current instruction and its requirements. -/
def ReturnedResult (store : WorkStore) (q : CollaborationRequestRow) : Prop :=
  ∃ resultId result i, store.workResults.find? resultId = some result ∧
    store.collaborationInstructions.find? (q.id, q.instructionId) = some i ∧
    result.instructionId = some q.instructionId ∧ result.requirementsId = i.requirementsId ∧
    result.agentId = q.recipientAgentId

structure WorksSound (host : WorkHost) (store : WorkStore) : Prop where
  assessed : ∀ id work, store.works.find? id = some work → work.state = .completed →
    Assessed host store work
  completed : ∀ id work, store.works.find? id = some work → work.state = .completed →
    RequestsClosed store work (·.required = true)
  cancelled : ∀ id work, store.works.find? id = some work → work.state = .cancelled →
    RequestsClosed store work fun _ => True
  outcome : ∀ id q, store.collaborationRequests.find? id = some q →
    (q.state = .closed ↔ q.outcome.isSome = true)
  instruction : ∀ id q, store.collaborationRequests.find? id = some q →
    ∃ i, store.collaborationInstructions.find? (q.id, q.instructionId) = some i
  returned : ∀ id q, store.collaborationRequests.find? id = some q → q.state = .returned →
    ReturnedResult store q

/-- A Result that its Work or its instruction has outlived. -/
def Late (store : WorkStore) (result : WorkResult) : Prop :=
  (∃ work, store.works.find? result.workId = some work ∧
    (work.requirementsId ≠ result.requirementsId ∨ work.state = .cancelled ∨
      work.state = .completed)) ∨
  ∃ i q, i ∈ store.collaborationInstructions.rows ∧ result.instructionId = some i.id ∧
    store.collaborationRequests.find? i.requestId = some q ∧
    (q.instructionId ≠ i.id ∨ q.state = .closed)

/-- The named recipient answers the current instruction or returns a Result for it. -/
def AnswersCurrent (q : CollaborationRequestRow) (call : WorkCall) : Prop :=
  call.actor = q.recipientAgentId ∧
    ((∃ note, call.command = .respond q.id q.instructionId true note) ∨
      ∃ result, call.command = .recordResult result ∧
        result.instructionId = some q.instructionId)

structure StepSound (s : WorkStore) (event : WorkEvent) (t : WorkStore) : Prop where
  cancelled : ∀ id work, s.works.find? id = some work → work.state = .cancelled →
    t.works.find? id = some work
  used : ∀ id q', t.collaborationRequests.find? id = some q' → q'.outcome = some "used" →
    s.collaborationRequests.find? id = some q' ∨ ∃ q,
      s.collaborationRequests.find? id = some q ∧ q.state = .returned ∧ q.instructionId = q'.instructionId ∧
        ForCurrentRequirements s q
  pending : ∀ id q q', s.collaborationRequests.find? id = some q → q.state = .pending →
    t.collaborationRequests.find? id = some q' → q'.state = .accepted ∨ q'.state = .returned →
    q'.instructionId = q.instructionId ∧ Delivered s q ∧
      ∃ call, event = .applied call ∧ AnswersCurrent q call
  late : ∀ call result, event = .applied call → call.command = .recordResult result →
    Late s result →
    t = { s with workResults := t.workResults, workCommands := t.workCommands }

section Change

variable {call : WorkCall}
  (change : WorkChange host s call t.works t.collaborationRequests)

include change

/-- Where a Work comes from. -/
theorem work_of_change {id : String} {work' : WorkRow} (found' : t.works.find? id = some work') :
    s.works.find? id = some work' ∨ (∃ work, work' = newWork work call.actor) ∨
      ∃ row, s.works.find? id = some row ∧ WorkMove host s call row work' ∧
        if work'.state = .cancelled then
          s.collaborationRequests.updateWhere (isUnclosed row.id) cancelledRequest
            = some t.collaborationRequests
        else t.collaborationRequests = s.collaborationRequests := by
  cases change with
  | kept quiet sameWorks sameRequests =>
    rw [sameWorks] at found'
    exact .inl found'
  | created work command inserted sameRequests =>
    rw [Table.find?_insert inserted] at found'
    split at found'
    · cases found'
      exact .inr (.inl ⟨work, rfl⟩)
    · exact .inl found'
  | moved row row' found move updated requests =>
    rw [updated] at found'
    split at found'
    · rename_i same
      cases found'
      rw [same]
      exact .inr (.inr ⟨row, found, move, requests⟩)
    · exact .inl found'
  | requested q quiet sameWorks opened pending inserted =>
    rw [sameWorks] at found'
    exact .inl found'
  | requestMoved q q' found move sameWorks updated =>
    rw [sameWorks] at found'
    exact .inl found'

/-- Where a request comes from. -/
theorem request_of_change {id : String} {q' : CollaborationRequestRow}
    (found' : t.collaborationRequests.find? id = some q') :
    s.collaborationRequests.find? id = some q' ∨
      (q'.state = .pending ∧ q'.outcome = none ∧ WorkIs s q' .opened) ∨
      (∃ q, s.collaborationRequests.find? id = some q ∧ q' = cancelledRequest q) ∨
      ∃ q, s.collaborationRequests.find? id = some q ∧ RequestMove s call q q' := by
  cases change with
  | kept quiet sameWorks sameRequests =>
    rw [sameRequests] at found'
    exact .inl found'
  | created work command inserted sameRequests =>
    rw [sameRequests] at found'
    exact .inl found'
  | moved row row' found move updated requests =>
    split at requests
    · rw [Table.find?_updateWhere requests (fun _ _ => rfl), Option.map_eq_some_iff] at found'
      obtain ⟨q, old, same⟩ := found'
      split at same
      · exact .inr (.inr (.inl ⟨q, old, same.symm⟩))
      · rw [same] at old
        exact .inl old
    · rw [requests] at found'
      exact .inl found'
  | requested q quiet sameWorks opened pending inserted =>
    rw [Table.find?_insert inserted] at found'
    split at found'
    · cases found'
      exact .inr (.inl ⟨pending.1, pending.2, opened⟩)
    · exact .inl found'
  | requestMoved q q'' found move sameWorks updated =>
    rw [updated] at found'
    split at found'
    · rename_i same
      cases found'
      rw [same]
      exact .inr (.inr (.inr ⟨q, found, move⟩))
    · exact .inl found'

/-- A request of a Work that has ended is closed, or it is the row it was. -/
theorem request_of_ended {work : WorkRow} (found : s.works.find? work.id = some work)
    (ended : work.state = .completed ∨ work.state = .cancelled) {id : String}
    {q' : CollaborationRequestRow} (found' : t.collaborationRequests.find? id = some q')
    (ofWork : q'.workId = work.id) :
    q'.state = .closed ∨ s.collaborationRequests.find? id = some q' := by
  -- No request of an ended Work is created, accepted, returned or repaired.
  have dead : ∀ {q : CollaborationRequestRow}, q.workId = work.id →
      ¬(WorkIs s q .opened ∨ WorkIs s q .blocked) := by
    intro q same live
    rcases live with ⟨w, foundWork, state⟩ | ⟨w, foundWork, state⟩ <;>
      · rw [same, found] at foundWork
        cases foundWork
        rw [state] at ended
        rcases ended with h | h <;> cases h
  rcases request_of_change change found' with same | ⟨_, _, opened⟩ | ⟨q, _, rfl⟩ | ⟨q, _, move⟩
  · exact .inr same
  · exact absurd (.inl opened) (dead ofWork)
  · exact .inl rfl
  · cases move with
    | responded command actor delivered current opened pending =>
      exact absurd (.inl opened) (dead ofWork)
    | returned command returns => exact absurd returns.live (dead ofWork)
    | repaired command opened => exact absurd (.inl opened) (dead ofWork)
    | closed command unclosed used => exact .inl rfl

theorem requestsClosed_of_change {work : WorkRow} {needed : CollaborationRequestRow → Prop}
    (found : s.works.find? work.id = some work)
    (ended : work.state = .completed ∨ work.state = .cancelled)
    (closed : RequestsClosed s work needed) : RequestsClosed t work needed := by
  intro id q' found' ofWork isNeeded
  rcases request_of_ended change found ended found' ofWork with done | same
  · exact done
  · exact closed id q' same ofWork isNeeded

end Change

theorem countsFor_of_supports {work : WorkRow} {id : String}
    (supported : supports s work.id work.requirementsId id = true) : CountsFor s work id := by
  unfold supports at supported
  simp only [Option.any_eq_true, Bool.and_eq_true, Bool.or_eq_true, beq_iff_eq,
    Option.isSome_iff_exists] at supported
  obtain ⟨result, found, ofWork, made⟩ := supported
  have resultId : result.id = id := Table.key_of_find? found
  rw [ofWork, resultId] at made
  exact ⟨result, found, ofWork, made⟩

theorem CountsFor.grows {work : WorkRow} {id : String} (counts : CountsFor s work id)
    (grows : EvidenceGrows s t) : CountsFor t work id := by
  obtain ⟨result, found, ofWork, made⟩ := counts
  refine ⟨result, grows.results _ _ found, ofWork, made.imp_right ?_⟩
  rintro ⟨reuse, reused⟩
  exact ⟨reuse, grows.reuse _ _ reused⟩

theorem Assessed.grows {work : WorkRow} (assessed : Assessed host s work)
    (grows : EvidenceGrows s t) : Assessed host t work := by
  obtain ⟨assessment, json, encoded, saved, current, named, counts⟩ := assessed
  exact ⟨assessment, json, encoded, saved, current, named,
    fun id member => (counts id member).grows grows⟩

theorem ReturnedResult.grows {q : CollaborationRequestRow} (returned : ReturnedResult s q)
    (grows : EvidenceGrows s t) : ReturnedResult t q := by
  obtain ⟨resultId, result, i, found, current, named⟩ := returned
  exact ⟨resultId, result, i, grows.results _ _ found, grows.instructions _ _ current, named⟩

/-- A returned request leaves its Result behind. -/
theorem returnedResult_of_move {now : Int} {call : WorkCall} {q : CollaborationRequestRow}
    {result : WorkResult} (command : call.command = .recordResult result)
    (returns : ReturnsCurrent s call result q)
    (applies : apply host now s call.actor call.command call.userAuthority = .ok t) :
    ReturnedResult t q := by
  have grows := (apply_change applies).2
  rw [command] at applies
  obtain ⟨⟨json, inserted⟩, _⟩ := recordResult_ok applies
  obtain ⟨i, w, instructed, foundWork, asked⟩ := returns.current
  obtain ⟨w', foundWork', same⟩ := returns.revision
  rw [foundWork] at foundWork'
  cases foundWork'
  refine ⟨result.id, ⟨result.id, result.workId, result.requirementsId, result.instructionId,
    call.actor, json⟩, i, ?_, grows.instructions _ _ instructed, returns.names, ?_,
    returns.actor⟩
  · exact (Table.find?_insert inserted _).trans (if_pos rfl)
  · rw [asked, ← same]

theorem sound_of_apply {now : Int} {call : WorkCall} (sound : WorksSound host s)
    (applies : apply host now s call.actor call.command call.userAuthority = .ok t)
    (committed : deferredForeignKeys t = true) : WorksSound host t := by
  obtain ⟨change, grows⟩ := apply_change applies
  have workId {store : WorkStore} {id : String} {work : WorkRow}
      (found : store.works.find? id = some work) : store.works.find? work.id = some work := by
    have same : work.id = id := Table.key_of_find? found
    rw [same]
    exact found
  constructor
  case assessed =>
    intro id work' found' done
    rcases work_of_change change found' with same | ⟨work, rfl⟩ | ⟨row, found, move, _⟩
    · exact (sound.assessed id work' same done).grows grows
    · cases done
    · cases move with
      | revised command live =>
        unfold revisedWork at done
        simp only at done
        split at done <;> cases done
      | stateSet command live target held explained => exact absurd done target
      | completed command opened encoded current named supported handled =>
        refine ⟨_, _, encoded, rfl, current, named, fun id member => ?_⟩
        exact (countsFor_of_supports (supported id member)).grows grows
  case completed =>
    intro id work' found' done
    rcases work_of_change change found' with same | ⟨work, rfl⟩ | ⟨row, found, move, requests⟩
    · exact requestsClosed_of_change change (workId same) (.inl done)
        (sound.completed id work' same done)
    · cases done
    · rw [if_neg (by simp [done])] at requests
      cases move with
      | revised command live =>
        unfold revisedWork at done
        simp only at done
        split at done <;> cases done
      | stateSet command live target held explained => exact absurd done target
      | completed command opened encoded current named supported handled =>
        intro id q foundRequest ofWork required
        rw [requests] at foundRequest
        exact handled id q foundRequest ofWork required
  case cancelled =>
    intro id work' found' done
    rcases work_of_change change found' with same | ⟨work, rfl⟩ | ⟨row, found, move, requests⟩
    · exact requestsClosed_of_change change (workId same) (.inr done)
        (sound.cancelled id work' same done)
    · cases done
    · rw [if_pos done] at requests
      intro id q foundRequest ofWork _
      have sameWork : work'.id = row.id := by cases move <;> rfl
      rw [Table.find?_updateWhere requests (fun _ _ => rfl), Option.map_eq_some_iff] at foundRequest
      obtain ⟨old, _, same⟩ := foundRequest
      split at same
      · rw [← same]
        rfl
      · rename_i kept
        rw [same, isUnclosed, ofWork, sameWork] at kept
        simpa using kept
  case outcome =>
    intro id q found
    have checked := Table.check_of_find? found
    simp only [collaborationRequests, Bool.and_eq_true, beq_iff_eq] at checked
    rw [← checked.2, decide_eq_true_iff]
  case instruction =>
    intro id q found
    unfold deferredForeignKeys at committed
    simp only [Bool.and_eq_true, List.all_eq_true, Option.isSome_iff_exists] at committed
    exact committed.2 q (Table.mem_of_find? found)
  case returned =>
    intro id q' found' state
    rcases request_of_change change found' with same | ⟨pending, _, _⟩ | ⟨q, _, rfl⟩ | ⟨q, found, move⟩
    · exact (sound.returned id q' same state).grows grows
    · rw [pending] at state
      cases state
    · cases state
    · cases move with
      | responded command actor delivered current opened pending =>
        simp only at state
        split at state <;> cases state
      | returned command returns =>
        have left := returnedResult_of_move command returns applies
        exact left
      | repaired command opened => cases state
      | closed command unclosed used => cases state

theorem worksSound_congr (sound : WorksSound host s) (works : t.works = s.works)
    (requests : t.collaborationRequests = s.collaborationRequests)
    (instructions : t.collaborationInstructions = s.collaborationInstructions)
    (results : t.workResults = s.workResults) (reuse : t.workResultReuse = s.workResultReuse) :
    WorksSound host t := by
  have grows : EvidenceGrows s t := by
    constructor
    · rw [instructions]
      exact .refl _
    · rw [results]
      exact .refl _
    · rw [reuse]
      exact .refl _
  constructor
  case assessed =>
    rw [works]
    exact fun id work found done => (sound.assessed id work found done).grows grows
  case completed =>
    unfold RequestsClosed
    rw [works, requests]
    exact sound.completed
  case cancelled =>
    unfold RequestsClosed
    rw [works, requests]
    exact sound.cancelled
  case outcome =>
    rw [requests]
    exact sound.outcome
  case instruction =>
    rw [requests, instructions]
    exact sound.instruction
  case returned =>
    rw [requests]
    exact fun id q found state => (sound.returned id q found state).grows grows

theorem workStep_sound (step : WorkStep host s event t) (sound : WorksSound host s) :
    WorksSound host t := by
  cases workStep_change step with
  | applied applies committed =>
    exact worksSound_congr (sound_of_apply sound applies committed) rfl rfl rfl rfl rfl
  | same works requests instructions results reuse other =>
    exact worksSound_congr sound works requests instructions results reuse

theorem cancelled_stays {call : WorkCall}
    (change : WorkChange host s call t.works t.collaborationRequests) {id : String} {work : WorkRow}
    (found : s.works.find? id = some work) (cancelled : work.state = .cancelled) :
    t.works.find? id = some work := by
  cases change with
  | kept quiet sameWorks sameRequests =>
    rw [sameWorks]
    exact found
  | created new command inserted sameRequests => exact Table.grows_insert inserted id work found
  | moved row row' foundRow move updated requests =>
    rw [updated]
    split
    · rename_i same
      rw [same, foundRow] at found
      cases found
      cases move with
      | revised command live => exact absurd cancelled live
      | stateSet command live target held explained => exact absurd cancelled live.2
      | completed command opened encoded current named supported handled =>
        rw [opened] at cancelled
        cases cancelled
    · exact found
  | requested q quiet sameWorks opened pending inserted =>
    rw [sameWorks]
    exact found
  | requestMoved q q' foundRequest move sameWorks updated =>
    rw [sameWorks]
    exact found

theorem used_of_change {call : WorkCall}
    (change : WorkChange host s call t.works t.collaborationRequests) {id : String}
    {q' : CollaborationRequestRow} (found' : t.collaborationRequests.find? id = some q')
    (used : q'.outcome = some "used") (closed : q'.state = .closed) :
    s.collaborationRequests.find? id = some q' ∨ ∃ q,
      s.collaborationRequests.find? id = some q ∧ q.state = .returned ∧
        q.instructionId = q'.instructionId ∧ ForCurrentRequirements s q := by
  rcases request_of_change change found' with same | ⟨_, none, _⟩ | ⟨q, _, rfl⟩ | ⟨q, found, move⟩
  · exact .inl same
  · rw [none] at used
    cases used
  · simp [cancelledRequest] at used
  · cases move with
    | responded command actor delivered current opened pending =>
      simp only at used
      split at used <;> simp at used
    | returned command returns => cases closed
    | repaired command opened => cases used
    | closed command unclosed usable =>
      obtain ⟨returned, current⟩ := usable (Option.some.inj used)
      exact .inr ⟨q, found, returned, rfl, current⟩

theorem pending_of_change {call : WorkCall}
    (change : WorkChange host s call t.works t.collaborationRequests) {id : String}
    {q q' : CollaborationRequestRow} (found : s.collaborationRequests.find? id = some q)
    (pending : q.state = .pending) (found' : t.collaborationRequests.find? id = some q')
    (moved : q'.state = .accepted ∨ q'.state = .returned) :
    q'.instructionId = q.instructionId ∧ Delivered s q ∧ AnswersCurrent q call := by
  rcases request_of_change change found' with same | ⟨waits, _, _⟩ | ⟨old, _, rfl⟩ | ⟨old, same, move⟩
  · rw [found] at same
    cases same
    rw [pending] at moved
    rcases moved with h | h <;> cases h
  · rw [waits] at moved
    rcases moved with h | h <;> cases h
  · rcases moved with h | h <;> cases h
  · rw [found] at same
    cases same
    cases move with
    | @responded accept note command actor delivered current opened pending =>
      cases accept with
      | false => rcases moved with h | h <;> cases h
      | true => exact ⟨rfl, delivered, actor, .inl ⟨note, command⟩⟩
    | @returned result command returns =>
      exact ⟨rfl, returns.delivered, returns.actor, .inr ⟨result, command, returns.names⟩⟩
    | repaired command opened => rcases moved with h | h <;> cases h
    | closed command unclosed used => rcases moved with h | h <;> cases h

/-- A late Result is no return of the current instruction. -/
theorem late_not_current {call : WorkCall} {result : WorkResult} {row : CollaborationRequestRow}
    (found : s.collaborationRequests.find? row.id = some row)
    (returns : ReturnsCurrent s call result row) : ¬Late s result := by
  rintro (⟨work, foundWork, ended⟩ | ⟨i, q, member, named, foundRequest, stale⟩)
  · rw [returns.ofWork] at foundWork
    have liveWork : work.state = .opened ∨ work.state = .blocked := by
      rcases returns.live with ⟨w, foundW, state⟩ | ⟨w, foundW, state⟩ <;>
        · rw [foundWork] at foundW
          cases foundW
          simp [state]
    obtain ⟨w, foundW, same⟩ := returns.revision
    rw [foundWork] at foundW
    cases foundW
    rcases ended with superseded | cancelled | completed
    · exact superseded same
    · simp [cancelled] at liveWork
    · simp [completed] at liveWork
  · obtain ⟨j, w, instructed, _, _⟩ := returns.current
    rw [returns.names, Option.some_inj] at named
    have key := Table.key_of_find? instructed
    have same : i = j := by
      apply instruction_unique member (Table.mem_of_find? instructed)
      rw [← named]
      exact (congrArg Prod.snd key).symm
    have request : i.requestId = row.id := by
      rw [same]
      exact congrArg Prod.fst key
    rw [request, found] at foundRequest
    cases foundRequest
    rcases stale with superseded | closed
    · exact superseded named
    · exact returns.unclosed closed

/-- A late Result is recorded and changes nothing else. -/
theorem late_result_ok {now : Int} {call : WorkCall} {result : WorkResult} (late : Late s result)
    (success : recordResult host now s call.actor result = .ok t) :
    t = { s with workResults := t.workResults } := by
  obtain ⟨_, ⟨row, rows, _, found, _, returns⟩ | kept⟩ := recordResult_ok success
  · exact absurd late (late_not_current found returns)
  · exact kept

theorem workStep_stepSound (sound : WorksSound host t) (step : WorkStep host s event t) :
    StepSound s event t := by
  cases workStep_change step with
  | @applied call now done rows applies committed =>
    have change := (apply_change applies).1
    constructor
    case cancelled => exact fun id work found => cancelled_stays change found
    case used =>
      intro id q' found' used
      have closed := (sound.outcome id q' found').mpr (by simp [used])
      exact used_of_change change found' used closed
    case pending =>
      intro id q q' found waits found' moved
      obtain ⟨same, delivered, answers⟩ := pending_of_change change found waits found' moved
      exact ⟨same, delivered, call, rfl, answers⟩
    case late =>
      intro call' result same command late
      cases same
      rw [command] at applies
      have kept := late_result_ok late applies
      rw [kept]
  | same works requests instructions results reuse other =>
    constructor
    case cancelled =>
      intro id work found _
      rw [works]
      exact found
    case used =>
      intro id q' found' _
      rw [requests] at found'
      exact .inl found'
    case pending =>
      intro id q q' found waits found' moved
      rw [requests, found] at found'
      cases found'
      rw [waits] at moved
      rcases moved with h | h <;> cases h
    case late => exact fun call result same => absurd same (other call)

theorem worksSound_fresh (noWorks : start.works.rows = [])
    (noRequests : start.collaborationRequests.rows = []) : WorksSound host start := by
  have works (id : String) : start.works.find? id = none := by
    rw [Table.find?_eq_none_iff, noWorks]
    simp
  have requests (id : String) : start.collaborationRequests.find? id = none := by
    rw [Table.find?_eq_none_iff, noRequests]
    simp
  constructor <;> simp [works, requests]

/-- Collaboration and completion are sound in every reachable state and in every step from
one, and a cancelled Work stays the row it is for ever. -/
theorem collaboration_and_completion_are_sound (host : WorkHost) (start store : WorkStore)
    (events : List WorkEvent) (noWorks : start.works.rows = [])
    (noRequests : start.collaborationRequests.rows = [])
    (run : Run (WorkStep host) start events store) :
    WorksSound host store ∧
    (∀ event after, WorkStep host store event after → StepSound store event after) ∧
    ∀ later final, Run (WorkStep host) store later final → ∀ id work,
      store.works.find? id = some work → work.state = .cancelled →
      final.works.find? id = some work := by
  have sound : WorksSound host store :=
    Run.invariant (fun _ _ _ step => workStep_sound step) run
      (worksSound_fresh noWorks noRequests)
  refine ⟨sound, fun event after step => workStep_stepSound (workStep_sound step sound) step, ?_⟩
  intro later final rest id work found cancelled
  have stays : ∀ middle event after, WorkStep host middle event after ∧ WorksSound host middle →
      middle.works.find? id = some work → after.works.find? id = some work := by
    intro middle event after step kept
    have stepSound := workStep_stepSound (workStep_sound step.1 step.2) step.1
    exact stepSound.cancelled id work kept cancelled
  have checked := rest.strengthen (fun _ _ _ step => workStep_sound step) sound
  have kept := Run.invariant stays checked found
  exact kept

def sampleRequirements : WorkRequirements :=
  ⟨"r1", "Prepare an accessible plan", "Sources and costs are checked", "explicit-user-decision"⟩

def sampleWork : Work :=
  ⟨"venue", none, "sage", "venue", sampleRequirements, .opened, none, none, false, none⟩

def sampleResult : WorkResult :=
  ⟨"e1", "venue", "r1", none, none, "sage", "Checked the plan", .nativeItem "sage" "turn" "item",
    ""⟩

def sampleAssessment : WorkAssessment := ⟨"r1", ["e1"], "The criteria are met", ""⟩

def sampleCreate : WorkCall := ⟨"sage", "work", .create sampleWork, true⟩

def sampleRecord : WorkCall := ⟨"sage", "result", .recordResult sampleResult, false⟩

def sampleComplete : WorkCall := ⟨"sage", "done", .complete "venue" "r1" sampleAssessment, false⟩

def sampleRequirementsJson : String :=
  "\x7b\"id\":\"r1\",\"goal\":\"Prepare an accessible plan\"," ++
  "\"criteria\":\"Sources and costs are checked\",\"source\":\"explicit-user-decision\"\x7d"

def sampleResultJson : String :=
  "\x7b\"id\":\"e1\",\"work_id\":\"venue\",\"requirements_id\":\"r1\",\"instruction_id\":null," ++
  "\"native_contribution_id\":null,\"agent_id\":\"sage\",\"summary\":\"Checked the plan\"," ++
  "\"source\":\x7b\"kind\":\"native_item\",\"thread_id\":\"sage\",\"turn_id\":\"turn\"," ++
  "\"item_id\":\"item\"\x7d,\"limits\":\"\"\x7d"

def sampleAssessmentJson : String :=
  "\x7b\"requirements_id\":\"r1\",\"result_ids\":[\"e1\"],\"summary\":\"The criteria are met\"," ++
  "\"limits\":\"\"\x7d"

def sampleTexts : List (WorkRecord × String) := [
  (.command (.create sampleWork),
    "\x7b\"operation\":\"create\",\"work\":\x7b\"id\":\"venue\",\"project_id\":null," ++
    "\"owner_agent_id\":\"sage\",\"title\":\"venue\",\"requirements\":" ++
    sampleRequirementsJson ++ ",\"state\":\"open\",\"reason\":null,\"resume_condition\":null," ++
    "\"user_hold\":false,\"assessment\":null\x7d\x7d"),
  (.command (.recordResult sampleResult),
    "\x7b\"operation\":\"record_result\",\"result\":" ++ sampleResultJson ++ "\x7d"),
  (.result sampleResult, sampleResultJson),
  (.command (.complete "venue" "r1" sampleAssessment),
    "\x7b\"operation\":\"complete\",\"work_id\":\"venue\",\"expected_requirements\":\"r1\"," ++
    "\"assessment\":" ++ sampleAssessmentJson ++ "\x7d"),
  (.assessment sampleAssessment, sampleAssessmentJson)]

/-- The serializer on the records of `texts`. -/
def hostOf (texts : List (WorkRecord × String)) : WorkHost where
  toJson record := List.lookup record texts
  sourceText := fun _ => ""
  readAssessment text := texts.findSome? fun entry => match entry with
    | (.assessment assessment, json) => if json = text then some assessment else none
    | _ => none
  readMaterialIds _ := none
  isJson _ := true
  inboxPayload _ := none

def sampleStart : WorkStore where
  agents := ["sage"]
  agentWorkItems := ["sage"]
  projects := []
  agentInboxEvents := .empty
  inboxSequence := 0
  works := .empty
  workRequirements := .empty
  workMaterials := .empty
  workResults := .empty
  workResultReuse := .empty
  collaborationRequests := .empty
  collaborationInstructions := .empty
  nativeWorkContributions := .empty
  workCommands := .empty

/-- A new call that is accepted. -/
def callOnce (host : WorkHost) (store : WorkStore) (call : WorkCall) : Option WorkStore :=
  if (store.workCommands.find? call.commandId).isNone then
    (applyWorkCommand host 1 store call).toOption
  else none

theorem callOnce_step {call : WorkCall} (called : callOnce host s call = some t) :
    WorkStep host s (.applied call) t := by
  unfold callOnce at called
  split at called
  · rename_i fresh
    rw [Option.isNone_iff_eq_none] at fresh
    cases result : applyWorkCommand host 1 s call with
    | error error =>
      rw [result] at called
      cases called
    | ok after =>
      rw [result] at called
      cases called
      exact .applied fresh result
  · cases called

def callAll (host : WorkHost) (store : WorkStore) : List WorkCall → Option WorkStore
  | [] => some store
  | call :: rest => (callOnce host store call).bind fun after => callAll host after rest

theorem callAll_run {calls : List WorkCall} (called : callAll host s calls = some t) :
    Run (WorkStep host) s (calls.map .applied) t := by
  induction calls generalizing s with
  | nil =>
    cases called
    exact .nil _
  | cons call rest ih =>
    rw [callAll, Option.bind_eq_some_iff] at called
    obtain ⟨middle, first, called⟩ := called
    exact .cons (callOnce_step first) (ih called)

/-- What was evaluated of some calls and of the store they lead to. -/
theorem callAll_any {calls : List WorkCall} {facts : WorkStore → Bool}
    (evaluated : (callAll host s calls).any facts = true) :
    ∃ t, Run (WorkStep host) s (calls.map .applied) t ∧ facts t = true := by
  obtain ⟨t, called, holds⟩ := (Option.any_eq_true _ _).mp evaluated
  exact ⟨t, callAll_run called, holds⟩

/-- Facts of the row of a Work. -/
def workIs (id : String) (facts : WorkRow → Bool) (store : WorkStore) : Bool :=
  (store.works.find? id).any facts

theorem workIs_row {id : String} {facts : WorkRow → Bool} (holds : workIs id facts s = true) :
    ∃ work, s.works.find? id = some work ∧ facts work = true :=
  (Option.any_eq_true _ _).mp holds

def sampleCalls : List WorkCall := [sampleCreate, sampleRecord, sampleComplete]

theorem sample_completion_is_sound : ∃ store,
    workIs "venue" (·.state == .completed) store = true ∧
      WorksSound (hostOf sampleTexts) store := by
  have evaluated : (callAll (hostOf sampleTexts) sampleStart sampleCalls).any
      (workIs "venue" (·.state == .completed)) = true := by decide +kernel
  obtain ⟨store, run, completed⟩ := callAll_any evaluated
  exact ⟨store, completed,
    (collaboration_and_completion_are_sound _ sampleStart store _ rfl rfl run).1⟩

end Decodex.Guarantees.Works
