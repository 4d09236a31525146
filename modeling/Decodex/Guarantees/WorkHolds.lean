import Decodex.Guarantees.Works

/-!
# A user hold binds the Agents

`set_state` lets the user set `user_hold` on an open Work, and `revise` reopens a blocked Work
without clearing its reason and resume condition, as `complete` does. Away from these two
commands the hold binds every Agent, and a reason is that of the last state that was set.
-/
namespace Decodex.Guarantees.WorkHolds

open Decodex.Library Decodex.Source.Core Decodex.Source.Store.Works
open Decodex.Guarantees.Works

variable {host : WorkHost} {s t start store : WorkStore} {event : WorkEvent}
  {events : List WorkEvent}

/-- State, reason and resume condition that an applied `SetState` of the Work has set. -/
def setBy (workId : String) : WorkEvent → Option (WorkState × Option String × Option String)
  | .applied call => match call.command with
    | .setState id _ state reason resumeCondition _ =>
      if id = workId then some (state, reason, resumeCondition) else none
    | _ => none
  | _ => none

/-- What the last `SetState` of the Work has set. -/
def lastSet (workId : String) (events : List WorkEvent) :
    Option (WorkState × Option String × Option String) :=
  events.reverse.findSome? (setBy workId)

theorem lastSet_append (workId : String) (events : List WorkEvent) (event : WorkEvent) :
    lastSet workId (events ++ [event]) = (setBy workId event).or (lastSet workId events) := by
  unfold lastSet
  rw [List.reverse_append, List.reverse_singleton, List.singleton_append, List.findSome?_cons]
  cases setBy workId event <;> rfl

/-- The user completed the Work, or cancelled it. -/
def EndedByUser (events : List WorkEvent) (work : WorkRow) : Prop :=
  ∃ call, WorkEvent.applied call ∈ events ∧ call.userAuthority = true ∧
    ((work.state = .completed ∧
        ∃ expected assessment, call.command = .complete work.id expected assessment) ∨
      (work.state = .cancelled ∧ ∃ expected reason resumeCondition userHold,
        call.command = .setState work.id expected .cancelled reason resumeCondition userHold))

/-- The Works of a store after the events of its run. A reason or resume condition of an open
Work is left over unless the last `SetState` opened the Work with it. -/
structure HoldsKept (events : List WorkEvent) (store : WorkStore) : Prop where
  blocked : ∀ id work, store.works.find? id = some work → work.state = .blocked →
    Explained work.reason work.resumeCondition
  held : ∀ id work, store.works.find? id = some work → work.userHold = true →
    work.state = .blocked ∨ EndedByUser events work
  unheld : ∀ id work, store.works.find? id = some work → work.state = .opened →
    work.userHold = false →
    (work.reason = none ∧ work.resumeCondition = none) ∨
      lastSet work.id events = some (.opened, work.reason, work.resumeCondition)

/-- Without the authority of the user a step leaves every held Work as it is, except that a
revision replaces the requirements of a blocked one and clears its assessment. -/
def BindsAgents (s : WorkStore) (event : WorkEvent) (t : WorkStore) : Prop :=
  ∀ call, event = .applied call → call.userAuthority = false →
    ∀ id work, s.works.find? id = some work → work.userHold = true →
      t.works.find? id = some work ∨ ∃ expected r,
        call.command = .revise id expected r ∧ work.state = .blocked ∧
        t.works.find? id = some { work with requirementsId := r.id, assessmentJson := none }

/-- The condition: no applied `SetState` opens a Work under a hold, and no applied `Revise`
reopens a blocked Work. -/
def Guarded (s : WorkStore) : WorkEvent → Prop
  | .applied call => match call.command with
    | .setState _ _ state _ _ userHold => ¬(state = .opened ∧ userHold = true)
    | .revise workId _ _ => ∀ work, s.works.find? workId = some work → work.state = .blocked →
        work.userHold = true
    | _ => True
  | _ => True

/-- The row of a Work after a step. -/
inductive RowOrigin (host : WorkHost) (s : WorkStore) (event : WorkEvent) (id : String)
    (work' : WorkRow) : Prop
  | same (found : s.works.find? id = some work') (quiet : setBy id event = none)
  | new (call : WorkCall) (work : Work) (applied : event = .applied call)
      (command : call.command = .create work) (row : work' = newWork work call.actor)
  | moved (call : WorkCall) (row : WorkRow) (applied : event = .applied call)
      (found : s.works.find? id = some row) (move : WorkMove host s call row work')

theorem setBy_quiet {call : WorkCall} {id : String} (quiet : movedWork call.command ≠ some id) :
    setBy id (.applied call) = none := by
  cases command : call.command with
  | setState workId expected state reason resumeCondition userHold =>
    rw [command] at quiet
    simp only [setBy, command]
    apply if_neg
    intro same
    exact quiet (congrArg some same)
  | _ => simp only [setBy, command]

theorem setBy_of_command {call : WorkCall} {id expected : String} {state : WorkState}
    {reason resumeCondition : Option String} {userHold : Bool}
    (command : call.command = .setState id expected state reason resumeCondition userHold) :
    setBy id (.applied call) = some (state, reason, resumeCondition) := by
  simp [setBy, command]

/-- A moved Work is the one its command names. -/
theorem movedWork_of_move {call : WorkCall} {row row' : WorkRow}
    (move : WorkMove host s call row row') : movedWork call.command = some row.id := by
  cases move with
  | revised command live =>
    rw [command]
    rfl
  | stateSet command live target held explained =>
    rw [command]
    rfl
  | completed command opened encoded current named supported handled =>
    rw [command]
    rfl

theorem movedWork_of_requestMove {call : WorkCall} {q q' : CollaborationRequestRow}
    (move : RequestMove s call q q') : movedWork call.command = none := by
  cases move with
  | responded command =>
    rw [command]
    rfl
  | returned command =>
    rw [command]
    rfl
  | repaired command =>
    rw [command]
    rfl
  | closed command =>
    rw [command]
    rfl

theorem row_origin (step : WorkStep host s event t) {id : String} {work' : WorkRow}
    (found' : t.works.find? id = some work') : RowOrigin host s event id work' := by
  cases workStep_change step with
  | same works requests instructions results reuse other =>
    rw [works] at found'
    refine .same found' ?_
    cases event with
    | applied call => exact absurd rfl (other call)
    | kept call => rfl
    | outside => rfl
  | @applied call now done rows applies committed =>
    cases (apply_change applies).1 with
    | kept quiet sameWorks sameRequests =>
      rw [sameWorks] at found'
      exact .same found' (setBy_quiet (by simp [quiet]))
    | created work command inserted sameRequests =>
      rw [Table.find?_insert inserted] at found'
      split at found'
      · cases found'
        exact .new call work rfl command rfl
      · exact .same found' (setBy_quiet (by simp [command, movedWork]))
    | moved row row' found move updated requests =>
      rw [updated] at found'
      split at found'
      · rename_i same
        cases found'
        rw [same]
        exact .moved call row rfl found move
      · rename_i other
        refine .same found' (setBy_quiet ?_)
        rw [movedWork_of_move move]
        simpa using Ne.symm other
    | requested q quiet sameWorks opened pending inserted =>
      rw [sameWorks] at found'
      exact .same found' (setBy_quiet (by simp [quiet]))
    | requestMoved q q' found move sameWorks updated =>
      rw [sameWorks] at found'
      exact .same found' (setBy_quiet (by simp [movedWork_of_requestMove move]))

/-- What a guarded run keeps of one Work: an open or completed one is not held, a blocked one
carries what blocked it, and a completed one carries nothing. -/
structure RowInv (events : List WorkEvent) (work : WorkRow) : Prop where
  blocked : work.state = .blocked → Explained work.reason work.resumeCondition ∧
    lastSet work.id events = some (.blocked, work.reason, work.resumeCondition)
  completed : work.state = .completed → work.reason = none ∧ work.resumeCondition = none
  held : work.userHold = true →
    work.state = .blocked ∨ (work.state = .cancelled ∧ EndedByUser events work)
  unheld : work.state = .opened → work.userHold = false →
    (work.reason = none ∧ work.resumeCondition = none) ∨
      lastSet work.id events = some (.opened, work.reason, work.resumeCondition)

def HoldInv (events : List WorkEvent) (store : WorkStore) : Prop :=
  ∀ id work, store.works.find? id = some work → RowInv events work

theorem HoldInv.kept (inv : HoldInv events store) : HoldsKept events store where
  blocked id work found state := ((inv id work found).blocked state).1
  held id work found hold := ((inv id work found).held hold).imp_right And.right
  unheld id work found := (inv id work found).unheld

theorem EndedByUser.append {work : WorkRow} (ended : EndedByUser events work) (event : WorkEvent) :
    EndedByUser (events ++ [event]) work := by
  obtain ⟨call, member, ended⟩ := ended
  exact ⟨call, List.mem_append_left _ member, ended⟩

/-- An event that sets nothing of the Work. -/
theorem RowInv.append {work : WorkRow} (inv : RowInv events work)
    (quiet : setBy work.id event = none) : RowInv (events ++ [event]) work := by
  have same : lastSet work.id (events ++ [event]) = lastSet work.id events := by
    rw [lastSet_append, quiet, Option.none_or]
  constructor
  · rw [same]
    exact inv.blocked
  · exact inv.completed
  · intro hold
    rcases inv.held hold with blocked | ⟨cancelled, ended⟩
    · exact .inl blocked
    · exact .inr ⟨cancelled, ended.append event⟩
  · rw [same]
    exact inv.unheld

theorem rowInv_new (work : Work) (actor : String) : RowInv events (newWork work actor) := by
  constructor
  · intro state
    cases state
  · intro state
    cases state
  · intro hold
    cases hold
  · exact fun _ _ => .inl ⟨rfl, rfl⟩

/-- A guarded command keeps the invariant of the Work it moves. -/
theorem rowInv_of_move {call : WorkCall} {row row' : WorkRow} (inv : RowInv events row)
    (found : s.works.find? row.id = some row) (guarded : Guarded s (.applied call))
    (move : WorkMove host s call row row') : RowInv (events ++ [.applied call]) row' := by
  cases move with
  | @revised expected r command live =>
    have quiet : setBy row.id (.applied call) = none := by
      simp only [setBy, command]
    have later := inv.append quiet
    have reopened := guarded
    simp only [Guarded, command] at reopened
    cases hold : row.userHold with
    | true =>
      have blocked : row.state = .blocked := by
        rcases inv.held hold with blocked | ⟨cancelled, _⟩
        · exact blocked
        · exact absurd cancelled live
      constructor <;> simp only [revisedWork, hold, if_true]
      · exact fun _ => later.blocked blocked
      · intro state
        cases state
      · exact fun _ => .inl trivial
      · intro state
        cases state
    | false =>
      constructor <;> simp only [revisedWork, hold, Bool.false_eq_true, if_false]
      · intro state
        cases state
      · intro state
        cases state
      · intro held
        cases held
      · intro _ _
        cases state : row.state with
        | opened => exact later.unheld state hold
        | blocked =>
          have held := reopened row found state
          rw [hold] at held
          cases held
        | completed => exact .inl (inv.completed state)
        | cancelled => exact absurd state live
  | @stateSet expected state reason resumeCondition userHold command live target held explained =>
    have opens := guarded
    simp only [Guarded, command] at opens
    have last : lastSet row.id (events ++ [.applied call])
        = some (state, reason, resumeCondition) := by
      rw [lastSet_append, setBy_of_command command]
      rfl
    constructor <;> simp only [setWorkState]
    · intro blocked
      rw [last, blocked]
      exact ⟨explained blocked, rfl⟩
    · exact fun completed => absurd completed target
    · intro hold
      cases state with
      | opened => exact absurd ⟨rfl, hold⟩ opens
      | blocked => exact .inl rfl
      | completed => exact absurd rfl target
      | cancelled =>
        exact .inr ⟨rfl, call, by simp, held (.inr hold), .inr ⟨rfl, expected, reason,
          resumeCondition, userHold, command⟩⟩
    · intro opened _
      rw [last, opened]
      exact .inr rfl
  | @completed expected json assessment command opened encoded current named supported handled =>
    constructor <;> simp only [completedWork]
    · intro state
      cases state
    · exact fun _ => ⟨trivial, trivial⟩
    · intro hold
      rcases inv.held hold with blocked | ⟨cancelled, _⟩
      · rw [opened] at blocked
        cases blocked
      · rw [opened] at cancelled
        cases cancelled
    · intro state
      cases state

theorem holdInv_step (step : WorkStep host s event t) (guarded : Guarded s event)
    (inv : HoldInv events s) : HoldInv (events ++ [event]) t := by
  intro id work' found'
  have sameId : work'.id = id := Table.key_of_find? found'
  cases row_origin step found' with
  | same found quiet =>
    rw [← sameId] at quiet
    exact (inv id work' found).append quiet
  | new call work applied command row =>
    rw [row]
    exact rowInv_new work call.actor
  | moved call row applied found move =>
    subst applied
    have rowId : row.id = id := Table.key_of_find? found
    have keyed : s.works.find? row.id = some row := by
      rw [rowId]
      exact found
    exact rowInv_of_move (inv id row found) keyed guarded move

theorem applied_change {call : WorkCall} (step : WorkStep host s (.applied call) t) :
    WorkChange host s call t.works t.collaborationRequests := by
  cases workStep_change step with
  | applied applies committed => exact (apply_change applies).1
  | same works requests instructions results reuse other => exact absurd rfl (other call)

/-- A Work of a guarded run is held against the Agents. -/
theorem bindsAgents_of_inv (inv : HoldInv events s) (step : WorkStep host s event t) :
    BindsAgents s event t := by
  intro call applied agent id work found hold
  subst applied
  have workId : work.id = id := Table.key_of_find? found
  have rowInv := inv id work found
  cases applied_change step with
  | kept quiet sameWorks sameRequests =>
    rw [sameWorks]
    exact .inl found
  | created new command inserted sameRequests =>
    exact .inl (Table.grows_insert inserted id work found)
  | moved row row' foundRow move updated requests =>
    rw [updated]
    split
    · rename_i same
      rw [same, foundRow] at found
      cases found
      cases move with
      | @revised expected r command live =>
        have blocked : work.state = .blocked := by
          rcases rowInv.held hold with blocked | ⟨cancelled, _⟩
          · exact blocked
          · exact absurd cancelled live
        refine .inr ⟨expected, r, ?_, blocked, ?_⟩
        · rw [command, same]
        · simp [revisedWork, hold, blocked]
      | stateSet command live target held explained =>
        have user := held (.inl hold)
        rw [agent] at user
        cases user
      | completed command opened encoded current named supported handled =>
        rcases rowInv.held hold with blocked | ⟨cancelled, _⟩
        · rw [opened] at blocked
          cases blocked
        · rw [opened] at cancelled
          cases cancelled
    · exact .inl found
  | requested q quiet sameWorks opened pending inserted =>
    rw [sameWorks]
    exact .inl found
  | requestMoved q q' foundRequest move sameWorks updated =>
    rw [sameWorks]
    exact .inl found

/-- The row that a command moves, before and after. -/
theorem moved_row {call : WorkCall} (step : WorkStep host s (.applied call) t) {id : String}
    (moves : movedWork call.command = some id) : ∃ row row', row.id = id ∧
      s.works.find? id = some row ∧ t.works.find? id = some row' ∧
      WorkMove host s call row row' := by
  cases applied_change step with
  | kept quiet sameWorks sameRequests =>
    rw [quiet] at moves
    cases moves
  | created work command inserted sameRequests =>
    rw [command] at moves
    cases moves
  | moved row row' found move updated requests =>
    rw [movedWork_of_move move] at moves
    cases moves
    refine ⟨row, row', rfl, found, ?_, move⟩
    rw [updated, if_pos rfl]
  | requested q quiet sameWorks opened pending inserted =>
    rw [quiet] at moves
    cases moves
  | requestMoved q q' found move sameWorks updated =>
    rw [movedWork_of_requestMove move] at moves
    cases moves

/-- An unguarded command unbinds the hold. -/
theorem guarded_of_kept (inv : HoldInv events s) (step : WorkStep host s event t)
    (kept : HoldsKept (events ++ [event]) t) : Guarded s event := by
  cases event with
  | kept call => trivial
  | outside => trivial
  | applied call =>
    cases command : call.command with
    | setState workId expected state reason resumeCondition userHold =>
      simp only [Guarded, command]
      rintro ⟨rfl, rfl⟩
      obtain ⟨row, row', sameId, found, found', move⟩ := moved_row step (by rw [command]; rfl)
      cases move with
      | revised other =>
        rw [command] at other
        cases other
      | stateSet same =>
        rw [command] at same
        cases same
        rcases kept.held _ _ found' rfl with blocked | ⟨_, _, _, ⟨completed, _⟩ | ⟨cancelled, _⟩⟩
        · cases blocked
        · cases completed
        · cases cancelled
      | completed other =>
        rw [command] at other
        cases other
    | revise workId expected r =>
      simp only [Guarded, command]
      intro work found blocked
      by_contra free
      obtain ⟨row, row', sameId, foundRow, found', move⟩ := moved_row step (by rw [command]; rfl)
      rw [found] at foundRow
      cases foundRow
      obtain ⟨⟨⟨reason, hasReason, _⟩, _⟩, last⟩ := (inv _ _ found).blocked blocked
      cases move with
      | revised same =>
        rw [command] at same
        cases same
        have quiet : setBy work.id (.applied call) = none := by simp only [setBy, command]
        rcases kept.unheld _ _ found' (by simp [revisedWork, free]) (by simp [revisedWork, free])
          with ⟨none, _⟩ | left
        · simp [revisedWork, hasReason] at none
        · rw [lastSet_append] at left
          simp [revisedWork, quiet, last] at left
      | stateSet other =>
        rw [command] at other
        cases other
      | completed other =>
        rw [command] at other
        cases other
    | _ => simp only [Guarded, command]

theorem holdInv_fresh (noWorks : start.works.rows = []) : HoldInv [] start := by
  intro id work found
  have none : start.works.find? id = none := by
    rw [Table.find?_eq_none_iff, noWorks]
    simp
  rw [found] at none
  cases none

/-- In every run whose steps are guarded the hold of the user binds the Agents. The first step
that is not guarded breaks it. -/
theorem user_hold_binds_iff_guarded (host : WorkHost) (start store : WorkStore)
    (events : List WorkEvent) (noWorks : start.works.rows = [])
    (run : Run (fun s event t => WorkStep host s event t ∧ Guarded s event) start events store) :
    HoldsKept events store ∧
    ∀ event after, WorkStep host store event after → BindsAgents store event after ∧
      (Guarded store event ↔ HoldsKept (events ++ [event]) after) := by
  have inv : HoldInv events store :=
    Run.history HoldInv (fun _ _ _ _ step held => holdInv_step step.1 step.2 held) run
      (holdInv_fresh noWorks)
  refine ⟨inv.kept, fun event after step => ⟨bindsAgents_of_inv inv step, fun guarded => ?_,
    guarded_of_kept inv step⟩⟩
  exact (holdInv_step step guarded inv).kept

/-- The user holds the open Work. -/
def sampleHold : WorkCall :=
  ⟨"sage", "hold", .setState "venue" "r1" .opened none none true, true⟩

/-- The user pauses the Work. -/
def samplePause : WorkCall :=
  ⟨"sage", "pause", .setState "venue" "r1" .blocked (some "User paused") (some "User release") true,
    true⟩

/-- The Agent blocks its own Work. -/
def sampleBlock : WorkCall :=
  ⟨"sage", "block", .setState "venue" "r1" .blocked (some "No quotes") (some "Quotes arrive") false,
    false⟩

def sampleRevision : WorkRequirements :=
  ⟨"r2", "Prepare an accessible plan", "Sources and costs are checked", "explicit-user-decision"⟩

def sampleRevise : WorkCall := ⟨"sage", "revise", .revise "venue" "r1" sampleRevision, true⟩

def setStateJson (fields : String) : String :=
  "\x7b\"operation\":\"set_state\",\"work_id\":\"venue\",\"expected_requirements\":\"r1\"," ++
    fields ++ "\x7d"

def holdTexts : List (WorkRecord × String) := sampleTexts ++ [
  (.command sampleHold.command,
    setStateJson
      "\"state\":\"open\",\"reason\":null,\"resume_condition\":null,\"user_hold\":true"),
  (.command samplePause.command,
    setStateJson ("\"state\":\"blocked\",\"reason\":\"User paused\"," ++
      "\"resume_condition\":\"User release\",\"user_hold\":true")),
  (.command sampleBlock.command,
    setStateJson ("\"state\":\"blocked\",\"reason\":\"No quotes\"," ++
      "\"resume_condition\":\"Quotes arrive\",\"user_hold\":false")),
  (.command sampleRevise.command,
    "\x7b\"operation\":\"revise\",\"work_id\":\"venue\",\"expected_requirements\":\"r1\"," ++
    "\"requirements\":\x7b\"id\":\"r2\",\"goal\":\"Prepare an accessible plan\"," ++
    "\"criteria\":\"Sources and costs are checked\",\"source\":\"explicit-user-decision\"\x7d\x7d")]

def holdHost : WorkHost := hostOf holdTexts

/-- An open Work under a hold, as no guarded run has it. -/
theorem heldOpen_not_kept {work : WorkRow} {id : String} (found : store.works.find? id = some work)
    (opened : work.state = .opened) (hold : work.userHold = true) : ¬HoldsKept events store := by
  intro kept
  rcases kept.held id work found hold with blocked | ⟨_, _, _, ⟨ended, _⟩ | ⟨ended, _⟩⟩
  · rw [opened] at blocked
    cases blocked
  · rw [opened] at ended
    cases ended
  · rw [opened] at ended
    cases ended

def isHeldOpen (work : WorkRow) : Bool := work.state == .opened && work.userHold

/-- The Agent has completed the held Work. -/
def isCompletedByAgent (store : WorkStore) : Bool :=
  workIs "venue" isHeldOpen store &&
    (callOnce holdHost store sampleComplete).any (workIs "venue" (·.state == .completed))

/-- The Work was reopened with the reason of its block. -/
def isLeftOver (work : WorkRow) : Bool :=
  work.state == .opened && !work.userHold && work.reason.isSome && work.id == "venue"

/-- The Agent completes a Work that the user holds, a revision blocks a held Work for no reason,
and a revised Work keeps the reason of its block. -/
theorem user_hold_does_not_bind :
    (∃ events store event after, Run (WorkStep holdHost) sampleStart events store ∧
      WorkStep holdHost store event after ∧ ¬HoldsKept events store ∧
      ¬BindsAgents store event after) ∧
    (∃ events store work, Run (WorkStep holdHost) sampleStart events store ∧
      store.works.find? "venue" = some work ∧ work.state = .blocked ∧ work.reason = none) ∧
    ∃ events store, Run (WorkStep holdHost) sampleStart events store ∧ ¬HoldsKept events store := by
  refine ⟨?_, ?_, ?_⟩
  · have evaluated : (callAll holdHost sampleStart [sampleCreate, sampleHold, sampleRecord]).any
        isCompletedByAgent = true := by decide +kernel
    obtain ⟨store, run, facts⟩ := callAll_any evaluated
    rw [isCompletedByAgent, Bool.and_eq_true, Option.any_eq_true] at facts
    obtain ⟨held, after, called, completed⟩ := facts
    obtain ⟨work, found, heldOpen⟩ := workIs_row held
    obtain ⟨ended, foundAfter, completed⟩ := workIs_row completed
    rw [isHeldOpen, Bool.and_eq_true, beq_iff_eq] at heldOpen
    rw [beq_iff_eq] at completed
    refine ⟨_, store, _, after, run, callOnce_step called,
      heldOpen_not_kept found heldOpen.1 heldOpen.2, fun binds => ?_⟩
    rcases binds sampleComplete rfl rfl "venue" work found heldOpen.2 with same | ⟨_, _, command, _⟩
    · rw [foundAfter] at same
      cases same
      rw [completed] at heldOpen
      cases heldOpen.1
    · cases command
  · have evaluated : (callAll holdHost sampleStart [sampleCreate, sampleHold, sampleRevise]).any
        (workIs "venue" fun work => work.state == .blocked && work.reason.isNone) = true := by
      decide +kernel
    obtain ⟨store, run, facts⟩ := callAll_any evaluated
    obtain ⟨work, found, facts⟩ := workIs_row facts
    rw [Bool.and_eq_true, beq_iff_eq, Option.isNone_iff_eq_none] at facts
    exact ⟨_, store, work, run, found, facts⟩
  · have evaluated : (callAll holdHost sampleStart [sampleCreate, sampleBlock, sampleRevise]).any
        (workIs "venue" isLeftOver) = true := by decide +kernel
    obtain ⟨store, run, facts⟩ := callAll_any evaluated
    obtain ⟨work, found, facts⟩ := workIs_row facts
    simp only [isLeftOver, Bool.and_eq_true, beq_iff_eq, Bool.not_eq_true'] at facts
    obtain ⟨⟨⟨opened, free⟩, reason⟩, workId⟩ := facts
    refine ⟨_, store, run, fun kept => ?_⟩
    rcases kept.unheld "venue" work found opened free with ⟨none, _⟩ | left
    · rw [none] at reason
      cases reason
    · rw [workId] at left
      have last : lastSet "venue" ([sampleCreate, sampleBlock, sampleRevise].map .applied)
          = some (.blocked, some "No quotes", some "Quotes arrive") := by decide
      rw [last] at left
      cases left

/-- The user pauses a Work, and the pause is kept. -/
theorem sample_pause_is_kept : ∃ store, workIs "venue" (·.userHold) store = true ∧
    HoldsKept [.applied sampleCreate, .applied samplePause] store := by
  have evaluated : (callAll holdHost sampleStart [sampleCreate]).any
      (fun store => (callOnce holdHost store samplePause).any (workIs "venue" (·.userHold)))
      = true := by decide +kernel
  obtain ⟨created, called, facts⟩ := (Option.any_eq_true _ _).mp evaluated
  obtain ⟨store, paused, held⟩ := (Option.any_eq_true _ _).mp facts
  rw [callAll, Option.bind_eq_some_iff] at called
  obtain ⟨_, create, same⟩ := called
  cases same
  have guarded : Guarded sampleStart (.applied sampleCreate) := by
    simp only [Guarded, sampleCreate]
  have guardedPause : Guarded created (.applied samplePause) := by
    simp [Guarded, samplePause]
  exact ⟨store, held, (user_hold_binds_iff_guarded holdHost sampleStart store _ rfl
    (.cons ⟨callOnce_step create, guarded⟩ (.single ⟨callOnce_step paused, guardedPause⟩))).1⟩

end Decodex.Guarantees.WorkHolds
