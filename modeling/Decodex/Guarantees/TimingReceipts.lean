import Decodex.Guarantees.TimingSteps

/-!
# How a turn is tracked, and what its receipt says

Source: crates/decodex-codex/src/app_server_client/observed_timing.rs:78-341.

Pending requests belong to tracked turns. A record is made by `turn/started` of its turn, and is
then empty, or attached midway, and then knows nothing. A completion makes the one receipt, from
what the record holds; `take` gives it out once.
-/
namespace Decodex.Guarantees.TimingReceipts

open Decodex.Library Decodex.Source.Codex.ObservedTiming Decodex.Guarantees.TimingSteps

variable {F : Type} {state left : State} {thread turn : String} {kind : Kind} {now : Nat}

theorem tracks_insert {owner : String} {record : Turn} (tracks : Tracks state thread turn) :
    Tracks { state with turns := state.turns.insertNew owner record } thread turn := by
  obtain ⟨held, found, named⟩ := tracks
  refine ⟨held, ?_, named⟩
  dsimp only
  rw [KeyedMap.find?_insertNew]
  split
  · rw [found]
    rfl
  · exact found

theorem tracks_modify {owner : String} {change : Turn → Turn}
    (kept : ∀ record, (change record).id = record.id) (tracks : Tracks state thread turn) :
    Tracks { state with turns := state.turns.modify owner change } thread turn := by
  obtain ⟨held, found, named⟩ := tracks
  unfold Tracks
  dsimp only
  rw [KeyedMap.find?_modify]
  split
  · exact ⟨change held, by rw [found]; rfl, (kept held).trans named⟩
  · exact ⟨held, found, named⟩

/-- What is still pending was pending, and its turn is still tracked. -/
theorem owned_keep (owned : Owned state)
    (kept : ∀ id request, left.requests.find? id = some request →
      state.requests.find? id = some request ∧
        (Tracks state request.thread request.turn → Tracks left request.thread request.turn)) :
    Owned left := by
  intro id request found
  obtain ⟨held, tracks⟩ := kept id request found
  exact tracks (owned id request held)

theorem owned_insert {owner : String} {record : Turn} (owned : Owned state) :
    Owned { state with turns := state.turns.insertNew owner record } :=
  owned_keep owned fun _ _ found => ⟨found, tracks_insert⟩

theorem owned_modify {owner : String} {change : Turn → Turn} (owned : Owned state)
    (kept : ∀ record, (change record).id = record.id) :
    Owned { state with turns := state.turns.modify owner change } :=
  owned_keep owned fun _ _ found => ⟨found, tracks_modify kept⟩

theorem owned_track {owner other : String} (owned : Owned state) :
    Owned (state.track owner other) := by
  unfold State.track
  split
  · exact owned_insert owned
  · exact owned

theorem owned_change {owner other : String} {change : Turn → Turn} (owned : Owned state)
    (kept : ∀ record, (change record).id = record.id) :
    Owned (state.change owner other change) := by
  unfold State.change
  dsimp only
  split
  · exact owned_modify (owned_track owned) kept
  · exact owned_track owned

theorem owned_request {owner other : String} {id : RequestId} (owned : Owned state) :
    Owned (state.request id owner other now) := by
  unfold State.request
  dsimp only
  split
  · rename_i active
    split
    · intro asked request found
      dsimp only at found
      rw [KeyedMap.find?_insertNew] at found
      split at found
      · cases held : (state.track owner other).requests.find? asked with
        | none =>
          rw [held] at found
          cases found
          exact active_isSome_iff.mp active
        | some request =>
          rw [held] at found
          cases found
          exact owned_track owned asked _ held
      · exact owned_track owned asked request found
    · exact owned_modify (owned_track owned) fun record => mark_kept.1
  · exact owned_track owned

theorem owned_retain {owner : String} {keep : RequestId → Request → Bool}
    {completed : List Receipt} (owned : Owned state)
    (away : ∀ id request, keep id request = true → state.requests.find? id = some request →
      request.thread ≠ owner) :
    Owned ⟨state.turns.erase owner, state.requests.retain keep, completed⟩ := by
  apply owned_keep owned
  intro id request found
  dsimp only at found
  rw [KeyedMap.find?_retain, Option.filter_eq_some_iff] at found
  refine ⟨found.1, fun ⟨record, tracked, named⟩ => ⟨record, ?_, named⟩⟩
  dsimp only
  rw [KeyedMap.find?_erase, if_neg (away id request found.2 found.1)]
  exact tracked

theorem owned_leave {owner : String} (owned : Owned state) : Owned (state.leave owner) :=
  owned_retain owned fun _ _ keep _ => by simpa using keep

theorem owned_startTurn {owner other : String} (owned : Owned state) :
    Owned (state.startTurn owner other) := by
  unfold State.startTurn
  dsimp only
  by_cases replaced : (state.turns.find? owner).any (fun active => active.id ≠ other) = true
  · rw [if_pos replaced]
    split
    · exact owned_insert (owned_leave owned)
    · exact owned_leave owned
  · rw [if_neg replaced]
    split
    · exact owned_insert owned
    · exact owned

theorem owned_completeTurn {owner other : String} (owned : Owned state) :
    Owned (state.completeTurn owner other) := by
  unfold State.completeTurn
  split
  · exact owned
  · rename_i active found
    apply owned_retain owned
    intro id request keep pending same
    simp only [State.active, Option.filter_eq_some_iff, decide_eq_true_eq] at found
    obtain ⟨record, tracked, named⟩ := owned id request pending
    rw [same, found.1] at tracked
    cases tracked
    simp [Request.concerns, same, named.symm.trans found.2] at keep

theorem owned_finishRequest {id : RequestId} (owned : Owned state) :
    Owned (state.finishRequest id now) := by
  have erased : Owned { state with requests := state.requests.erase id } := by
    apply owned_keep owned
    intro asked request found
    dsimp only at found
    rw [KeyedMap.find?_erase] at found
    split at found
    · cases found
    · exact ⟨found, fun tracks => tracks⟩
  unfold State.finishRequest
  split
  · exact owned
  · dsimp only
    split
    · exact owned_modify erased fun record => record_kept.1
    · exact erased

theorem owned_perform (owned : Owned state) (call : Call F) : Owned (state.perform call) := by
  cases call with
  | observe event now =>
    unfold State.perform
    dsimp only
    split
    · rename_i said _
      cases said with
      | requested id owner other => exact owned_request owned
      | turnStarted owner other => exact owned_startTurn owned
      | turnCompleted owner other => exact owned_completeTurn owned
      | itemStarted owner other item id => exact owned_change owned fun record => start_kept.1
      | itemCompleted owner other item id => exact owned_change owned fun record => finish_kept.1
      | resolved owner id =>
        unfold State.observe
        dsimp only
        split
        · exact owned_finishRequest owned
        · exact owned
      | departed owner reverted =>
        unfold State.observe
        dsimp only
        split
        · exact owned_keep (owned_leave owned) fun _ _ found => ⟨found, fun tracks => tracks⟩
        · exact owned_leave owned
    · exact owned
  | responseWritten id now => exact owned_finishRequest owned
  | take owner other =>
    unfold State.perform
    dsimp only
    cases taken : state.take owner other with
    | none => exact owned
    | some pair =>
      obtain ⟨index, receipt, _, _, rfl⟩ := take_eq_some taken
      exact owned_keep owned fun _ _ found => ⟨found, fun tracks => tracks⟩
  | clear =>
    intro id request found
    cases found

def Starts (thread turn : String) (call : Call F) : Prop :=
  ∃ event now, call = .observe event now ∧ observed event = some (.turnStarted thread turn)

def completes (thread turn : String) : Call F → Bool
  | .observe event _ => observed event = some (.turnCompleted thread turn)
  | _ => false

/-- A record was there before, or is attached midway. -/
def Midway (state : State) (turns : KeyedMap String Turn) (thread : String) : Prop :=
  ∀ after, turns.find? thread = some after → Tracks state thread after.id ∨ after.started = false

theorem midway_self : Midway state state.turns thread :=
  fun after found => .inl ⟨after, found, rfl⟩

theorem midway_track {owner other : String} :
    Midway state (state.track owner other).turns thread := by
  unfold State.track
  split
  · rename_i vacant
    intro after found
    dsimp only at found
    rw [KeyedMap.find?_insertNew] at found
    split at found
    · rename_i same
      rw [same, vacant.1] at found
      cases found
      exact .inr rfl
    · exact .inl ⟨after, found, rfl⟩
  · exact midway_self

theorem midway_modify {turns : KeyedMap String Turn} {owner : String} {change : Turn → Turn}
    (kept : ∀ record, (change record).id = record.id ∧ (change record).started = record.started)
    (midway : Midway state turns thread) : Midway state (turns.modify owner change) thread := by
  intro after found
  rw [KeyedMap.find?_modify] at found
  split at found
  · obtain ⟨record, held, rfl⟩ := Option.map_eq_some_iff.mp found
    rw [(kept record).1, (kept record).2]
    exact midway record held
  · exact midway after found

theorem midway_erase {owner : String} : Midway state (state.turns.erase owner) thread := by
  intro after found
  rw [KeyedMap.find?_erase] at found
  split at found
  · cases found
  · exact .inl ⟨after, found, rfl⟩

theorem midway_change {owner other : String} {change : Turn → Turn}
    (kept : ∀ record, (change record).id = record.id ∧ (change record).started = record.started) :
    Midway state (state.change owner other change).turns thread := by
  unfold State.change
  dsimp only
  split
  · exact midway_modify kept midway_track
  · exact midway_track

theorem midway_request {owner other : String} {id : RequestId} :
    Midway state (state.request id owner other now).turns thread := by
  unfold State.request
  dsimp only
  split
  · split
    · exact midway_track
    · exact midway_modify (fun _ => mark_kept) midway_track
  · exact midway_track

theorem midway_finishRequest {id : RequestId} :
    Midway state (state.finishRequest id now).turns thread := by
  unfold State.finishRequest
  split
  · exact midway_self
  · dsimp only
    split
    · exact midway_modify (fun _ => record_kept) midway_self
    · exact midway_self

theorem midway_completeTurn {owner other : String} :
    Midway state (state.completeTurn owner other).turns thread := by
  unfold State.completeTurn
  split
  · exact midway_self
  · exact midway_erase

theorem opened_insert {other : String} {after : Turn}
    (found : (if state.turns.find? thread = none ∧ state.turns.length < maxBufferedEvents then
        { state with turns := state.turns.insertNew thread (.new other true) }
      else state).turns.find? thread = some after) :
    Tracks state thread after.id ∨ after = .new other true := by
  split at found
  · rename_i vacant
    dsimp only at found
    rw [KeyedMap.find?_insertNew, if_pos rfl, vacant.1] at found
    cases found
    exact .inr rfl
  · exact .inl ⟨after, found, rfl⟩

/-- What `turn/started` leaves of a turn that was not tracked: nothing but the record. -/
theorem startTurn_opens {owner other : String} {after : Turn} (owned : Owned state)
    (found : (state.startTurn owner other).turns.find? thread = some after)
    (new : ¬Tracks state thread after.id) :
    owner = thread ∧ other = after.id ∧ after = .new other true ∧
      ∀ id, pending (state.startTurn owner other) thread other id = none := by
  by_cases own : thread = owner
  · subst own
    have opened : after = .new other true := by
      unfold State.startTurn at found
      rcases opened_insert found with tracks | same
      · split at tracks
        · obtain ⟨record, held, _⟩ := tracks
          rw [State.leave, KeyedMap.find?_erase, if_pos rfl] at held
          cases held
        · exact absurd tracks new
      · exact same
    subst opened
    refine ⟨rfl, rfl, rfl, fun id => ?_⟩
    rw [pending_eq_none_iff]
    intro request held
    have before : state.requests.find? id = some request := by
      unfold State.startTurn at held
      dsimp only at held
      have kept : ∀ state' : State, (if state'.turns.find? thread = none ∧
          state'.turns.length < maxBufferedEvents then
            { state' with turns := state'.turns.insertNew thread (.new other true) }
          else state').requests = state'.requests := by
        intro state'
        split <;> rfl
      rw [kept] at held
      split at held
      · rw [State.leave, KeyedMap.find?_retain, Option.filter_eq_some_iff] at held
        exact held.1
      · exact held
    cases concerns : request.concerns thread other with
    | false => rfl
    | true =>
      simp only [Request.concerns, Bool.and_eq_true, decide_eq_true_eq] at concerns
      have tracks := owned id request before
      rw [concerns.1, concerns.2] at tracks
      exact absurd tracks new
  · have alike : Alike thread after.id state (state.startTurn owner other) := .startTurn own
    rw [alike.record] at found
    exact absurd ⟨after, found, rfl⟩ new

/-- How a call makes a record of a turn that was not tracked. -/
theorem opened_perform {call : Call F} {after : Turn} (owned : Owned state)
    (found : (state.perform call).turns.find? thread = some after)
    (new : ¬Tracks state thread after.id) :
    (after.started = true ↔ Starts thread after.id call) ∧ (after.started = true →
      ∀ kind, view (pending (state.perform call) thread after.id) after kind = .empty) := by
  have attached (midway : Midway state (state.perform call).turns thread)
      (other : ¬Starts thread after.id call) :
      (after.started = true ↔ Starts thread after.id call) ∧ (after.started = true →
        ∀ kind, view (pending (state.perform call) thread after.id) after kind = .empty) := by
    have unstarted := (midway after found).resolve_left new
    constructor
    · simp [unstarted, other]
    · intro started
      rw [unstarted] at started
      cases started
  cases call with
  | observe event now =>
    have silent {said : Observed} (observes : observed event = some said)
        (other : said ≠ .turnStarted thread after.id) :
        ¬Starts thread after.id (.observe event now) := by
      rintro ⟨_, _, same, starts⟩
      cases same
      exact other (Option.some.inj (observes.symm.trans starts))
    cases observes : observed event with
    | none =>
      apply attached
      · simpa only [State.perform, observes] using midway_self
      · rintro ⟨_, _, same, starts⟩
        cases same
        rw [observes] at starts
        cases starts
    | some said =>
      have moves : state.perform (.observe event now) = state.observe now said := by
        simp only [State.perform, observes]
      rw [moves] at found attached ⊢
      cases said with
      | turnStarted owner other =>
        obtain ⟨rfl, named, made, none⟩ := startTurn_opens owned found new
        rw [← named, made]
        refine ⟨iff_of_true rfl ⟨event, now, rfl, observes⟩, fun _ kind => ?_⟩
        ext key
        · rfl
        · cases key with
          | item id => rfl
          | request id =>
            simp only [view, Turn.new]
            rw [State.observe, none id]
            simp [Recorder.empty]
        · rfl
      | requested id owner other =>
        exact attached midway_request (silent observes fun same => by cases same)
      | turnCompleted owner other =>
        exact attached midway_completeTurn (silent observes fun same => by cases same)
      | itemStarted owner other item id =>
        exact attached (midway_change fun _ => start_kept)
          (silent observes fun same => by cases same)
      | itemCompleted owner other item id =>
        exact attached (midway_change fun _ => finish_kept)
          (silent observes fun same => by cases same)
      | resolved owner id =>
        refine attached ?_ (silent observes fun same => by cases same)
        unfold State.observe
        dsimp only
        split
        · exact midway_finishRequest
        · exact midway_self
      | departed owner reverted =>
        refine attached ?_ (silent observes fun same => by cases same)
        unfold State.observe
        dsimp only
        split
        · exact midway_erase
        · exact midway_erase
  | responseWritten id now =>
    apply attached midway_finishRequest
    rintro ⟨_, _, same, _⟩
    cases same
  | take owner other =>
    have silent : ¬Starts thread after.id (.take owner other : Call F) := by
      rintro ⟨_, _, same, _⟩
      cases same
    refine attached ?_ silent
    have kept : (state.perform (.take owner other : Call F)).turns = state.turns := by
      unfold State.perform
      dsimp only
      cases taken : state.take owner other with
      | none => rfl
      | some pair =>
        obtain ⟨index, receipt, _, _, rfl⟩ := take_eq_some taken
        rfl
    rw [kept]
    exact midway_self
  | clear => cases found

def categoryOf (timing : ObservedTurnTiming) : Kind → Option Nat
  | .modelOutput => timing.modelOutputMs
  | .compaction => timing.compactionMs
  | .tool => timing.toolActivityMs
  | .review => timing.autoReviewMs
  | .userRequest => timing.userRequestMs

/-- The timing in the receipt of a record. -/
def closing (state : State) (thread : String) (record : Turn) : ObservedTurnTiming :=
  (if state.requests.entries.any fun entry => entry.2.concerns thread record.id then
    record.mark .userRequest else record).timing

theorem categoryOf_timing {record : Turn} : categoryOf record.timing kind =
    if record.started then record.duration kind else none := by
  unfold Turn.timing categoryOf
  cases record.started <;> cases kind <;> rfl

theorem openItems_iff {record : Turn} :
    (record.opened.entries.any fun entry => entry.1.1 = kind) = false ↔
      ∀ id, record.opened.find? (kind, id) = none := by
  rw [List.any_eq_false]
  constructor
  · intro apart id
    cases found : record.opened.find? (kind, id) with
    | none => rfl
    | some start => exact absurd (apart _ (KeyedMap.find?_eq_some_iff.mp found)) (by simp)
  · rintro none ⟨⟨held, id⟩, start⟩ listed same
    simp only [decide_eq_true_eq] at same
    have found := none id
    rw [← same, KeyedMap.find?_eq_some_iff.mpr listed] at found
    cases found

theorem pendingRequests_iff :
    (state.requests.entries.any fun entry => entry.2.concerns thread turn) = false ↔
      ∀ id, pending state thread turn id = none := by
  rw [List.any_eq_false]
  constructor
  · intro apart id
    rw [pending_eq_none_iff]
    intro request found
    simpa using apart _ (KeyedMap.find?_eq_some_iff.mp found)
  · rintro none ⟨id, request⟩ listed
    have concerns := pending_eq_none_iff.mp (none id) request
      (KeyedMap.find?_eq_some_iff.mpr listed)
    simp [concerns]

theorem duration_eq_some {record : Turn} {value : Nat} :
    record.duration kind = some value ↔ record.incomplete kind = false ∧
      (∀ id, record.opened.find? (kind, id) = none) ∧ unionMs (record.spans kind) = some value := by
  rw [← openItems_iff, Turn.duration]
  split
  · rename_i given
    constructor
    · intro none
      cases none
    · rintro ⟨complete, closed, _⟩
      rw [complete, closed] at given
      cases given
  · rename_i kept
    simp only [Bool.or_eq_true, not_or, Bool.not_eq_true] at kept
    simp [kept]

theorem openKeys_iff {record : Turn} {requests : RequestId → Option Nat} :
    (∀ key, (view requests record kind).opened key = none) ↔
      (∀ id, record.opened.find? (kind, id) = none) ∧
        (kind = .userRequest → ∀ id, requests id = none) := by
  constructor
  · intro closed
    refine ⟨fun id => closed (.item id), fun hit id => ?_⟩
    have closed := closed (.request id)
    simpa [view, hit] using closed
  · rintro ⟨items, requests⟩ key
    cases key with
    | item id => exact items id
    | request id =>
      simp only [view]
      split
      · rename_i hit
        exact requests hit id
      · rfl

/-- A receipt knows a category if nothing of it is open and nothing was given up. -/
theorem categoryOf_closing {record : Turn} {value : Nat} :
    categoryOf (closing state thread record) kind = some value ↔ record.started = true ∧
      (view (pending state thread record.id) record kind).incomplete = false ∧
      (∀ key, (view (pending state thread record.id) record kind).opened key = none) ∧
      unionMs (view (pending state thread record.id) record kind).spans = some value := by
  have known (record : Turn) : categoryOf record.timing kind = some value ↔
      record.started = true ∧ record.duration kind = some value := by
    rw [categoryOf_timing]
    cases record.started <;> simp
  have complete : (view (pending state thread record.id) record kind).incomplete =
    record.incomplete kind := rfl
  have spans : (view (pending state thread record.id) record kind).spans = record.spans kind := rfl
  rw [openKeys_iff, complete, spans, closing]
  cases waits : state.requests.entries.any fun entry => entry.2.concerns thread record.id with
  | false =>
    have none := pendingRequests_iff.mp waits
    rw [if_neg Bool.false_ne_true, known, duration_eq_some]
    simp [none]
  | true =>
    have some : ¬∀ id, pending state thread record.id id = none := by
      rw [← pendingRequests_iff, waits]
      exact Bool.noConfusion
    rw [if_pos rfl, known, duration_eq_some]
    simp only [Turn.mark, Function.update_apply]
    by_cases hit : kind = .userRequest
    · simp [hit, some]
    · simp [hit]

theorem completed_change {owner other : String} {change : Turn → Turn} :
    (state.change owner other change).completed = state.completed := by
  unfold State.change State.track
  dsimp only
  split_ifs <;> rfl

theorem completed_request {owner other : String} {id : RequestId} :
    (state.request id owner other now).completed = state.completed := by
  unfold State.request State.track
  dsimp only
  split_ifs <;> rfl

theorem completed_startTurn {owner other : String} :
    (state.startTurn owner other).completed = state.completed := by
  unfold State.startTurn State.leave
  dsimp only
  split_ifs <;> rfl

theorem completed_finishRequest {id : RequestId} :
    (state.finishRequest id now).completed = state.completed := by
  unfold State.finishRequest
  cases state.requests.find? id with
  | none => rfl
  | some request =>
    dsimp only
    split_ifs <;> rfl

/-- The receipts after a call: a completed turn adds one, and the oldest may go for it. -/
theorem completed_perform (call : Call F) :
    (state.perform call).completed.Sublist state.completed ∨
      ∃ owner other record kept, completes owner other call = true ∧
        state.turns.find? owner = some record ∧ record.id = other ∧
        kept.Sublist state.completed ∧
        (state.perform call).completed = kept ++ [⟨owner, other, closing state owner record⟩] := by
  have same {left : State} (equal : left.completed = state.completed) :
      left.completed.Sublist state.completed := by
    rw [equal]
  cases call with
  | observe event now =>
    unfold State.perform
    dsimp only
    cases observes : observed event with
    | none => exact .inl (.refl _)
    | some said =>
      dsimp only
      cases said with
      | requested id owner other => exact .inl (same completed_request)
      | turnStarted owner other => exact .inl (same completed_startTurn)
      | turnCompleted owner other =>
        unfold State.observe State.completeTurn
        dsimp only
        cases found : state.active owner other with
        | none => exact .inl (.refl _)
        | some record =>
          simp only [State.active, Option.filter_eq_some_iff, decide_eq_true_eq] at found
          obtain ⟨tracked, rfl⟩ := found
          refine .inr ⟨owner, record.id, record, _, ?_, tracked, rfl, ?_, rfl⟩
          · simp [completes, observes]
          · split
            · exact List.tail_sublist _
            · exact .refl _
      | itemStarted owner other item id => exact .inl (same completed_change)
      | itemCompleted owner other item id => exact .inl (same completed_change)
      | resolved owner id =>
        unfold State.observe
        dsimp only
        split
        · exact .inl (same completed_finishRequest)
        · exact .inl (.refl _)
      | departed owner reverted =>
        unfold State.observe
        dsimp only
        split
        · exact .inl List.filter_sublist
        · exact .inl (.refl _)
  | responseWritten id now => exact .inl (same completed_finishRequest)
  | take owner other =>
    unfold State.perform
    dsimp only
    cases taken : state.take owner other with
    | none => exact .inl (.refl _)
    | some pair =>
      obtain ⟨index, receipt, _, _, rfl⟩ := take_eq_some taken
      exact .inl (List.eraseIdx_sublist _ _)
  | clear => exact .inl (.refl _)

/-- The call takes a receipt of the turn. -/
def gives (state : State) (thread turn : String) : Call F → Bool
  | .take thread' turn' => thread' = thread && turn' = turn && (state.take thread' turn').isSome
  | _ => false

/-- How many receipts of the turn the calls take. -/
def takenFrom (thread turn : String) (state : State) : List (Call F) → Nat
  | [] => 0
  | call :: rest => (if gives state thread turn call then 1 else 0) +
    takenFrom thread turn (state.perform call) rest

def isReceipt (thread turn : String) (receipt : Receipt) : Bool :=
  receipt.thread = thread && receipt.turn = turn

theorem countP_eraseIdx {α : Type} {p : α → Bool} {items : List α} {index : Nat}
    (first : items.findIdx? p = some index) :
    (items.eraseIdx index).countP p + 1 = items.countP p := by
  have erased : items.eraseP p = items.eraseIdx index := by
    rw [List.eraseP_eq_eraseIdx, first]
  obtain ⟨inside, passes, _⟩ := List.findIdx?_eq_some_iff_getElem.mp first
  obtain ⟨item, before, after, _, passes, split, rest⟩ :=
    List.exists_of_eraseP (List.getElem_mem inside) passes
  rw [← erased, rest, split, List.countP_append, List.countP_append, List.countP_cons,
    if_pos passes]
  omega

/-- A receipt that is taken was held, and one that is new comes with a completion. -/
theorem receipts_perform (state : State) (thread turn : String) (call : Call F) :
    (if gives state thread turn call then 1 else 0) +
        (state.perform call).completed.countP (isReceipt thread turn) ≤
      state.completed.countP (isReceipt thread turn) +
        if completes thread turn call then 1 else 0 := by
  cases given : gives state thread turn call with
  | true =>
    cases call with
    | take owner other =>
      simp only [gives, Bool.and_eq_true, decide_eq_true_eq] at given
      obtain ⟨⟨rfl, rfl⟩, some⟩ := given
      obtain ⟨pair, taken⟩ := Option.isSome_iff_exists.mp some
      obtain ⟨index, receipt, first, held, rfl⟩ := take_eq_some taken
      have fewer := countP_eraseIdx (p := isReceipt owner other) first
      rw [if_pos rfl]
      simp only [State.perform, taken, Option.map_some, Option.getD_some]
      omega
    | observe event now => cases given
    | responseWritten id now => cases given
    | clear => cases given
  | false =>
    rw [if_neg Bool.false_ne_true, Nat.zero_add]
    rcases completed_perform call with fewer | ⟨owner, other, record, kept, completed, _, _, fewer,
        same⟩
    · exact Nat.le_add_right_of_le fewer.countP_le
    · rw [same, List.countP_append, List.countP_singleton]
      apply Nat.add_le_add fewer.countP_le
      unfold isReceipt
      split
      · rename_i own
        simp only [Bool.and_eq_true, decide_eq_true_eq] at own
        rw [← own.1, ← own.2, if_pos completed]
      · exact Nat.zero_le _

theorem takenFrom_le (calls : List (Call F)) : takenFrom thread turn state calls ≤
    state.completed.countP (isReceipt thread turn) + calls.countP (completes thread turn) := by
  induction calls generalizing state with
  | nil => exact Nat.zero_le _
  | cons call rest ih =>
    have step := receipts_perform state thread turn call
    have rest := @ih (state.perform call)
    rw [takenFrom, List.countP_cons]
    omega

end Decodex.Guarantees.TimingReceipts
