import Decodex.Library.Pairing
import Decodex.Source.Codex.ObservedTiming

/-!
# What one call does to the timing of a turn

Source: crates/decodex-codex/src/app_server_client/observed_timing.rs:78-341.

What the observer holds of one category of a tracked turn is a recorder: what is open, the
intervals, and whether it gave up. `seen` is what a call says about the category, and one call moves
the recorder by just that (`view_perform`), whatever it does to other threads and turns.
-/
namespace Decodex.Guarantees.TimingSteps

open Decodex.Library Decodex.Source.Codex.ObservedTiming

variable {F : Type} {state : State} {thread turn : String} {kind : Kind} {now : Nat}

/-- The whole milliseconds of the merged intervals, as a `u64`. -/
def Measures (spans : List Interval) (value : Nat) : Prop :=
  spans ≠ [] ∧ ∃ parts, IsUnion spans parts ∧ (parts.map asMillis).sum = value ∧ value < 2 ^ 64

theorem sumMs_eq_some {span : Interval} {total value : Nat} {rest : List Interval} :
    sumMs span total rest = some value ↔
      total + ((mergeFrom span rest).map asMillis).sum = value ∧ value < 2 ^ 64 := by
  induction rest generalizing span total with
  | nil =>
    simp only [sumMs, checkedAdd, mergeFrom, List.map_singleton, List.sum_singleton]
    by_cases fits : total + asMillis span < 2 ^ 128
    · rw [if_pos fits, Option.bind_eq_bind, Option.bind_some]
      by_cases small : total + asMillis span < 2 ^ 64
      · rw [if_pos small, Option.some.injEq]
        omega
      · rw [if_neg small]
        constructor
        · intro none
          cases none
        · omega
    · rw [if_neg fits, Option.bind_eq_bind, Option.bind_none]
      constructor
      · intro none
        cases none
      · omega
  | cons next rest ih =>
    rw [sumMs, mergeFrom]
    split
    · exact ih
    · rw [List.map_cons, List.sum_cons, ← Nat.add_assoc]
      unfold checkedAdd
      by_cases fits : total + asMillis span < 2 ^ 128
      · rw [if_pos fits, Option.bind_eq_bind, Option.bind_some]
        exact ih
      · rw [if_neg fits, Option.bind_eq_bind, Option.bind_none]
        constructor
        · intro none
          cases none
        · omega

theorem unionMs_eq_some {spans : List Interval} {value : Nat}
    (valid : ∀ span ∈ spans, span.1 ≤ span.2) :
    unionMs spans = some value ↔ Measures spans value := by
  have perm := List.perm_insertionSort (fun a b : Interval => a.1 ≤ b.1) spans
  have sorted := List.pairwise_insertionSort (fun a b : Interval => a.1 ≤ b.1) spans
  unfold unionMs Measures
  cases found : spans.insertionSort fun a b => a.1 ≤ b.1 with
  | nil =>
    rw [found, List.nil_perm] at perm
    simp [perm]
  | cons first rest =>
    rw [found] at perm sorted
    have some : spans ≠ [] := by
      rintro rfl
      cases perm.eq_nil
    have ordered : ∀ span ∈ first :: rest, span.1 ≤ span.2 := fun span listed =>
      valid span (perm.mem_iff.mp listed)
    rw [List.forall_mem_cons] at ordered
    have union : IsUnion spans (mergeFrom first rest) :=
      (isUnion_mergeFrom (.single ordered.1) sorted ordered.2).of_perm perm
    simp only [sumMs_eq_some, Nat.zero_add]
    constructor
    · intro summed
      exact ⟨some, _, union, summed⟩
    · rintro ⟨_, parts, other, summed⟩
      rw [union.unique valid other]
      exact summed

/-- What pairs a start with its stop. -/
inductive Key where
  | item (id : String)
  | request (id : RequestId)
  deriving DecidableEq, Repr

/-- What a call says about one category of one turn. A response names its request alone, and only
one to a request of the turn counts. -/
def seen (thread turn : String) (kind : Kind) : Call F → Option (Mark Key)
  | .observe event now =>
    match observed event with
    | some (.itemStarted thread' turn' kind' id) =>
      if thread' = thread ∧ turn' = turn ∧ kind' = kind then some (.start (.item id) now) else none
    | some (.itemCompleted thread' turn' kind' id) =>
      if thread' = thread ∧ turn' = turn ∧ kind' = kind then some (.stop (.item id) now) else none
    | some (.requested id thread' turn') =>
      if thread' = thread ∧ turn' = turn ∧ kind = .userRequest then
        some (.start (.request id) now)
      else none
    | some (.resolved thread' id) =>
      if thread' = thread ∧ kind = .userRequest then some (.settle (.request id) now) else none
    | _ => none
  | .responseWritten id now =>
    if kind = .userRequest then some (.settle (.request id) now) else none
  | _ => none

/-- The start of a pending request of the turn. -/
def pending (state : State) (thread turn : String) (id : RequestId) : Option Nat :=
  ((state.requests.find? id).filter fun request => request.concerns thread turn).map (·.started)

/-- The category of a record as a recorder, by the pending requests of its turn. -/
def view (requests : RequestId → Option Nat) (record : Turn) (kind : Kind) : Recorder Key where
  incomplete := record.incomplete kind
  opened
    | .item id => record.opened.find? (kind, id)
    | .request id => if kind = .userRequest then requests id else none
  spans := record.spans kind

/-- There is no room to start another item or request. -/
def full (state : State) (thread : String) : Kind → Bool
  | .userRequest => maxBufferedEvents ≤ state.requests.length
  | _ => (state.turns.find? thread).any fun record => maxBufferedEvents ≤ record.opened.length

def Tracks (state : State) (thread turn : String) : Prop :=
  ∃ record, state.turns.find? thread = some record ∧ record.id = turn

/-- Pending requests belong to a tracked turn. -/
def Owned (state : State) : Prop :=
  ∀ id request, state.requests.find? id = some request → Tracks state request.thread request.turn

/-- A request that the call observes is not pending. -/
def Fresh (state : State) (call : Call F) : Prop :=
  ∀ event now id thread turn, call = .observe event now →
    observed event = some (.requested id thread turn) → state.requests.find? id = none

theorem active_isSome_iff :
    (state.active thread turn).isSome = true ↔ Tracks state thread turn := by
  unfold State.active Tracks
  cases state.turns.find? thread with
  | none => simp
  | some record => simp [Option.isSome_filter]

/-- Two states hold the same of a turn. -/
structure Alike (thread turn : String) (before after : State) : Prop where
  record : after.turns.find? thread = before.turns.find? thread
  requests : ∀ id, pending after thread turn id = pending before thread turn id

namespace Alike

variable {after later : State} {other otherTurn : String}

theorem refl (state : State) : Alike thread turn state state := ⟨rfl, fun _ => rfl⟩

theorem trans (first : Alike thread turn state after) (second : Alike thread turn after later) :
    Alike thread turn state later :=
  ⟨second.record.trans first.record, fun id => (second.requests id).trans (first.requests id)⟩

theorem track (apart : thread ≠ other) :
    Alike thread turn state (state.track other otherTurn) := by
  unfold State.track
  split
  · refine ⟨?_, fun _ => rfl⟩
    rw [KeyedMap.find?_insertNew, if_neg apart]
  · exact .refl state

theorem modify {change : Turn → Turn} (apart : thread ≠ other) :
    Alike thread turn state { state with turns := state.turns.modify other change } := by
  refine ⟨?_, fun _ => rfl⟩
  rw [KeyedMap.find?_modify, if_neg apart]

theorem change {change : Turn → Turn} (apart : thread ≠ other) :
    Alike thread turn state (state.change other otherTurn change) := by
  unfold State.change
  dsimp only
  split
  · exact (track apart).trans (modify apart)
  · exact track apart

theorem insert {record : Turn} (apart : thread ≠ other) :
    Alike thread turn state { state with turns := state.turns.insertNew other record } := by
  refine ⟨?_, fun _ => rfl⟩
  rw [KeyedMap.find?_insertNew, if_neg apart]

/-- The record and the requests of another turn go. -/
theorem retain {keep : RequestId → Request → Bool} {completed : List Receipt}
    (apart : thread ≠ other)
    (kept : ∀ id request, request.concerns thread turn = true → keep id request = true) :
    Alike thread turn state
      ⟨state.turns.erase other, state.requests.retain keep, completed⟩ := by
  constructor
  · rw [KeyedMap.find?_erase, if_neg apart]
  · intro id
    unfold pending
    rw [KeyedMap.find?_retain]
    cases state.requests.find? id with
    | none => rfl
    | some request =>
      rw [Option.filter_filter, Option.filter_some, Option.filter_some]
      cases concerns : request.concerns thread turn with
      | true => rw [kept id request concerns, Bool.and_self]
      | false => rw [Bool.and_false]

theorem leave (apart : thread ≠ other) : Alike thread turn state (state.leave other) := by
  apply retain apart
  intro id request concerns
  simp only [Request.concerns, Bool.and_eq_true, decide_eq_true_eq] at concerns
  simpa [concerns.1] using apart

theorem startTurn (apart : thread ≠ other) :
    Alike thread turn state (state.startTurn other otherTurn) := by
  unfold State.startTurn
  dsimp only
  by_cases replaced : (state.turns.find? other).any (fun active => active.id ≠ otherTurn) = true
  · rw [if_pos replaced]
    split
    · exact (leave apart).trans (insert apart)
    · exact leave apart
  · rw [if_neg replaced]
    split
    · exact insert apart
    · exact refl state

theorem completeTurn (apart : thread ≠ other) :
    Alike thread turn state (state.completeTurn other otherTurn) := by
  unfold State.completeTurn
  split
  · exact refl state
  · apply retain apart
    intro id request concerns
    simp only [Request.concerns, Bool.and_eq_true, decide_eq_true_eq] at concerns
    simp [Request.concerns, concerns.1, apart]

/-- A request of another thread that was not pending. -/
theorem request {id : RequestId} (apart : thread ≠ other)
    (fresh : state.requests.find? id = none) :
    Alike thread turn state (state.request id other otherTurn now) := by
  have tracked : (state.track other otherTurn).requests = state.requests := by
    unfold State.track
    split <;> rfl
  unfold State.request
  dsimp only
  split
  · split
    · apply (track apart).trans
      refine ⟨rfl, fun asked => ?_⟩
      unfold pending
      rw [KeyedMap.find?_insertNew, tracked]
      split
      · rename_i same
        have concerns : Request.concerns ⟨other, otherTurn, now⟩ thread turn = false := by
          simp [Request.concerns, apart.symm]
        rw [same, fresh]
        simp [concerns]
      · rfl
    · exact (track apart).trans (modify apart)
  · exact track apart

/-- A finished request of another thread. -/
theorem finishRequest {id : RequestId}
    (apart : ∀ request, state.requests.find? id = some request → thread ≠ request.thread) :
    Alike thread turn state (state.finishRequest id now) := by
  unfold State.finishRequest
  split
  · exact refl state
  · rename_i request found
    have erased : Alike thread turn state { state with requests := state.requests.erase id } := by
      refine ⟨rfl, fun asked => ?_⟩
      unfold pending
      rw [KeyedMap.find?_erase]
      split
      · rename_i same
        have concerns : request.concerns thread turn = false := by
          simp [Request.concerns, (apart request found).symm]
        rw [same, found]
        simp [concerns]
      · rfl
    dsimp only
    split
    · exact erased.trans (modify (apart request found))
    · exact erased

end Alike

section Own

variable {record : Turn} {other : String} {requests : RequestId → Option Nat}

theorem track_tracked (tracked : state.turns.find? thread = some record) :
    state.track thread other = state := by
  unfold State.track
  rw [tracked, if_neg fun both => by cases both.1]

theorem active_own (tracked : state.turns.find? thread = some record) :
    state.active thread record.id = some record := by
  simp [State.active, tracked]

theorem active_stale (tracked : state.turns.find? thread = some record)
    (stale : record.id ≠ other) : state.active thread other = none := by
  simp [State.active, tracked, stale]

theorem change_own {change : Turn → Turn} (tracked : state.turns.find? thread = some record) :
    state.change thread record.id change =
      { state with turns := state.turns.modify thread change } := by
  unfold State.change
  dsimp only
  rw [track_tracked tracked, active_own tracked, Option.isSome_some, if_pos rfl]

theorem change_stale {change : Turn → Turn} (tracked : state.turns.find? thread = some record)
    (stale : record.id ≠ other) : state.change thread other change = state := by
  unfold State.change
  dsimp only
  rw [track_tracked tracked, active_stale tracked stale, Option.isSome_none,
    if_neg Bool.false_ne_true]

theorem modify_own {change : Turn → Turn} (tracked : state.turns.find? thread = some record) :
    (state.turns.modify thread change).find? thread = some (change record) := by
  rw [KeyedMap.find?_modify, if_pos rfl, tracked]
  rfl

theorem view_mark {marked : Kind} : view requests (record.mark marked) kind =
    if kind = marked then (view requests record kind).giveUp else view requests record kind := by
  unfold view Turn.mark Recorder.giveUp
  dsimp only
  rw [Function.update_apply]
  split <;> rfl

theorem view_record {recorded : Kind} {start stop : Nat} :
    view requests (record.record recorded start stop) kind =
      if kind = recorded then (view requests record kind).record maxBufferedEvents start stop
      else view requests record kind := by
  unfold Turn.record
  by_cases room : start ≤ stop ∧ (record.spans recorded).length < maxBufferedEvents
  · rw [if_pos room]
    by_cases same : kind = recorded
    · subst same
      unfold view Recorder.record
      rw [if_pos rfl, if_pos room]
      dsimp only
      rw [Function.update_self]
    · unfold view
      rw [if_neg same]
      dsimp only
      rw [Function.update_of_ne same]
  · rw [if_neg room, view_mark]
    by_cases same : kind = recorded
    · subst same
      rw [if_pos rfl, if_pos rfl, Recorder.record, if_neg]
      exact room
    · rw [if_neg same, if_neg same]

theorem view_start {started : Kind} {id : String} :
    view requests (record.start started id now) kind = if kind = started then
      (view requests record kind).step maxBufferedEvents
        (maxBufferedEvents ≤ record.opened.length) (.start (.item id) now)
    else view requests record kind := by
  unfold Turn.start
  by_cases room : record.opened.length < maxBufferedEvents
  · rw [if_pos room]
    by_cases same : kind = started
    · subst same
      rw [if_pos rfl, Recorder.step, if_neg (by simpa using room)]
      ext key
      · rfl
      · cases key with
        | item asked =>
          simp only [view, KeyedMap.find?_insertNew, Function.update_apply, Prod.mk.injEq, true_and,
            Key.item.injEq]
          split
          · rename_i own
            rw [own]
          · rfl
        | request asked => simp [view]
      · rfl
    · rw [if_neg same]
      ext key
      · rfl
      · cases key with
        | item asked => simp [view, KeyedMap.find?_insertNew, same]
        | request asked => rfl
      · rfl
  · rw [if_neg room, view_mark]
    by_cases same : kind = started
    · rw [if_pos same, if_pos same, Recorder.step, if_pos (by simpa using room)]
    · rw [if_neg same, if_neg same]

theorem view_erase {closed : Kind} {id : String} :
    view requests { record with opened := record.opened.erase (closed, id) } kind =
      if kind = closed then
        { view requests record kind with
          opened := Function.update (view requests record kind).opened (.item id) none }
      else view requests record kind := by
  by_cases same : kind = closed
  · subst same
    rw [if_pos rfl]
    ext key
    · rfl
    · cases key with
      | item asked =>
        simp [view, KeyedMap.find?_erase, Function.update_apply]
      | request asked => simp [view]
    · rfl
  · rw [if_neg same]
    ext key
    · rfl
    · cases key with
      | item asked => simp [view, KeyedMap.find?_erase, same]
      | request asked => rfl
    · rfl

theorem view_finish {finished : Kind} {id : String} :
    view requests (record.finish finished id now) kind =
      if kind = finished then
        (view requests record kind).step maxBufferedEvents
          (maxBufferedEvents ≤ record.opened.length) (.stop (.item id) now)
      else view requests record kind := by
  unfold Turn.finish
  by_cases same : kind = finished
  · subst same
    have reads : (view requests record kind).opened (.item id) =
      record.opened.find? (kind, id) := rfl
    rw [if_pos rfl, Recorder.step, reads]
    cases record.opened.find? (kind, id) with
    | none =>
      dsimp only
      rw [view_mark, if_pos rfl]
    | some start =>
      dsimp only
      rw [view_record, if_pos rfl, view_erase, if_pos rfl]
      rfl
  · rw [if_neg same]
    split
    · rw [view_record, if_neg same, view_erase, if_neg same]
    · rw [view_mark, if_neg same]

theorem mark_kept {marked : Kind} :
    (record.mark marked).id = record.id ∧ (record.mark marked).started = record.started :=
  ⟨rfl, rfl⟩

theorem record_kept {recorded : Kind} {start stop : Nat} :
    (record.record recorded start stop).id = record.id ∧
      (record.record recorded start stop).started = record.started := by
  unfold Turn.record
  split
  · exact ⟨rfl, rfl⟩
  · exact mark_kept

theorem start_kept {started : Kind} {id : String} :
    (record.start started id now).id = record.id ∧
      (record.start started id now).started = record.started := by
  unfold Turn.start
  split
  · exact ⟨rfl, rfl⟩
  · exact mark_kept

theorem finish_kept {finished : Kind} {id : String} :
    (record.finish finished id now).id = record.id ∧
      (record.finish finished id now).started = record.started := by
  unfold Turn.finish
  split
  · exact record_kept
  · exact mark_kept

/-- A recorder after what a call says. -/
def placed (full : Bool) (recorder : Recorder Key) : Option (Mark Key) → Recorder Key
  | none => recorder
  | some mark => recorder.step maxBufferedEvents full mark

/-- Each category of the record, if it stays, moves by what is said of it. -/
def Moves (state left : State) (thread : String) (record : Turn)
    (said : Kind → Option (Mark Key)) : Prop :=
  ∀ after, left.turns.find? thread = some after → after.id = record.id →
    after.started = record.started ∧ ∀ kind, view (pending left thread record.id) after kind =
      placed (full state thread kind) (view (pending state thread record.id) record kind)
        (said kind)

variable {left : State} {said : Kind → Option (Mark Key)}

theorem Moves.gone (gone : left.turns.find? thread = none) :
    Moves state left thread record said := by
  intro after found
  rw [gone] at found
  cases found

theorem Moves.still (tracked : state.turns.find? thread = some record)
    (alike : Alike thread record.id state left)
    (still : ∀ kind mark, said kind = some mark →
      (view (pending state thread record.id) record kind).step maxBufferedEvents
        (full state thread kind) mark = view (pending state thread record.id) record kind) :
    Moves state left thread record said := by
  intro after found _
  rw [alike.record, tracked] at found
  cases found
  rw [funext alike.requests]
  refine ⟨rfl, fun kind => ?_⟩
  cases told : said kind with
  | none => rfl
  | some mark => exact (still kind mark told).symm

theorem Moves.silent (tracked : state.turns.find? thread = some record)
    (alike : Alike thread record.id state left) :
    Moves state left thread record fun _ => none :=
  .still tracked alike fun _ _ none => by cases none

theorem step_settle {recorder : Recorder Key} {key : Key} {full : Bool}
    (closed : recorder.opened key = none) :
    recorder.step maxBufferedEvents full (.settle key now) = recorder := by
  simp only [Recorder.step, closed]

theorem pending_eq_none_iff {id : RequestId} : pending state thread other id = none ↔
    ∀ request, state.requests.find? id = some request → request.concerns thread other = false := by
  unfold pending
  cases state.requests.find? id with
  | none => simp
  | some request => simp [Option.filter_some]

theorem view_requests {later : RequestId → Option Nat} (apart : kind ≠ .userRequest) :
    view later record kind = view requests record kind := by
  unfold view
  ext key
  · rfl
  · cases key with
    | item id => rfl
    | request id => simp [apart]
  · rfl

theorem moves_startTurn (tracked : state.turns.find? thread = some record) {owner : String} :
    Moves state (state.startTurn owner other) thread record fun _ => none := by
  by_cases own : thread = owner
  · subst own
    by_cases same : record.id = other
    · have unchanged : state.startTurn thread other = state := by
        simp [State.startTurn, tracked, same]
      rw [unchanged]
      exact .silent tracked (.refl state)
    · have replaced : (state.turns.find? thread).any (fun active => active.id ≠ other) = true := by
        simp [tracked, same]
      have vacant : (state.leave thread).turns.find? thread = none := by
        rw [State.leave, KeyedMap.find?_erase, if_pos rfl]
      intro after found kept
      unfold State.startTurn at found
      dsimp only at found
      rw [if_pos replaced] at found
      split at found
      · rw [KeyedMap.find?_insertNew, if_pos rfl, vacant] at found
        cases found
        exact absurd kept.symm same
      · rw [vacant] at found
        cases found
  · exact .silent tracked (.startTurn own)

theorem moves_completeTurn (tracked : state.turns.find? thread = some record) {owner : String} :
    Moves state (state.completeTurn owner other) thread record fun _ => none := by
  by_cases own : thread = owner
  · subst own
    by_cases same : record.id = other
    · subst same
      apply Moves.gone
      unfold State.completeTurn
      rw [active_own tracked]
      dsimp only
      rw [KeyedMap.find?_erase, if_pos rfl]
    · have unchanged : state.completeTurn thread other = state := by
        unfold State.completeTurn
        rw [active_stale tracked same]
      rw [unchanged]
      exact .silent tracked (.refl state)
  · exact .silent tracked (.completeTurn own)

theorem moves_leave (tracked : state.turns.find? thread = some record) {owner : String} :
    Moves state (state.leave owner) thread record fun _ => none := by
  by_cases own : thread = owner
  · apply Moves.gone
    rw [State.leave, KeyedMap.find?_erase, if_pos own]
  · exact .silent tracked (.leave own)

/-- A change that moves one category of items by a mark. -/
theorem moves_change (tracked : state.turns.find? thread = some record) {owner : String}
    {changed : Kind} {change : Turn → Turn} {mark : Mark Key} (item : changed ≠ .userRequest)
    (kept : (change record).id = record.id ∧ (change record).started = record.started)
    (moved : ∀ requests kind, view requests (change record) kind = if kind = changed then
      (view requests record kind).step maxBufferedEvents
        (maxBufferedEvents ≤ record.opened.length) mark else view requests record kind) :
    Moves state (state.change owner other change) thread record fun kind =>
      if owner = thread ∧ other = record.id ∧ changed = kind then some mark else none := by
  by_cases own : thread = owner
  · subst own
    by_cases same : record.id = other
    · subst same
      rw [change_own tracked]
      intro after found _
      rw [modify_own tracked] at found
      cases found
      refine ⟨kept.2, fun kind => ?_⟩
      have room : kind = changed →
          full state thread kind = decide (maxBufferedEvents ≤ record.opened.length) := by
        rintro rfl
        unfold full
        split
        · exact absurd rfl item
        · rw [tracked]
          rfl
      rw [moved]
      dsimp only
      by_cases hit : kind = changed
      · rw [if_pos hit, if_pos ⟨rfl, rfl, hit.symm⟩, room hit]
        rfl
      · rw [if_neg hit, if_neg fun all => hit all.2.2.symm]
        rfl
    · rw [change_stale tracked same]
      refine .still tracked (.refl state) fun kind mark told => ?_
      rw [if_neg fun all => same all.2.1.symm] at told
      cases told
  · refine .still tracked (.change own) fun kind mark told => ?_
    rw [if_neg fun all => own all.1.symm] at told
    cases told

theorem moves_request (tracked : state.turns.find? thread = some record) {owner : String}
    {id : RequestId} (fresh : state.requests.find? id = none) :
    Moves state (state.request id owner other now) thread record fun kind =>
      if owner = thread ∧ other = record.id ∧ kind = .userRequest then
        some (.start (.request id) now) else none := by
  by_cases own : thread = owner
  · subst own
    by_cases same : record.id = other
    · subst same
      have apart {kind : Kind} (other : kind ≠ .userRequest) :
          (if thread = thread ∧ record.id = record.id ∧ kind = .userRequest then
            some (Mark.start (Key.request id) now) else none) = none :=
        if_neg fun all => other all.2.2
      unfold State.request
      dsimp only
      rw [track_tracked tracked, active_own tracked, Option.isSome_some, if_pos rfl]
      by_cases room : state.requests.length < maxBufferedEvents
      · rw [if_pos room]
        intro after found _
        rw [tracked] at found
        cases found
        refine ⟨rfl, fun kind => ?_⟩
        dsimp only
        by_cases hit : kind = .userRequest
        · subst hit
          rw [if_pos ⟨rfl, rfl, rfl⟩, placed, Recorder.step, if_neg (by simpa [full] using room)]
          ext key
          · rfl
          · cases key with
            | item asked => simp [view]
            | request asked =>
              simp only [view, if_true, Function.update_apply, Key.request.injEq, pending,
                KeyedMap.find?_insertNew, fresh]
              split
              · rename_i own
                simp [own, fresh, Request.concerns]
              · rfl
          · rfl
        · rw [apart hit]
          exact view_requests hit
      · rw [if_neg room]
        intro after found _
        rw [modify_own tracked] at found
        cases found
        refine ⟨rfl, fun kind => ?_⟩
        rw [view_mark]
        dsimp only
        by_cases hit : kind = .userRequest
        · subst hit
          rw [if_pos rfl, if_pos ⟨rfl, rfl, rfl⟩, placed, Recorder.step,
            if_pos (by simpa [full] using room)]
          rfl
        · rw [if_neg hit, apart hit]
          rfl
    · have unchanged : state.request id thread other now = state := by
        unfold State.request
        dsimp only
        rw [track_tracked tracked, active_stale tracked same, Option.isSome_none,
          if_neg Bool.false_ne_true]
      rw [unchanged]
      refine .still tracked (.refl state) fun kind mark told => ?_
      rw [if_neg fun all => same all.2.1.symm] at told
      cases told
  · refine .still tracked (.request own fresh) fun kind mark told => ?_
    rw [if_neg fun all => own all.1.symm] at told
    cases told

theorem moves_finishRequest (tracked : state.turns.find? thread = some record) {id : RequestId}
    (owned : Owned state) : Moves state (state.finishRequest id now) thread record fun kind =>
      if kind = .userRequest then some (.settle (.request id) now) else none := by
  by_cases own : ∃ request, state.requests.find? id = some request ∧ request.thread = thread
  · obtain ⟨request, found, rfl⟩ := own
    obtain ⟨active, listed, named⟩ := owned id request found
    rw [tracked] at listed
    cases listed
    have concerns : request.concerns request.thread record.id = true := by
      simp [Request.concerns, named]
    have opened : pending state request.thread record.id id = some request.started := by
      simp [pending, found, concerns]
    unfold State.finishRequest
    rw [found]
    dsimp only
    rw [if_pos (by rw [← named]; exact active_isSome_iff.mpr ⟨record, tracked, rfl⟩)]
    intro after kept _
    rw [modify_own tracked] at kept
    cases kept
    refine ⟨record_kept.2, fun kind => ?_⟩
    rw [view_record]
    dsimp only
    by_cases hit : kind = .userRequest
    · subst hit
      rw [if_pos rfl, if_pos rfl, placed, Recorder.step]
      have reads : (view (pending state request.thread record.id) record .userRequest).opened
          (.request id) = some request.started := opened
      rw [reads]
      dsimp only
      rw [Recorder.close]
      congr 1
      ext key
      · rfl
      · cases key with
        | item asked => simp [view]
        | request asked =>
          simp only [view, if_true, Function.update_apply, Key.request.injEq, pending,
            KeyedMap.find?_erase]
          split
          · rfl
          · rfl
      · rfl
    · rw [if_neg hit, if_neg hit]
      exact view_requests hit
  · refine .still tracked (.finishRequest fun request found same =>
      own ⟨request, found, same.symm⟩) fun kind mark told => ?_
    split at told
    · rename_i hit
      cases told
      apply step_settle
      have closed : pending state thread record.id id = none := by
        rw [pending_eq_none_iff]
        intro request found
        have apart : request.thread ≠ thread := fun same => own ⟨request, found, same⟩
        simp [Request.concerns, apart]
      simp [view, hit, closed]
    · cases told

/-- What `take` gives, and that only the receipts change. -/
theorem take_eq_some {owner : String} {pair : ObservedTurnTiming × State}
    (taken : state.take owner other = some pair) : ∃ index receipt,
      (state.completed.findIdx? fun receipt => receipt.thread = owner && receipt.turn = other) =
        some index ∧ state.completed[index]? = some receipt ∧
      pair = (receipt.timing, { state with completed := state.completed.eraseIdx index }) := by
  unfold State.take at taken
  simp only [Option.bind_eq_bind, Option.bind_eq_some_iff] at taken
  obtain ⟨index, first, receipt, held, same⟩ := taken
  exact ⟨index, receipt, first, held, (Option.some.inj same).symm⟩

/-- A request is never an item. -/
def Plain : Observed → Prop
  | .itemStarted _ _ item _ => item ≠ .userRequest
  | .itemCompleted _ _ item _ => item ≠ .userRequest
  | _ => True

theorem observedItem_kind {params : Value F} {item : String × Kind × String}
    (found : observedItem params = some item) : item.2.1 ≠ .userRequest := by
  unfold observedItem at found
  simp only [Option.bind_eq_bind, Option.bind_eq_some_iff] at found
  obtain ⟨_, _, _, _, kind, typed, same⟩ := found
  cases same
  unfold itemKind at typed
  simp only [Option.bind_eq_bind, Option.bind_eq_some_iff] at typed
  obtain ⟨_, _, typed⟩ := typed
  split at typed
  · cases typed
    exact fun same => by cases same
  · split at typed
    · cases typed
      exact fun same => by cases same
    · split at typed
      · cases typed
        exact fun same => by cases same
      · cases typed

theorem observedReview_kind {params : Value F} {item : String × Kind × String}
    (found : observedReview params = some item) : item.2.1 ≠ .userRequest := by
  unfold observedReview at found
  simp only [Option.bind_eq_bind, Option.bind_eq_some_iff] at found
  obtain ⟨_, _, _, _, same⟩ := found
  cases same
  exact fun same => by cases same

theorem observed_plain {event : ServerEvent F} {said : Observed}
    (observes : observed event = some said) : Plain said := by
  cases event with
  | request id method params =>
    simp only [observed, Option.bind_eq_bind] at observes
    split at observes
    · simp only [Option.bind_eq_some_iff] at observes
      obtain ⟨_, _, _, _, same⟩ := observes
      cases same
      trivial
    · cases observes
  | notification method params =>
    simp only [observed, Option.bind_eq_bind, Option.bind_eq_some_iff] at observes
    obtain ⟨owner, _, observes⟩ := observes
    split at observes
    · obtain ⟨_, _, rfl⟩ := Option.map_eq_some_iff.mp observes
      trivial
    split at observes
    · obtain ⟨_, _, rfl⟩ := Option.map_eq_some_iff.mp observes
      trivial
    split at observes
    · obtain ⟨_, item, rfl⟩ := Option.map_eq_some_iff.mp observes
      exact observedItem_kind item
    split at observes
    · obtain ⟨_, item, rfl⟩ := Option.map_eq_some_iff.mp observes
      exact observedItem_kind item
    split at observes
    · obtain ⟨_, item, rfl⟩ := Option.map_eq_some_iff.mp observes
      exact observedReview_kind item
    split at observes
    · obtain ⟨_, item, rfl⟩ := Option.map_eq_some_iff.mp observes
      exact observedReview_kind item
    split at observes
    · obtain ⟨_, _, rfl⟩ := Option.map_eq_some_iff.mp observes
      trivial
    split at observes
    · cases observes
      trivial
    · cases observes
  | other => cases observes

theorem moves_resolved (tracked : state.turns.find? thread = some record) {owner : String}
    {id : RequestId} (owned : Owned state) :
    Moves state (state.observe now (.resolved owner id)) thread record fun kind =>
      if owner = thread ∧ kind = .userRequest then some (.settle (.request id) now) else none := by
  unfold State.observe
  dsimp only
  by_cases own : owner = thread
  · subst own
    simp only [true_and]
    split
    · exact moves_finishRequest tracked owned
    · rename_i foreign
      refine .still tracked (.refl state) fun kind mark told => ?_
      split at told
      · rename_i hit
        cases told
        apply step_settle
        have closed : pending state owner record.id id = none := by
          rw [pending_eq_none_iff]
          intro request found
          simp only [found, Option.any_some, decide_eq_true_eq] at foreign
          simp [Request.concerns, foreign]
        simp [view, hit, closed]
      · cases told
  · simp only [own, false_and, if_false]
    split
    · rename_i asked
      refine .silent tracked (.finishRequest fun request found same => ?_)
      simp only [found, Option.any_some, decide_eq_true_eq] at asked
      exact own (asked.symm.trans same.symm)
    · exact .silent tracked (.refl state)

theorem moves_departed (tracked : state.turns.find? thread = some record) {owner : String}
    {reverted : Bool} :
    Moves state (state.observe now (.departed owner reverted)) thread record fun _ => none := by
  have left := @moves_leave state thread record tracked owner
  unfold State.observe
  dsimp only
  split
  · exact left
  · exact left

/-- One call moves every category of a turn by what it says of it. -/
theorem moves_perform {call : Call F} (tracked : state.turns.find? thread = some record)
    (owned : Owned state) (fresh : Fresh state call) :
    Moves state (state.perform call) thread record fun kind => seen thread record.id kind call := by
  cases call with
  | observe event now =>
    unfold State.perform seen
    dsimp only
    cases said : observed event with
    | none => exact .silent tracked (.refl state)
    | some event =>
      cases event with
      | requested id owner other => exact moves_request tracked (fresh _ _ _ _ _ rfl said)
      | turnStarted owner other => exact moves_startTurn tracked
      | turnCompleted owner other => exact moves_completeTurn tracked
      | itemStarted owner other item id =>
        exact moves_change tracked (observed_plain said) start_kept
          fun _ _ => view_start
      | itemCompleted owner other item id =>
        exact moves_change tracked (observed_plain said) finish_kept
          fun _ _ => view_finish
      | resolved owner id => exact moves_resolved tracked owned
      | departed owner reverted => exact moves_departed tracked
  | responseWritten id now => exact moves_finishRequest tracked owned
  | take owner other =>
    unfold State.perform seen
    dsimp only
    cases taken : state.take owner other with
    | none => exact .silent tracked (.refl state)
    | some pair =>
      obtain ⟨index, receipt, _, _, rfl⟩ := take_eq_some taken
      exact .silent tracked ⟨rfl, fun _ => rfl⟩
  | clear => exact .gone rfl

end Own

end Decodex.Guarantees.TimingSteps
