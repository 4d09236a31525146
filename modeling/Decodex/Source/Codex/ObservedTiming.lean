import Mathlib.Data.List.Sort
import Mathlib.Logic.Function.Basic
import Decodex.Library.IntervalUnion
import Decodex.Library.JsonValue
import Decodex.Library.KeyedMap

/-!
# Observed timing of native turns

Source: crates/decodex-codex/src/app_server_client/observed_timing.rs and
crates/decodex-codex/src/app_server_client.rs:147-157,195-221 (`RequestId`, `ServerEvent`). An
instant is the nanoseconds of the monotonic clock; the calls are made one at a time under the mutex.
Left out are a poisoned mutex, and what the events carry that the observer does not read.
-/
namespace Decodex.Source.Codex.ObservedTiming

open Decodex.Library

def maxBufferedEvents : Nat := 256

/-- A number is an `i64`. -/
inductive RequestId where
  | number (value : Int)
  | string (value : String)
  deriving DecidableEq, Repr

inductive ServerEvent (F : Type) where
  | notification (method : String) (params : Value F)
  | request (id : RequestId) (method : String) (params : Value F)
  /-- `UnmatchedResponse` and `Closed`. -/
  | other

inductive Kind where
  | modelOutput | compaction | tool | review | userRequest
  deriving DecidableEq, Repr

structure ObservedTurnTiming where
  modelOutputMs : Option Nat := none
  compactionMs : Option Nat := none
  toolActivityMs : Option Nat := none
  autoReviewMs : Option Nat := none
  userRequestMs : Option Nat := none
  deriving DecidableEq, Repr

/-- `end.duration_since(start).as_millis()`. -/
def asMillis (span : Interval) : Nat := (span.2 - span.1) / 1000000

/-- `u128::checked_add`. -/
def checkedAdd (left right : Nat) : Option Nat :=
  if left + right < 2 ^ 128 then some (left + right) else none

/-- The loop of `union_ms`, with the interval it is in and the total behind that. -/
def sumMs (span : Interval) (total : Nat) : List Interval → Option Nat
  | [] => do
    let total ← checkedAdd total (asMillis span)
    if total < 2 ^ 64 then some total else none
  | next :: rest =>
    if next.1 ≤ span.2 then sumMs (span.1, max span.2 next.2) total rest
    else do
      let total ← checkedAdd total (asMillis span)
      sumMs next total rest

/-- `union_ms`. -/
def unionMs (spans : List Interval) : Option Nat :=
  match spans.insertionSort fun a b => a.1 ≤ b.1 with
  | [] => none
  | first :: rest => sumMs first 0 rest

structure Turn where
  id : String
  started : Bool
  opened : KeyedMap (Kind × String) Nat
  spans : Kind → List Interval
  incomplete : Kind → Bool

def Turn.new (id : String) (started : Bool) : Turn :=
  ⟨id, started, .empty, fun _ => [], fun _ => false⟩

/-- `self.incomplete[kind.index()] = true`. -/
def Turn.mark (turn : Turn) (kind : Kind) : Turn :=
  { turn with incomplete := Function.update turn.incomplete kind true }

def Turn.start (turn : Turn) (kind : Kind) (id : String) (now : Nat) : Turn :=
  if turn.opened.length < maxBufferedEvents then
    { turn with opened := turn.opened.insertNew (kind, id) now }
  else turn.mark kind

def Turn.record (turn : Turn) (kind : Kind) (start stop : Nat) : Turn :=
  if start ≤ stop ∧ (turn.spans kind).length < maxBufferedEvents then
    { turn with spans := Function.update turn.spans kind (turn.spans kind ++ [(start, stop)]) }
  else turn.mark kind

def Turn.finish (turn : Turn) (kind : Kind) (id : String) (now : Nat) : Turn :=
  match turn.opened.find? (kind, id) with
  | some start => { turn with opened := turn.opened.erase (kind, id) }.record kind start now
  | none => turn.mark kind

/-- The closure of `timing`, behind the loop over what is still open. -/
def Turn.duration (turn : Turn) (kind : Kind) : Option Nat :=
  if turn.incomplete kind || turn.opened.entries.any fun entry => entry.1.1 = kind then none
  else unionMs (turn.spans kind)

def Turn.timing (turn : Turn) : ObservedTurnTiming :=
  if turn.started then
    ⟨turn.duration .modelOutput, turn.duration .compaction, turn.duration .tool,
      turn.duration .review, turn.duration .userRequest⟩
  else {}

/-- `identity`. -/
def identity {F : Type} (value : Value F) : Option String :=
  value.asStr.filter fun text => !text.isEmpty && text.utf8ByteSize ≤ 512

/-- `blocking_request`. -/
def blockingRequest {F : Type} (method : String) (params : Value F) : Bool :=
  ["item/commandExecution/requestApproval", "item/fileChange/requestApproval",
      "item/permissions/requestApproval", "mcpServer/elicitation/request"].contains method ||
    (method = "item/tool/requestUserInput" &&
      match params.get "isBlocking" with
      | none | some .null | some (.bool true) => true
      | _ => false)

/-- `item_kind`. -/
def itemKind {F : Type} (item : Value F) : Option Kind := do
  let type ← (item.member "type").asStr
  if ["reasoning", "agentMessage", "plan"].contains type &&
      (item.member "delivery").asStr ≠ some "async" then some .modelOutput
  else if type = "contextCompaction" then some .compaction
  else if ["commandExecution", "dynamicToolCall", "mcpToolCall", "collabAgentToolCall", "webSearch",
      "fileChange", "imageGeneration", "imageView", "sleep"].contains type then some .tool
  else none

/-- `serde_json::from_value::<RequestId>`. -/
def requestId {F : Type} : Value F → Option RequestId
  | .integer value => if -2 ^ 63 ≤ value ∧ value < 2 ^ 63 then some (.number value) else none
  | .string value => some (.string value)
  | _ => none

/-- What the observer reads of an event. -/
inductive Observed where
  | requested (id : RequestId) (thread turn : String)
  | turnStarted (thread turn : String)
  | turnCompleted (thread turn : String)
  | itemStarted (thread turn : String) (kind : Kind) (id : String)
  | itemCompleted (thread turn : String) (kind : Kind) (id : String)
  | resolved (thread : String) (id : RequestId)
  /-- The thread is closed, archived, deleted or, where it says so, reverted. -/
  | departed (thread : String) (reverted : Bool)
  deriving DecidableEq, Repr

/-- The fields of an item event. -/
def observedItem {F : Type} (params : Value F) : Option (String × Kind × String) := do
  let turn ← identity (params.member "turnId")
  let id ← identity ((params.member "item").member "id")
  let kind ← itemKind (params.member "item")
  some (turn, kind, id)

/-- The fields of a review event. -/
def observedReview {F : Type} (params : Value F) : Option (String × Kind × String) := do
  let turn ← identity (params.member "turnId")
  let id ← identity (params.member "reviewId")
  some (turn, .review, id)

/-- The matches of `observe` and `observe_at`. -/
def observed {F : Type} : ServerEvent F → Option Observed
  | .request id method params =>
    if blockingRequest method params then do
      let thread ← identity (params.member "threadId")
      let turn ← identity (params.member "turnId")
      some (.requested id thread turn)
    else none
  | .notification method params => do
    let thread ← identity (params.member "threadId")
    if method = "turn/started" then
      (identity ((params.member "turn").member "id")).map (.turnStarted thread)
    else if method = "turn/completed" then
      (identity ((params.member "turn").member "id")).map (.turnCompleted thread)
    else if method = "item/started" then
      (observedItem params).map fun item => .itemStarted thread item.1 item.2.1 item.2.2
    else if method = "item/completed" then
      (observedItem params).map fun item => .itemCompleted thread item.1 item.2.1 item.2.2
    else if method = "item/autoApprovalReview/started" then
      (observedReview params).map fun item => .itemStarted thread item.1 item.2.1 item.2.2
    else if method = "item/autoApprovalReview/completed" then
      (observedReview params).map fun item => .itemCompleted thread item.1 item.2.1 item.2.2
    else if method = "serverRequest/resolved" then
      (requestId (params.member "requestId")).map (.resolved thread)
    else if ["thread/closed", "thread/archived", "thread/deleted", "thread/reverted"].contains
        method then
      some (.departed thread (method = "thread/reverted"))
    else none
  | .other => none

structure Request where
  thread : String
  turn : String
  started : Nat
  deriving DecidableEq, Repr

structure Receipt where
  thread : String
  turn : String
  timing : ObservedTurnTiming
  deriving DecidableEq, Repr

structure State where
  turns : KeyedMap String Turn
  requests : KeyedMap RequestId Request
  completed : List Receipt

def State.empty : State := ⟨.empty, .empty, []⟩

/-- What `State::turn` inserts. -/
def State.track (state : State) (thread turn : String) : State :=
  if state.turns.find? thread = none ∧ state.turns.length < maxBufferedEvents then
    { state with turns := state.turns.insertNew thread (.new turn false) }
  else state

/-- What it returns. -/
def State.active (state : State) (thread turn : String) : Option Turn :=
  (state.turns.find? thread).filter fun active => active.id = turn

/-- A change of the turn that `State::turn` returns. -/
def State.change (state : State) (thread turn : String) (change : Turn → Turn) : State :=
  let state := state.track thread turn
  if (state.active thread turn).isSome then
    { state with turns := state.turns.modify thread change }
  else state

/-- `State::finish_request`. -/
def State.finishRequest (state : State) (id : RequestId) (now : Nat) : State :=
  match state.requests.find? id with
  | none => state
  | some request =>
    let state := { state with requests := state.requests.erase id }
    if (state.active request.thread request.turn).isSome then
      { state with
        turns := state.turns.modify request.thread fun turn =>
          turn.record .userRequest request.started now }
    else state

def Request.concerns (request : Request) (thread turn : String) : Bool :=
  request.thread = thread && request.turn = turn

/-- The branch for a blocking request. -/
def State.request (state : State) (id : RequestId) (thread turn : String) (now : Nat) : State :=
  let room := state.requests.length < maxBufferedEvents
  let state := state.track thread turn
  if (state.active thread turn).isSome then
    if room then { state with requests := state.requests.insertNew id ⟨thread, turn, now⟩ }
    else { state with turns := state.turns.modify thread fun active => active.mark .userRequest }
  else state

/-- The turn and the requests of a thread go. -/
def State.leave (state : State) (thread : String) : State :=
  { state with
    turns := state.turns.erase thread
    requests := state.requests.retain fun _ request => request.thread ≠ thread }

/-- The branch for `turn/started`. -/
def State.startTurn (state : State) (thread turn : String) : State :=
  let state := if (state.turns.find? thread).any (fun active => active.id ≠ turn) then
    state.leave thread else state
  if state.turns.find? thread = none ∧ state.turns.length < maxBufferedEvents then
    { state with turns := state.turns.insertNew thread (.new turn true) }
  else state

/-- The branch for `turn/completed`. -/
def State.completeTurn (state : State) (thread turn : String) : State :=
  match state.active thread turn with
  | none => state
  | some active =>
    let pending := state.requests.entries.any fun entry => entry.2.concerns thread turn
    let active := if pending then active.mark .userRequest else active
    let kept := if state.completed.length = maxBufferedEvents then state.completed.tail
      else state.completed
    { turns := state.turns.erase thread
      requests := state.requests.retain fun _ request => !request.concerns thread turn
      completed := kept ++ [⟨thread, turn, active.timing⟩] }

/-- `observe_at`. -/
def State.observe (state : State) (now : Nat) : Observed → State
  | .requested id thread turn => state.request id thread turn now
  | .turnStarted thread turn => state.startTurn thread turn
  | .turnCompleted thread turn => state.completeTurn thread turn
  | .itemStarted thread turn kind id =>
    state.change thread turn fun active => active.start kind id now
  | .itemCompleted thread turn kind id =>
    state.change thread turn fun active => active.finish kind id now
  | .resolved thread id =>
    if (state.requests.find? id).any (fun request => request.thread = thread) then
      state.finishRequest id now
    else state
  | .departed thread reverted =>
    let state := state.leave thread
    if reverted then
      { state with completed := state.completed.filter fun receipt => receipt.thread ≠ thread }
    else state

/-- `take`, with the receipts that it leaves. -/
def State.take (state : State) (thread turn : String) : Option (ObservedTurnTiming × State) := do
  let index ← state.completed.findIdx? fun receipt =>
    receipt.thread = thread && receipt.turn = turn
  let receipt ← state.completed[index]?
  some (receipt.timing, { state with completed := state.completed.eraseIdx index })

/-- `clear`. -/
def State.clear (state : State) : State := { state with turns := .empty, requests := .empty }

inductive Call (F : Type) where
  | observe (event : ServerEvent F) (now : Nat)
  | responseWritten (id : RequestId) (now : Nat)
  | take (thread turn : String)
  | clear

def State.perform {F : Type} (state : State) : Call F → State
  | .observe event now =>
    match observed event with
    | some event => state.observe now event
    | none => state
  | .responseWritten id now => state.finishRequest id now
  | .take thread turn => ((state.take thread turn).map (·.2)).getD state
  | .clear => state.clear

def stateAfter {F : Type} (calls : List (Call F)) : State := calls.foldl State.perform .empty

end Decodex.Source.Codex.ObservedTiming
