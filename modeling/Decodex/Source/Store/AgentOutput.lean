import Decodex.Library.CharBoundary
import Decodex.Source.Core.AgentWork
import Decodex.Source.Store.Error

/-!
# Live output of a running turn

Source: database/src/agent_output.rs:10-17,193-253 (`AgentOutputUpdate`,
`update_agent_output_record`) and database/schema.sql:302-317 (`agent_live_output`). The call is
one immediate transaction. The work items are read only. Left out are the column `id`, which only
orders reads, `summary_parts`, which only the reasoning summaries fill, and the revision that
wakes readers after a change.
-/
namespace Decodex.Source.Store.AgentOutput

open Decodex.Library Decodex.Source.Core

structure AgentOutputUpdate where
  threadId : String
  turnId : String
  itemId : String
  kind : String
  text : String
  completed : Bool
  deriving DecidableEq, Repr

structure LiveOutputRow where
  workId : String
  turnId : String
  itemId : String
  text : String
  truncated : Bool
  kind : String
  completed : Bool
  deriving DecidableEq, Repr

/-- The most bytes of a saved text. -/
def maxOutputBytes : Nat := 65536

/-- `agent_live_output`: one row for each item of a turn. -/
def agentLiveOutput : Schema LiveOutputRow (String × String × String) where
  key row := (row.workId, row.turnId, row.itemId)
  check row :=
    ["agentMessage", "plan", "reasoningSummary"].contains row.kind &&
      byteLength row.text.toList ≤ maxOutputBytes

/-- The work whose turn is running on the thread. -/
def runningWork (works : Table workItemTable) (thread turn : String) : Option AgentWorkItem :=
  works.rows.find? fun work =>
    work.codexThreadId = some thread && work.activeTurnId = some turn &&
      work.dispatchState = .running

/-- `content.truncate(end)` behind the loop that backs off to a character boundary. -/
def cutText (text : String) : String := String.ofList (cutAt maxOutputBytes text.toList)

/-- The text and the mark that an update leaves beside what was saved. -/
def outputContent (previous : Option LiveOutputRow) (update : AgentOutputUpdate) : String × Bool :=
  let joined := if update.completed then (update.text, false)
    else ((previous.map (·.text)).getD "" ++ update.text, (previous.map (·.truncated)).getD false)
  (cutText joined.1, joined.2 || maxOutputBytes < byteLength joined.1.toList)

/-- `INSERT … ON CONFLICT(work_id,turn_id,item_id) DO UPDATE SET text, truncated, completed`. -/
def upsertOutput (table : Table agentLiveOutput) (row : LiveOutputRow) :
    Option (Table agentLiveOutput) :=
  if (table.find? (agentLiveOutput.key row)).isSome then
    table.updateKey (agentLiveOutput.key row) fun old =>
      { old with text := row.text, truncated := row.truncated, completed := row.completed }
  else table.insert row

/-- The part of `update_agent_output_record` behind its checks. -/
def writeOutput (table : Table agentLiveOutput) (work : String) (update : AgentOutputUpdate) :
    Except StoreError (Table agentLiveOutput) :=
  let content := outputContent (table.find? (work, update.turnId, update.itemId)) update
  execute <| upsertOutput
    (table.deleteWhere fun row => row.workId = work && row.turnId ≠ update.turnId)
    ⟨work, update.turnId, update.itemId, content.1, content.2, update.kind, update.completed⟩

/-- The rows of one turn. -/
def countOutput (table : Table agentLiveOutput) (work turn : String) : Nat :=
  table.rows.countP fun row => row.workId = work && row.turnId = turn

/-- `update_agent_output_record`, with whether it changed anything. -/
def updateAgentOutputRecord (works : Table workItemTable) (table : Table agentLiveOutput)
    (update : AgentOutputUpdate) : Except StoreError (Bool × Table agentLiveOutput) :=
  if ¬(update.kind = "agentMessage" ∨ update.kind = "plan") then
    .error (.invalidInput "invalid live output kind")
  else if 512 < update.threadId.utf8ByteSize ∨ 512 < update.turnId.utf8ByteSize ∨
      512 < update.itemId.utf8ByteSize ∨ update.itemId.isEmpty = true then
    .error (.invalidInput "invalid live output identity")
  else
    match runningWork works update.threadId update.turnId with
    | none => .ok (false, table)
    | some work =>
      match table.find? (work.id, update.turnId, update.itemId) with
      | some previous =>
        if previous.kind ≠ update.kind then .error (.invalidInput "live output kind changed")
        else if previous.completed = true ∧ update.completed = false then .ok (false, table)
        else (writeOutput table work.id update).map fun written => (true, written)
      | none =>
        if 32 ≤ countOutput table work.id update.turnId then .ok (false, table)
        else (writeOutput table work.id update).map fun written => (true, written)

variable {works : Table workItemTable} {table after : Table agentLiveOutput}
  {update : AgentOutputUpdate} {work : String}

theorem runningWork_some {thread turn : String} {item : AgentWorkItem}
    (found : runningWork works thread turn = some item) :
    item ∈ works.rows ∧ item.codexThreadId = some thread ∧ item.activeTurnId = some turn ∧
      item.dispatchState = .running := by
  have named := List.find?_some found
  simp only [Bool.and_eq_true, decide_eq_true_eq] at named
  exact ⟨List.mem_of_find?_eq_some found, named.1.1, named.1.2, named.2⟩

/-- The running work of a thread is the row that runs the turn on it. -/
theorem runningWork_of_mem {thread turn : String} {item : AgentWorkItem}
    (listed : item ∈ works.rows) (bound : item.codexThreadId = some thread)
    (active : item.activeTurnId = some turn) (running : item.dispatchState = .running) :
    runningWork works thread turn = some item := by
  cases found : runningWork works thread turn with
  | none =>
    have := List.find?_eq_none.mp found item listed
    simp [bound, active, running] at this
  | some other =>
    obtain ⟨member, same, _⟩ := runningWork_some found
    by_cases key : other.id = item.id
    · rw [Table.eq_of_key member listed key]
    · have apart := Table.no_clash member listed key
      simp [workItemTable, same, bound] at apart

theorem upsertOutput_find {row : LiveOutputRow} (done : upsertOutput table row = some after)
    (key : String × String × String) :
    after.find? key =
      if key = agentLiveOutput.key row then
        some { row with kind := ((table.find? key).map (·.kind)).getD row.kind }
      else table.find? key := by
  unfold upsertOutput at done
  cases held : table.find? (agentLiveOutput.key row) with
  | none =>
    rw [held, Option.isSome_none, if_neg Bool.false_ne_true] at done
    rw [Table.find?_insert done key]
    by_cases same : key = agentLiveOutput.key row
    · rw [if_pos same.symm, if_pos same, same, held]
      rfl
    · rw [if_neg fun other => same other.symm, if_neg same]
  | some old =>
    rw [held, Option.isSome_some, if_pos rfl] at done
    rw [Table.find?_updateKey_of_found done held (fun _ => rfl) key]
    by_cases same : key = agentLiveOutput.key row
    · obtain ⟨_, named⟩ := Table.find?_eq_some_iff.mp held
      simp only [agentLiveOutput, Prod.mk.injEq] at named
      rw [if_pos same, if_pos same, same, held]
      simp [named]
    · rw [if_neg same, if_neg same]

theorem cutText_le (text : String) : byteLength (cutText text).toList ≤ maxOutputBytes := by
  unfold cutText
  rw [String.toList_ofList]
  exact cutAt_le _ _

/-- The statement is never refused: the row passes its check and its key is free or its own. -/
theorem upsertOutput_accepted (table : Table agentLiveOutput) (row : LiveOutputRow)
    (checked : agentLiveOutput.check row = true) : ∃ after, upsertOutput table row = some after := by
  unfold upsertOutput
  split
  · apply Table.updateWhere_of_apart
    · intro old listed _
      have before := table.checked old listed
      simp only [agentLiveOutput, Bool.and_eq_true] at before checked ⊢
      exact ⟨before.1, checked.2⟩
    · exact fun _ => rfl
    · exact fun _ _ clash => clash
  · rename_i free
    apply Table.insert_of_compatible _ _ checked
    intro old listed
    refine ⟨?_, rfl, rfl⟩
    intro same
    exact free (by rw [← same, Table.find?_of_mem listed]; rfl)

end Decodex.Source.Store.AgentOutput
