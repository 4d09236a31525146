import Decodex.Library.LeastUnused
import Decodex.Library.Run
import Decodex.Source.Core.AgentWork
import Decodex.Source.Store.Error
import Mathlib.Data.List.Sort

/-!
# Display slots of agents

Source: database/src/agent_slots.rs:8-142 and database/schema.sql:240-242,377-382. Each call is
one immediate transaction. Other writers change the work items in any way; the foreign key of
`agent_slots` deletes the bindings of a work item that goes. A binding is only ever inserted
for a work item that the same transaction has read, so that key never refuses one.
-/
namespace Decodex.Source.Store

open Decodex.Library Decodex.Source.Core

/-- A live display binding, independent of work history and execution capacity. -/
structure AgentSlot where
  key : String
  workId : String
  threadId : Option String
  number : Nat
  deriving DecidableEq, Repr

/-- The columns that no statement changes. -/
def AgentSlot.binding (slot : AgentSlot) : String × String × Nat :=
  (slot.key, slot.workId, slot.number)

def agentSlots : Schema AgentSlot String where
  key row := row.key
  clash left right := left.number = right.number

structure SlotStore where
  agentWorkItems : Table workItemTable
  agentSlots : Table agentSlots
  agentClosedNativeThreads : List String

namespace SlotStore

def empty : SlotStore := ⟨.empty, .empty, []⟩

end SlotStore

/-- An entry of the `active` list. -/
structure ActiveAgent where
  key : String
  work : String
  thread : Option String
  deriving DecidableEq, Repr

/-- `ORDER BY created_at_micros,id`. -/
def createdBefore (left right : AgentWorkItem) : Prop :=
  left.createdAtMicros < right.createdAtMicros ∨
    (left.createdAtMicros = right.createdAtMicros ∧ left.id ≤ right.id)

instance decidableCreatedBefore : DecidableRel createdBefore := fun _ _ =>
  inferInstanceAs (Decidable (_ ∨ _))

/-- The oldest work without a parent. -/
def personalRoot (works : List AgentWorkItem) : Option AgentWorkItem :=
  ((works.filter fun work => work.parentGoalId = none).insertionSort createdBefore).head?

def slotEligible (work : AgentWorkItem) : Bool :=
  work.parentGoalId = none || work.kind ≠ .task || work.status ≠ .resolved ||
    work.dispatchState ≠ .idle

/-- The `eligible` set. -/
def eligibleWorks (works : List AgentWorkItem) : List String :=
  (works.filter slotEligible).map (·.id)

/-- `read`: `ORDER BY slot`. -/
def readSlots (slots : Table agentSlots) : List AgentSlot :=
  slots.rows.insertionSort fun left right => left.number ≤ right.number

/-- The loop over `retired`. -/
def retireSlots (slots : Table agentSlots) (retired : List String) : Table agentSlots :=
  retired.foldl (fun slots key => slots.deleteWhere fun row => row.key = key) slots

/-- The root that the `active` list names. -/
def namedRoot (works : List AgentWorkItem) (active : List ActiveAgent) : Option AgentWorkItem :=
  (personalRoot works).filter fun root => active.any fun agent => agent.work = root.id

/-- `INSERT OR IGNORE` of the root's slot. -/
def bindRoot (slots : Table agentSlots) : Option AgentWorkItem → Table agentSlots
  | none => slots
  | some root => (slots.insert ⟨root.id, root.id, root.codexThreadId, 0⟩).getD slots

/-- The first loop over `current`. -/
def pruneSlots (slots : Table agentSlots) (eligible : List String) : Table agentSlots :=
  (readSlots slots).foldl (fun slots slot =>
    if slot.number ≠ 0 ∧ slot.workId ∉ eligible then
      slots.deleteWhere fun row => row.key = slot.key
    else slots) slots

/-- `current.retain`. -/
def retainSlots (current : List AgentSlot) (eligible : List String) : List AgentSlot :=
  current.filter fun slot => slot.number = 0 || decide (slot.workId ∈ eligible)

/-- `(1..).find(|n| !used.contains(n))` over `u32`. -/
def displayNumber (used : List Nat) : Except StoreError Nat :=
  if leastUnused used < 2 ^ 32 then .ok (leastUnused used)
  else .error (.invalidInput "no display slot available")

/-- `UPDATE agent_slots SET thread_id=?2 WHERE agent_key=?1 AND thread_id IS NOT ?2`. -/
def setSlotThread (slots : Table agentSlots) (key : String) (thread : Option String) :
    Option (Table agentSlots) :=
  slots.updateWhere (fun row => row.key = key && row.threadId ≠ thread)
    fun row => { row with threadId := thread }

/-- The condition of the second `INSERT`. -/
def mayBind (slots : Table agentSlots) (closed : List String) (agent : ActiveAgent) : Bool :=
  (slots.rows.all fun row => row.key ≠ agent.key) &&
    !(agent.thread.any fun thread => decide (thread ∈ closed))

/-- One round of the loop over `active`, with the table and the `used` numbers. -/
def bindActive (eligible : List String) (current : List AgentSlot) (closed : List String)
    (bound : Table agentSlots × List Nat) (agent : ActiveAgent) :
    Except StoreError (Table agentSlots × List Nat) :=
  if agent.work ∉ eligible then .ok bound
  else if current.any fun slot => slot.key = agent.key then do
    let slots ← execute (setSlotThread bound.1 agent.key agent.thread)
    .ok (slots, bound.2)
  else do
    let number ← displayNumber bound.2
    if mayBind bound.1 closed agent then do
      let slots ← execute (bound.1.insert ⟨agent.key, agent.work, agent.thread, number⟩)
      .ok (slots, number :: bound.2)
    else .ok bound

/-- What stands before the loop over `active`: retired, ineligible and root bindings settled. -/
def settledSlots (store : SlotStore) (active : List ActiveAgent) (retired : List String) :
    Table agentSlots :=
  pruneSlots
    (bindRoot (retireSlots store.agentSlots retired) (namedRoot store.agentWorkItems.rows active))
    (eligibleWorks store.agentWorkItems.rows)

/-- `reconcile_agent_slots`. -/
def reconcileAgentSlots (store : SlotStore) (active : List ActiveAgent) (retired : List String) :
    Except StoreError (List AgentSlot × SlotStore) := do
  let works := store.agentWorkItems.rows
  let slots := bindRoot (retireSlots store.agentSlots retired) (namedRoot works active)
  let eligible := eligibleWorks works
  let current := retainSlots (readSlots slots) eligible
  let bound ← active.foldlM (bindActive eligible current store.agentClosedNativeThreads)
    (settledSlots store active retired, current.map (·.number))
  .ok (readSlots bound.1, { store with agentSlots := bound.1 })

/-- One round of `release_native_agent_slots`. -/
def releaseThread (store : SlotStore) (thread : String) : SlotStore where
  agentWorkItems := store.agentWorkItems
  agentClosedNativeThreads :=
    if (store.agentSlots.rows.any fun row => row.threadId = some thread && row.key = row.workId) ||
        (store.agentWorkItems.rows.any fun work => work.codexThreadId = some thread) ||
        decide (thread ∈ store.agentClosedNativeThreads)
    then store.agentClosedNativeThreads
    else store.agentClosedNativeThreads ++ [thread]
  agentSlots := store.agentSlots.deleteWhere fun row =>
    row.threadId = some thread && row.key ≠ row.workId

def releaseNativeAgentSlots (store : SlotStore) (threads : List String) : SlotStore :=
  threads.foldl releaseThread store

def resumeNativeAgentSlot (store : SlotStore) (thread : String) : SlotStore :=
  { store with
    agentClosedNativeThreads := store.agentClosedNativeThreads.filter fun closed =>
      closed ≠ thread }

/-- Other writers leave `works`; the foreign key deletes the bindings of what is gone. -/
def changeWorks (store : SlotStore) (works : Table workItemTable) : SlotStore :=
  { store with
    agentWorkItems := works
    agentSlots := store.agentSlots.deleteWhere fun row =>
      works.rows.all fun work => work.id ≠ row.workId }

inductive SlotEvent where
  | reconcile (active : List ActiveAgent) (retired : List String)
  | release (threads : List String)
  | resume (thread : String)
  | works (items : Table workItemTable)

/-- A call that fails leaves the store as it was. -/
def slotStep (store : SlotStore) (event : SlotEvent) (after : SlotStore) : Prop :=
  match event with
  | .reconcile active retired =>
    match reconcileAgentSlots store active retired with
    | .ok (_, done) => after = done
    | .error _ => after = store
  | .release threads => after = releaseNativeAgentSlots store threads
  | .resume thread => after = resumeNativeAgentSlot store thread
  | .works items => after = changeWorks store items

end Decodex.Source.Store
