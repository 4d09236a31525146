import Decodex.Library.RecursiveQuery
import Decodex.Library.Run
import Decodex.Library.Table
import Decodex.Source.Store.Error

/-!
# Agent dependencies: table, cycle trigger and writers

Source: database/schema.sql:249-254 (table), 1251-1266 (cycle trigger, immutability
trigger); database/src/agent.rs:564-579 (`add_agent_dependency`), 1732-1752
(`insert_dependency`), and the dependency loop of agent.rs:472-474.
Of `agent_work_items` only the ids are kept: the foreign keys and `work_exists` read
nothing else.
-/
namespace Decodex.Source.Store.AgentDependencies

open Decodex.Library

structure AgentDependency where
  workItemId : String
  dependsOnId : String
  deriving DecidableEq, Repr

/-- Primary key over both columns, and `CHECK (work_item_id <> depends_on_id)`. -/
def agentDependencies : Schema AgentDependency (String × String) where
  key row := (row.workItemId, row.dependsOnId)
  check row := decide (row.workItemId ≠ row.dependsOnId)

structure DependencyStore where
  agentWorkItems : List String
  agentDependencies : Table agentDependencies
  /-- `PRAGMA defer_foreign_keys` of the running transaction. -/
  deferForeignKeys : Bool

/-- `work_item_id → depends_on_id`. -/
def DependsOn (rows : List AgentDependency) (a b : String) : Prop := ⟨a, b⟩ ∈ rows

/-- `SELECT depends_on_id FROM agent_dependencies JOIN ancestors ON work_item_id = id`, for
one extracted row. -/
def dependencyTargets (rows : List AgentDependency) (id : String) : List String :=
  (rows.filter fun row => decide (row.workItemId = id)).map (·.dependsOnId)

/-- The `ancestors` query; every edge enqueues at most one row, so this fuel ends it. -/
def ancestors (rows : List AgentDependency) (start : String) : Option (List String) :=
  saturate (dependencyTargets rows) (rows.length + 1) [] [start]

/-- Condition of trigger `agent_dependency_acyclic`; `none` says its query does not end. -/
def agentDependencyAcyclic (rows : List AgentDependency) (new : AgentDependency) : Option Bool :=
  (ancestors rows new.dependsOnId).map fun found => decide (new.workItemId ∈ found)

inductive StatementError where
  | raise (message : String) | constraint | endless
  deriving DecidableEq, Repr

inductive ConflictPolicy where
  | abort | doNothing
  deriving DecidableEq, Repr

def workExists (store : DependencyStore) (id : String) : Bool :=
  decide (id ∈ store.agentWorkItems)

/-- The row's foreign keys, which a deferring transaction does not check here. -/
def foreignKeys (store : DependencyStore) (new : AgentDependency) : Bool :=
  store.deferForeignKeys || (workExists store new.workItemId && workExists store new.dependsOnId)

/-- `INSERT INTO agent_dependencies`: the trigger first, then the row's constraints. -/
def insertStatement (store : DependencyStore) (policy : ConflictPolicy) (new : AgentDependency) :
    Except StatementError DependencyStore :=
  match agentDependencyAcyclic store.agentDependencies.rows new with
  | none => .error .endless
  | some true => .error (.raise "dependency cycle")
  | some false =>
    if policy = .doNothing ∧ new ∈ store.agentDependencies.rows then .ok store
    else if foreignKeys store new then
      match store.agentDependencies.insert new with
      | none => .error .constraint
      | some table => .ok { store with agentDependencies := table }
    else .error .constraint

def deleteStatement (store : DependencyStore) (selected : AgentDependency → Bool) :
    DependencyStore :=
  { store with agentDependencies := store.agentDependencies.deleteWhere selected }

/-- Trigger `agent_dependency_immutable`: an update that reaches a row aborts. -/
def updateStatement (store : DependencyStore) (selected : AgentDependency → Bool) :
    Except StatementError DependencyStore :=
  if store.agentDependencies.rows.any selected then .error (.raise "dependency is immutable")
  else .ok store

/-- `insert_dependency`; its own query repeats the trigger's. -/
def insertDependency (store : DependencyStore) (id dependsOn : String) :
    Except StoreError DependencyStore :=
  if !workExists store id || !workExists store dependsOn then
    .error DatabaseError.notFound.toStoreError
  else
    match ancestors store.agentDependencies.rows dependsOn with
    | none => .error sqliteError
    | some found =>
      if id ∈ found then .error (.invalidInput "Agent dependency would create a cycle")
      else
        match insertStatement store .doNothing ⟨id, dependsOn⟩ with
        | .ok after => .ok after
        | .error _ => .error sqliteError

/-- What the schema can be asked to do with the table, and everything else that happens. -/
inductive DependencyEvent where
  | insert (policy : ConflictPolicy) (row : AgentDependency)
  | delete (selected : AgentDependency → Bool)
  | update (selected : AgentDependency → Bool)
  | other

/-- Steps the schema accepts. `other` changes anything but the dependency table. -/
def DependencyStep (store : DependencyStore) (event : DependencyEvent)
    (after : DependencyStore) : Prop :=
  match event with
  | .insert policy row => insertStatement store policy row = .ok after
  | .delete selected => deleteStatement store selected = after
  | .update selected => updateStatement store selected = .ok after
  | .other => after.agentDependencies = store.agentDependencies

theorem mem_dependencyTargets {rows : List AgentDependency} {a b : String} :
    b ∈ dependencyTargets rows a ↔ DependsOn rows a b := by
  simp only [dependencyTargets, List.mem_map, List.mem_filter, decide_eq_true_eq, DependsOn]
  constructor
  · rintro ⟨row, ⟨member, rfl⟩, rfl⟩
    exact member
  · intro member
    exact ⟨⟨a, b⟩, ⟨member, rfl⟩, rfl⟩

/-- The query ends on every table, acyclic or not. -/
theorem ancestors_terminate (rows : List AgentDependency) (start : String) :
    ∃ found, ancestors rows start = some found := by
  refine saturate_terminates (rows.map (·.dependsOnId)).toFinset ?_ _ _ _ ?_
  · intro a b edge
    have := mem_dependencyTargets.mp edge
    simp only [List.mem_toFinset, List.mem_map]
    exact ⟨_, this, rfl⟩
  · have within := Finset.card_le_card (Finset.sdiff_subset
      (s := (rows.map (·.dependsOnId)).toFinset) (t := ([] ++ [start] : List String).toFinset))
    have bound := List.toFinset_card_le (rows.map (·.dependsOnId))
    rw [List.length_map] at bound
    simp only [List.length_singleton]
    omega

/-- The query finds exactly what the start depends on, itself included. -/
theorem mem_ancestors_iff {rows : List AgentDependency} {start : String} {found : List String}
    (query : ancestors rows start = some found) (id : String) :
    id ∈ found ↔ Relation.ReflTransGen (DependsOn rows) start id := by
  rw [mem_saturate_iff query id]
  simp only [mem_dependencyTargets]

/-- The trigger decides whether the new edge's target already reaches its source. -/
theorem agentDependencyAcyclic_spec (rows : List AgentDependency) (new : AgentDependency) :
    ∃ raised, agentDependencyAcyclic rows new = some raised ∧
      (raised = true ↔
        Relation.ReflTransGen (DependsOn rows) new.dependsOnId new.workItemId) := by
  obtain ⟨found, query⟩ := ancestors_terminate rows new.dependsOnId
  refine ⟨decide (new.workItemId ∈ found), by simp [agentDependencyAcyclic, query], ?_⟩
  rw [decide_eq_true_iff, mem_ancestors_iff query]

theorem dependsOn_append (rows : List AgentDependency) (new : AgentDependency) (a b : String) :
    DependsOn (rows ++ [new]) a b ↔
      DependsOn rows a b ∨ (a = new.workItemId ∧ b = new.dependsOnId) := by
  cases new
  simp [DependsOn]

/-- Over an acyclic table, the trigger raises exactly on the edges that close a cycle. -/
theorem agentDependencyAcyclic_raises_iff {rows : List AgentDependency}
    (acyclic : Acyclic (DependsOn rows)) (new : AgentDependency) :
    ∃ raised, agentDependencyAcyclic rows new = some raised ∧
      (raised = true ↔ ¬Acyclic (DependsOn (rows ++ [new]))) := by
  obtain ⟨raised, query, back⟩ := agentDependencyAcyclic_spec rows new
  refine ⟨raised, query, ?_⟩
  have extended : DependsOn (rows ++ [new]) =
      fun a b => DependsOn rows a b ∨ (a = new.workItemId ∧ b = new.dependsOnId) := by
    funext a b
    exact propext (dependsOn_append rows new a b)
  rw [back, extended, acyclic_insert_iff acyclic, not_not]

/-- An accepted insertion passed the trigger and adds its row unless it was there. -/
theorem insertStatement_effects {store after : DependencyStore} {policy : ConflictPolicy}
    {new : AgentDependency} (success : insertStatement store policy new = .ok after) :
    agentDependencyAcyclic store.agentDependencies.rows new = some false ∧
      (after = store ∨
        after.agentDependencies.rows = store.agentDependencies.rows ++ [new]) := by
  unfold insertStatement at success
  split at success
  · cases success
  · cases success
  · rename_i passed
    refine ⟨passed, ?_⟩
    split at success
    · cases success
      exact .inl rfl
    · split at success
      · split at success
        · cases success
        · rename_i inserted
          cases success
          exact .inr (Table.insert_rows inserted)
      · cases success

/-- `insert_dependency` never runs into the trigger: its own query refuses first. -/
theorem insertDependency_ok_iff (store after : DependencyStore) (id dependsOn : String) :
    insertDependency store id dependsOn = .ok after ↔
      workExists store id = true ∧ workExists store dependsOn = true ∧
        insertStatement store .doNothing ⟨id, dependsOn⟩ = .ok after := by
  obtain ⟨found, query⟩ := ancestors_terminate store.agentDependencies.rows dependsOn
  have trigger : agentDependencyAcyclic store.agentDependencies.rows ⟨id, dependsOn⟩ =
      some (decide (id ∈ found)) := by simp [agentDependencyAcyclic, query]
  unfold insertDependency
  rw [query]
  by_cases cycle : id ∈ found
  · simp only [insertStatement, trigger, cycle]
    split <;> simp
  · by_cases work : workExists store id = true <;>
      by_cases target : workExists store dependsOn = true <;>
        simp only [work, target, cycle] <;>
          cases insertStatement store .doNothing ⟨id, dependsOn⟩ <;> simp

end Decodex.Source.Store.AgentDependencies
