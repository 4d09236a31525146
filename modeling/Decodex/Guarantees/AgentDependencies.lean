import Decodex.Source.Store.AgentDependencies

/-!
# The agent dependency graph stays acyclic

Over every sequence of statements on `agent_dependencies` that the schema accepts, the
trigger keeps `work_item_id → depends_on_id` acyclic, its query ends, and it raises on no
edge but those that close a cycle. Foreign keys play no part: the result holds whether or
not the running transaction defers them.
-/
namespace Decodex.Guarantees.AgentDependencies

open Decodex.Library
open Decodex.Source.Store.AgentDependencies

def AcyclicStore (store : DependencyStore) : Prop :=
  Acyclic (DependsOn store.agentDependencies.rows)

theorem insertStatement_acyclic {store after : DependencyStore} {policy : ConflictPolicy}
    {new : AgentDependency} (before : AcyclicStore store)
    (success : insertStatement store policy new = .ok after) : AcyclicStore after := by
  obtain ⟨passed, rfl | rows⟩ := insertStatement_effects success
  · exact before
  · obtain ⟨raised, query, closes⟩ := agentDependencyAcyclic_raises_iff before new
    have : raised = false := by simpa [query] using passed
    by_contra cycle
    rw [AcyclicStore, rows] at cycle
    simp [closes.mpr cycle] at this

/-- `insert_dependency` adds no cycle: what it commits, the trigger has let pass. -/
theorem insertDependency_acyclic {store after : DependencyStore} {id dependsOn : String}
    (before : AcyclicStore store) (success : insertDependency store id dependsOn = .ok after) :
    AcyclicStore after := by
  obtain ⟨_, _, inserted⟩ := (insertDependency_ok_iff store after id dependsOn).mp success
  exact insertStatement_acyclic before inserted

theorem dependencyStep_acyclic (store : DependencyStore) (event : DependencyEvent)
    (after : DependencyStore) (step : DependencyStep store event after)
    (before : AcyclicStore store) : AcyclicStore after := by
  cases event with
  | insert policy row => exact insertStatement_acyclic before step
  | delete selected =>
    cases step
    exact before.mono fun a b kept => List.mem_of_mem_filter kept
  | update selected =>
    unfold DependencyStep updateStatement at step
    dsimp only at step
    split at step
    · cases step
    · cases step
      exact before
  | other =>
    unfold AcyclicStore at before ⊢
    rwa [show after.agentDependencies = store.agentDependencies from step]

/-- Every reachable dependency graph is acyclic, and on it the cycle trigger's recursive
query ends with a verdict that raises exactly on the insertions that would close a cycle
(a self edge is one). -/
theorem agentDependencies_stay_acyclic (start store : DependencyStore)
    (events : List DependencyEvent) (empty : start.agentDependencies.rows = [])
    (run : Run DependencyStep start events store) :
    Acyclic (DependsOn store.agentDependencies.rows) ∧
      (∀ root, ∃ found, ancestors store.agentDependencies.rows root = some found ∧
        ∀ id, id ∈ found ↔
          Relation.ReflTransGen (DependsOn store.agentDependencies.rows) root id) ∧
      ∀ new, ∃ raised, agentDependencyAcyclic store.agentDependencies.rows new = some raised ∧
        (raised = true ↔ ¬Acyclic (DependsOn (store.agentDependencies.rows ++ [new]))) := by
  have initial : AcyclicStore start := by
    intro id cycle
    rw [empty] at cycle
    obtain ⟨_, edge⟩ : ∃ other, DependsOn [] id other := by
      cases cycle using Relation.TransGen.head_induction_on with
      | single edge => exact ⟨_, edge⟩
      | head edge _ _ => exact ⟨_, edge⟩
    cases edge
  have acyclic := run.invariant dependencyStep_acyclic initial
  refine ⟨acyclic, fun root => ?_, fun new => agentDependencyAcyclic_raises_iff acyclic new⟩
  obtain ⟨found, query⟩ := ancestors_terminate store.agentDependencies.rows root
  exact ⟨found, query, mem_ancestors_iff query⟩

private def twoItems : DependencyStore := ⟨["a", "b"], Table.empty, false⟩

private def twoItemsLinked : DependencyStore :=
  ⟨["a", "b"], ⟨[⟨"a", "b"⟩], by decide, by decide⟩, false⟩

/-- After `a → b`, the reverse edge raises and the graph stays acyclic. -/
theorem agentDependencies_refuse_reverse_edge :
    Acyclic (DependsOn twoItemsLinked.agentDependencies.rows) ∧
      agentDependencyAcyclic twoItemsLinked.agentDependencies.rows ⟨"b", "a"⟩ = some true :=
  have run : Run DependencyStep twoItems [.insert .abort ⟨"a", "b"⟩] twoItemsLinked :=
    .single (by rfl)
  ⟨(agentDependencies_stay_acyclic twoItems twoItemsLinked _ rfl run).1, by decide⟩

end Decodex.Guarantees.AgentDependencies
