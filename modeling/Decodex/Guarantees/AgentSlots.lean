import Decodex.Source.Store.AgentSlots

/-!
# Display slots stay stable and unique

Over every run of the slot calls on a changing set of work items: numbers and keys are distinct,
a binding keeps its number until it is released, and a new binding takes the least positive
number that is not in use. The personal root takes number zero exactly when neither the number
nor the key is bound otherwise: a root that became the oldest work later keeps its old number.
-/
namespace Decodex.Guarantees.AgentSlots

open Decodex.Library Decodex.Source.Core Decodex.Source.Store

variable {store after : SlotStore} {slots : Table agentSlots} {active : List ActiveAgent}
  {retired eligible closed : List String} {current listed : List AgentSlot}

/-- A loop of deletions by key leaves the rows that none of its items names. -/
theorem deleteEach_rows {α : Type} (selected : α → Prop) [DecidablePred selected]
    (name : α → String) (items : List α) (slots : Table agentSlots) :
    (items.foldl (fun slots item =>
      if selected item then slots.deleteWhere fun row => row.key = name item else slots)
      slots).rows =
      slots.rows.filter fun row =>
        decide (∀ item ∈ items, selected item → row.key ≠ name item) := by
  induction items generalizing slots with
  | nil => simp
  | cons item items ih =>
    rw [List.foldl_cons, ih]
    split
    · rename_i hit
      simp only [Table.deleteWhere, List.filter_filter]
      apply List.filter_congr
      intro row _
      simp [hit, Bool.and_comm]
    · rename_i miss
      apply List.filter_congr
      intro row _
      simp [miss]

theorem retireSlots_rows (slots : Table agentSlots) (retired : List String) :
    (retireSlots slots retired).rows = slots.rows.filter fun row => decide (row.key ∉ retired) := by
  have looped := deleteEach_rows (fun _ : String => True) id retired slots
  simp only [if_true] at looped
  unfold retireSlots
  refine looped.trans (List.filter_congr fun row _ => ?_)
  simp only [id, forall_const, decide_eq_decide]
  exact ⟨fun apart member => apart _ member rfl, fun absent key member same => absent (same ▸ member)⟩

/-- Pruning deletes what is neither the root's number nor bound for eligible work. -/
theorem pruneSlots_rows (slots : Table agentSlots) (eligible : List String) :
    (pruneSlots slots eligible).rows =
      slots.rows.filter fun row => row.number = 0 || decide (row.workId ∈ eligible) := by
  unfold pruneSlots
  rw [deleteEach_rows (fun slot : AgentSlot => slot.number ≠ 0 ∧ slot.workId ∉ eligible)
    (fun slot => slot.key)]
  apply List.filter_congr
  intro row member
  rw [Bool.eq_iff_iff, decide_eq_true_iff]
  simp only [readSlots, List.mem_insertionSort, Bool.or_eq_true, decide_eq_true_eq]
  constructor
  · intro kept
    by_contra dropped
    rw [not_or] at dropped
    exact kept row member dropped rfl
  · intro kept slot slot_mem dropped same
    have equal : row = slot := slots.eq_of_key member slot_mem same
    rw [equal] at kept
    exact kept.elim dropped.1 dropped.2

/-- The root's slot is added when its key and number zero are both free. -/
theorem bindRoot_cases (slots : Table agentSlots) (root : AgentWorkItem) :
    ((∀ row ∈ slots.rows, row.key ≠ root.id ∧ row.number ≠ 0) ∧
      (bindRoot slots (some root)).rows =
        slots.rows ++ [⟨root.id, root.id, root.codexThreadId, 0⟩]) ∨
    ((∃ row ∈ slots.rows, row.key = root.id ∨ row.number = 0) ∧
      bindRoot slots (some root) = slots) := by
  have opened : bindRoot slots (some root) =
      (slots.insert ⟨root.id, root.id, root.codexThreadId, 0⟩).getD slots := rfl
  rw [opened]
  cases inserted : slots.insert ⟨root.id, root.id, root.codexThreadId, 0⟩ with
  | some bound =>
    refine .inl ⟨fun row member => ?_, Table.insert_rows inserted⟩
    obtain ⟨key, clash, _⟩ := Table.compatible_of_insert inserted row member
    exact ⟨key, by simpa [agentSlots] using clash⟩
  | none =>
    refine .inr ⟨?_, rfl⟩
    by_contra free
    simp only [not_exists, not_and, not_or] at free
    obtain ⟨bound, accepted⟩ := Table.insert_of_compatible slots
      ⟨root.id, root.id, root.codexThreadId, 0⟩ rfl fun row member => by
        obtain ⟨key, number⟩ := free row member
        simp only [Schema.Compatible, agentSlots, decide_eq_false_iff_not]
        exact ⟨key, number, Ne.symm number⟩
    rw [accepted] at inserted
    cases inserted

/-- Each new binding takes the least positive number that is not in use when it is made. -/
inductive AssignedInOrder (used : List Nat) : List AgentSlot → Prop
  | nil : AssignedInOrder used []
  | snoc {fresh : List AgentSlot} {slot : AgentSlot} (before : AssignedInOrder used fresh)
      (least : IsLeastUnused (used ++ fresh.map (·.number)) slot.number) :
      AssignedInOrder used (fresh ++ [slot])

theorem AssignedInOrder.positive {used : List Nat} {fresh : List AgentSlot}
    (assigned : AssignedInOrder used fresh) : ∀ slot ∈ fresh, 0 < slot.number := by
  induction assigned with
  | nil => simp
  | snoc before least ih =>
    intro slot member
    rcases List.mem_append.mp member with member | member
    · exact ih slot member
    · rw [List.mem_singleton.mp member]
      exact least.positive

/-- The bindings that stood before the loop, the new ones after them, and the used numbers. -/
structure LoopState (settled : List AgentSlot) (eligible : List String)
    (active : List ActiveAgent) (bound : Table agentSlots × List Nat) (held fresh : List AgentSlot) :
    Prop where
  rows : bound.1.rows = held ++ fresh
  kept : held.map AgentSlot.binding = settled.map AgentSlot.binding
  used : ∀ n, n ∈ bound.2 ↔ n ∈ bound.1.rows.map (·.number)
  assigned : AssignedInOrder (settled.map (·.number)) fresh
  named : ∀ slot ∈ fresh, slot.workId ∈ eligible ∧
    ∃ agent ∈ active, agent.key = slot.key ∧ agent.work = slot.workId
  unbound : ∀ slot ∈ fresh, slot.key ∉ settled.map (·.key)
  fits : ∀ slot ∈ fresh, slot.number < 2 ^ 32

theorem numbers_of_binding {held settled : List AgentSlot}
    (kept : held.map AgentSlot.binding = settled.map AgentSlot.binding) :
    held.map (·.number) = settled.map (·.number) := by
  have numbers := congrArg (List.map fun binding : String × String × Nat => binding.2.2) kept
  simpa [List.map_map, Function.comp_def, AgentSlot.binding] using numbers

theorem displayNumber_ok {used : List Nat} {number : Nat}
    (chosen : displayNumber used = .ok number) : IsLeastUnused used number ∧ number < 2 ^ 32 := by
  unfold displayNumber at chosen
  split at chosen
  · rename_i fits
    cases chosen
    exact ⟨leastUnused_spec used, fits⟩
  · cases chosen

/-- The thread update changes no key, work or number, and is never refused. -/
theorem setSlotThread_spec (slots : Table agentSlots) (key : String) (thread : Option String) :
    ∃ after, setSlotThread slots key thread = some after ∧
      after.rows = slots.rows.map fun row =>
        if row.key = key ∧ row.threadId ≠ thread then { row with threadId := thread } else row := by
  obtain ⟨after, updated⟩ := Table.updateWhere_of_unread slots
    (fun row => row.key = key && row.threadId ≠ thread)
    (fun row => { row with threadId := thread })
    (fun _ _ => rfl) (fun _ => rfl) (fun _ _ => rfl) (fun _ _ => rfl)
  refine ⟨after, updated, ?_⟩
  rw [Table.updateWhere_rows updated]
  simp

/-- One round keeps the loop's account of its bindings. -/
theorem bindActive_keeps {settled held fresh : List AgentSlot}
    {bound next : Table agentSlots × List Nat} {passed : List ActiveAgent} {agent : ActiveAgent}
    (started : ∀ key, (current.any fun slot => slot.key = key) = true ↔
      key ∈ settled.map (·.key))
    (loop : LoopState settled eligible passed bound held fresh)
    (round : bindActive eligible current closed bound agent = .ok next) :
    ∃ held fresh, LoopState settled eligible (passed ++ [agent]) next held fresh := by
  have grow : ∀ slot ∈ fresh, slot.workId ∈ eligible ∧
      ∃ agent' ∈ passed ++ [agent], agent'.key = slot.key ∧ agent'.work = slot.workId := by
    intro slot member
    obtain ⟨allowed, agent', agent_mem, same⟩ := loop.named slot member
    exact ⟨allowed, agent', List.mem_append_left _ agent_mem, same⟩
  unfold bindActive at round
  split at round
  · cases round
    exact ⟨held, fresh, { loop with named := grow }⟩
  rename_i allowed
  rw [not_not] at allowed
  split at round
  · rename_i known
    obtain ⟨changed, updated, round⟩ := bind_ok round
    obtain ⟨changed', spec, rows⟩ := setSlotThread_spec bound.1 agent.key agent.thread
    rw [execute_eq_ok, spec, Option.some.injEq] at updated
    subst updated
    cases round
    -- A key of the settled table is not among the new bindings.
    have apart : ∀ slot ∈ fresh, slot.key ≠ agent.key := fun slot member same =>
      loop.unbound slot member (same ▸ (started _).mp known)
    refine ⟨held.map fun row =>
      if row.key = agent.key ∧ row.threadId ≠ agent.thread then { row with threadId := agent.thread }
      else row, fresh, ?_, ?_, ?_, loop.assigned, grow, loop.unbound, loop.fits⟩
    · rw [rows, loop.rows, List.map_append]
      congr 1
      refine (List.map_congr_left fun row member => ?_).trans (List.map_id' fresh)
      rw [if_neg fun both => apart row member both.1]
    · rw [List.map_map, ← loop.kept]
      apply List.map_congr_left
      intro row _
      simp only [Function.comp_apply]
      split <;> rfl
    · intro n
      rw [loop.used n, rows, List.map_map]
      have same : ∀ row : AgentSlot, ((fun slot : AgentSlot => slot.number) ∘ fun row =>
          if row.key = agent.key ∧ row.threadId ≠ agent.thread then
            { row with threadId := agent.thread } else row) row = row.number := by
        intro row
        simp only [Function.comp_apply]
        split <;> rfl
      rw [funext same]
  · rename_i unknown
    obtain ⟨number, chosen, round⟩ := bind_ok round
    split at round
    · rename_i free
      obtain ⟨inserted, accepted, round⟩ := bind_ok round
      rw [execute_eq_ok] at accepted
      cases round
      have rows := Table.insert_rows accepted
      obtain ⟨chosenLeast, fits⟩ := displayNumber_ok chosen
      have least : IsLeastUnused (settled.map (·.number) ++ fresh.map (·.number)) number := by
        refine chosenLeast.congr fun n => ?_
        rw [loop.used n, loop.rows, List.map_append, numbers_of_binding loop.kept]
      have new : ∀ slot ∈ fresh ++ [⟨agent.key, agent.work, agent.thread, number⟩],
          slot ∈ fresh ∨ slot = ⟨agent.key, agent.work, agent.thread, number⟩ := by
        intro slot member
        exact (List.mem_append.mp member).imp_right List.mem_singleton.mp
      refine ⟨held, fresh ++ [⟨agent.key, agent.work, agent.thread, number⟩], ?_, loop.kept, ?_,
        .snoc loop.assigned least, ?_, ?_, ?_⟩
      · rw [rows, loop.rows, List.append_assoc]
      · intro n
        rw [rows, List.map_append, List.mem_append, ← loop.used n, List.mem_cons, or_comm]
        simp
      · intro slot member
        rcases new slot member with member | rfl
        · exact grow slot member
        · exact ⟨allowed, agent, by simp, rfl, rfl⟩
      · intro slot member
        rcases new slot member with member | rfl
        · exact loop.unbound slot member
        · intro present
          exact unknown ((started _).mpr present)
      · intro slot member
        rcases new slot member with member | rfl
        · exact loop.fits slot member
        · exact fits
    · cases round
      exact ⟨held, fresh, { loop with named := grow }⟩

/-- A round is refused only when the numbers run out: no constraint ever refuses it. -/
theorem bindActive_refused {settled held fresh : List AgentSlot}
    {bound : Table agentSlots × List Nat} {passed : List ActiveAgent} {agent : ActiveAgent}
    {error : StoreError} (loop : LoopState settled eligible passed bound held fresh)
    (refused : bindActive eligible current closed bound agent = .error error) :
    error = .invalidInput "no display slot available" := by
  unfold bindActive at refused
  split at refused
  · cases refused
  split at refused
  · obtain ⟨changed, spec, _⟩ := setSlotThread_spec bound.1 agent.key agent.thread
    rw [spec] at refused
    cases refused
  · cases chosen : displayNumber bound.2 with
    | error reason =>
      rw [chosen] at refused
      cases refused
      unfold displayNumber at chosen
      split at chosen
      · cases chosen
      · cases chosen
        rfl
    | ok number =>
      rw [chosen, ok_bind] at refused
      split at refused
      · rename_i free
        obtain ⟨least, _⟩ := displayNumber_ok chosen
        unfold mayBind at free
        simp only [Bool.and_eq_true, List.all_eq_true, decide_eq_true_eq] at free
        obtain ⟨after, accepted⟩ := Table.insert_of_compatible bound.1
          ⟨agent.key, agent.work, agent.thread, number⟩ rfl fun row member => by
            have differs : row.number ≠ number := fun same =>
              least.unused ((loop.used number).mpr (List.mem_map.mpr ⟨row, member, same⟩))
            simp only [Schema.Compatible, agentSlots, decide_eq_false_iff_not]
            exact ⟨free.1 row member, differs, differs.symm⟩
        rw [accepted] at refused
        cases refused
      · cases refused

/-- What stands before the loop: the bindings that were neither retired nor pruned, and the
root's slot where it could be added. -/
theorem settledSlots_rows (store : SlotStore) (active : List ActiveAgent) (retired : List String) :
    ∃ added, (settledSlots store active retired).rows =
      (store.agentSlots.rows.filter fun row => decide (row.key ∉ retired) &&
        (row.number = 0 || decide (row.workId ∈ eligibleWorks store.agentWorkItems.rows))) ++ added ∧
      ∀ slot ∈ added, slot.number = 0 ∧ slot.key = slot.workId ∧
        ∃ root, namedRoot store.agentWorkItems.rows active = some root ∧ root.id = slot.key := by
  unfold settledSlots
  rw [pruneSlots_rows]
  cases named : namedRoot store.agentWorkItems.rows active with
  | none =>
    refine ⟨[], ?_, nofun⟩
    simp only [bindRoot, retireSlots_rows, List.filter_filter, List.append_nil]
    apply List.filter_congr
    intro row _
    rw [Bool.and_comm]
  | some root =>
    rcases bindRoot_cases (retireSlots store.agentSlots retired) root with ⟨_, rows⟩ | ⟨_, rows⟩
    · rw [rows, List.filter_append, retireSlots_rows, List.filter_filter]
      refine ⟨[⟨root.id, root.id, root.codexThreadId, 0⟩], ?_, ?_⟩
      · congr 1
        apply List.filter_congr
        intro row _
        rw [Bool.and_comm]
      · intro slot member
        rw [List.mem_singleton.mp member]
        exact ⟨rfl, rfl, root, rfl, rfl⟩
    · rw [rows, retireSlots_rows, List.filter_filter]
      refine ⟨[], ?_, nofun⟩
      rw [List.append_nil]
      apply List.filter_congr
      intro row _
      rw [Bool.and_comm]

/-- The bindings that the loop starts from, in the order of their numbers. -/
def loopStart (store : SlotStore) (active : List ActiveAgent) (retired : List String) :
    List AgentSlot :=
  retainSlots (readSlots (bindRoot (retireSlots store.agentSlots retired)
    (namedRoot store.agentWorkItems.rows active))) (eligibleWorks store.agentWorkItems.rows)

theorem mem_loopStart {slot : AgentSlot} : slot ∈ loopStart store active retired ↔
    slot ∈ (settledSlots store active retired).rows := by
  unfold settledSlots loopStart retainSlots readSlots
  rw [pruneSlots_rows, List.mem_filter, List.mem_insertionSort, List.mem_filter]

/-- What the rounds of a reconciliation keep. -/
def LoopKeeps (store : SlotStore) (active : List ActiveAgent) (retired : List String)
    (passed : List ActiveAgent) (bound : Table agentSlots × List Nat) : Prop :=
  ∃ held fresh, LoopState (settledSlots store active retired).rows
    (eligibleWorks store.agentWorkItems.rows) passed bound held fresh

theorem loopKeeps_start (store : SlotStore) (active : List ActiveAgent) (retired : List String) :
    LoopKeeps store active retired []
      (settledSlots store active retired, (loopStart store active retired).map (·.number)) := by
  refine ⟨(settledSlots store active retired).rows, [], (List.append_nil _).symm, rfl,
    fun n => ?_, .nil, nofun, nofun, nofun⟩
  simp only [List.mem_map, mem_loopStart]

theorem loopKeeps_round (passed : List ActiveAgent) (bound : Table agentSlots × List Nat)
    (agent : ActiveAgent) (next : Table agentSlots × List Nat)
    (loop : LoopKeeps store active retired passed bound)
    (round : bindActive (eligibleWorks store.agentWorkItems.rows)
      (loopStart store active retired) closed bound agent = .ok next) :
    LoopKeeps store active retired (passed ++ [agent]) next := by
  obtain ⟨held, fresh, loop⟩ := loop
  refine bindActive_keeps (fun key => ?_) loop round
  simp only [List.any_eq_true, decide_eq_true_eq, List.mem_map, mem_loopStart]

/-- A reconciliation ends with the settled bindings, threads apart, and its new ones. -/
theorem reconcile_spec (done : reconcileAgentSlots store active retired = .ok (listed, after)) :
    after.agentWorkItems = store.agentWorkItems ∧
    ∃ held fresh used, LoopState (settledSlots store active retired).rows
      (eligibleWorks store.agentWorkItems.rows) active (after.agentSlots, used) held fresh := by
  unfold reconcileAgentSlots at done
  obtain ⟨bound, looped, done⟩ := bind_ok done
  cases done
  obtain ⟨held, fresh, loop⟩ := foldlM_ok_prefix (LoopKeeps store active retired)
    loopKeeps_round (loopKeeps_start store active retired) looped
  exact ⟨rfl, held, fresh, bound.2, loop⟩

/-- The uniqueness of keys and numbers never refuses a reconciliation. -/
theorem reconcile_refused {error : StoreError}
    (refused : reconcileAgentSlots store active retired = .error error) :
    error = .invalidInput "no display slot available" := by
  unfold reconcileAgentSlots at refused
  dsimp only at refused
  cases looped : active.foldlM (bindActive (eligibleWorks store.agentWorkItems.rows)
    (loopStart store active retired) store.agentClosedNativeThreads)
    (settledSlots store active retired, (loopStart store active retired).map (·.number)) with
  | error reason =>
    have same : error = reason := by
      unfold loopStart at looped
      rw [looped] at refused
      cases refused
      rfl
    rw [same]
    refine foldlM_error_prefix (· = .invalidInput "no display slot available")
      (LoopKeeps store active retired) loopKeeps_round
      (fun passed before agent reason loop refused => ?_)
      (loopKeeps_start store active retired) looped
    obtain ⟨held, fresh, loop⟩ := loop
    exact bindActive_refused loop refused
  | ok bound =>
    unfold loopStart at looped
    rw [looped] at refused
    cases refused

/-- Distinct keys and distinct numbers. -/
structure Distinct (slots : List AgentSlot) : Prop where
  keys : (slots.map (·.key)).Nodup
  numbers : (slots.map (·.number)).Nodup

theorem table_distinct (slots : Table agentSlots) : Distinct slots.rows where
  keys := List.pairwise_map.mpr (slots.distinct.imp fun compatible => compatible.1)
  numbers := List.pairwise_map.mpr (slots.distinct.imp fun compatible => by
    simpa [agentSlots] using compatible.2.1)

/-- What an event may release a binding for: its key is retired, its work is no longer
eligible, or its thread is positively closed. Absence from an active list is none of them. -/
def Releases (store : SlotStore) (event : SlotEvent) (slot : AgentSlot) : Prop :=
  match event with
  | .reconcile _ retired =>
    slot.key ∈ retired ∨ slot.workId ∉ eligibleWorks store.agentWorkItems.rows
  | .release threads => slot.key ≠ slot.workId ∧ ∃ thread ∈ threads, slot.threadId = some thread
  | .resume _ => False
  | .works items => slot.workId ∉ eligibleWorks items.rows

/-- The binding is there, with its number and its work. -/
def Bound (store : SlotStore) (slot : AgentSlot) : Prop :=
  ∃ held ∈ store.agentSlots.rows, held.binding = slot.binding

/-- The bindings after a reconciliation: those from before that it does not retire or the
root's at number zero, and then new ones, each with the least positive number that was not in
use when it was made. -/
structure Rebinds (store after : SlotStore) (active : List ActiveAgent) (retired : List String)
    (held fresh : List AgentSlot) : Prop where
  rows : after.agentSlots.rows = held ++ fresh
  earlier : ∀ slot ∈ held, (Bound store slot ∧ slot.key ∉ retired) ∨
    (slot.number = 0 ∧ ∃ root, namedRoot store.agentWorkItems.rows active = some root ∧
      slot.key = root.id)
  assigned : AssignedInOrder (held.map (·.number)) fresh

/-- The root, and no other key, owns number zero. -/
def OwnsZero (store : SlotStore) (root : String) : Prop :=
  (∃ slot ∈ store.agentSlots.rows, slot.key = root ∧ slot.number = 0) ∧
    ∀ slot ∈ store.agentSlots.rows, slot.number = 0 → slot.key = root

theorem binding_eq {left right : AgentSlot} (same : left.binding = right.binding) :
    left.key = right.key ∧ left.workId = right.workId ∧ left.number = right.number := by
  simpa [AgentSlot.binding] using same

theorem mem_binding {held settled : List AgentSlot} {slot : AgentSlot}
    (kept : held.map AgentSlot.binding = settled.map AgentSlot.binding) (member : slot ∈ held) :
    ∃ old ∈ settled, old.binding = slot.binding := by
  have listed : slot.binding ∈ settled.map AgentSlot.binding :=
    kept ▸ List.mem_map.mpr ⟨slot, member, rfl⟩
  simpa using listed

/-- A reconciliation keeps each binding that it has no reason to release. -/
theorem reconcile_keeps (done : reconcileAgentSlots store active retired = .ok (listed, after))
    {slot : AgentSlot} (member : slot ∈ store.agentSlots.rows) :
    Bound after slot ∨ Releases store (.reconcile active retired) slot := by
  by_cases gone : Releases store (.reconcile active retired) slot
  · exact .inr gone
  left
  simp only [Releases, not_or, not_not] at gone
  obtain ⟨_, held, fresh, used, loop⟩ := reconcile_spec done
  obtain ⟨added, rows, _⟩ := settledSlots_rows store active retired
  have settled : slot ∈ (settledSlots store active retired).rows := by
    rw [rows, List.mem_append, List.mem_filter]
    left
    simp [member, gone.1, gone.2]
  obtain ⟨old, old_mem, same⟩ := mem_binding loop.kept.symm settled
  refine ⟨old, ?_, same⟩
  rw [loop.rows]
  exact List.mem_append_left _ old_mem

theorem reconcile_rebinds (done : reconcileAgentSlots store active retired = .ok (listed, after)) :
    ∃ held fresh, Rebinds store after active retired held fresh := by
  obtain ⟨_, held, fresh, used, loop⟩ := reconcile_spec done
  obtain ⟨added, rows, root⟩ := settledSlots_rows store active retired
  refine ⟨held, fresh, loop.rows, fun slot member => ?_, ?_⟩
  · obtain ⟨old, old_mem, same⟩ := mem_binding loop.kept member
    obtain ⟨key, _, number⟩ := binding_eq same
    rw [rows, List.mem_append, List.mem_filter] at old_mem
    rcases old_mem with ⟨earlier, passed⟩ | new
    · simp only [Bool.and_eq_true, decide_eq_true_eq] at passed
      exact .inl ⟨⟨old, earlier, same⟩, key ▸ passed.1⟩
    · obtain ⟨zero, _, named, found, name⟩ := root old new
      exact .inr ⟨number ▸ zero, named, found, by rw [name, key]⟩
  · rw [numbers_of_binding loop.kept]
    exact loop.assigned

/-- After a reconciliation that names the root, the root owns number zero exactly when, among
the bindings that the call does not retire, number zero and the root's key go together. -/
theorem reconcile_root_iff {root : AgentWorkItem}
    (done : reconcileAgentSlots store active retired = .ok (listed, after))
    (named : namedRoot store.agentWorkItems.rows active = some root) :
    OwnsZero after root.id ↔ ∀ slot ∈ store.agentSlots.rows, slot.key ∉ retired →
      (slot.number = 0 ↔ slot.key = root.id) := by
  obtain ⟨_, held, fresh, used, loop⟩ := reconcile_spec done
  have positive := loop.assigned.positive
  -- Number zero is bound after the call as it was before the loop.
  have zero : ∀ key, (∃ slot ∈ after.agentSlots.rows, slot.key = key ∧ slot.number = 0) ↔
      ∃ slot ∈ (settledSlots store active retired).rows, slot.key = key ∧ slot.number = 0 := by
    intro key
    constructor
    · rintro ⟨slot, member, same, isZero⟩
      rw [loop.rows, List.mem_append] at member
      rcases member with member | member
      · obtain ⟨old, old_mem, equal⟩ := mem_binding loop.kept member
        obtain ⟨sameKey, _, sameNumber⟩ := binding_eq equal
        exact ⟨old, old_mem, sameKey.trans same, sameNumber.trans isZero⟩
      · exact absurd isZero (positive slot member).ne'
    · rintro ⟨slot, member, same, isZero⟩
      obtain ⟨new, new_mem, equal⟩ := mem_binding loop.kept.symm member
      obtain ⟨sameKey, _, sameNumber⟩ := binding_eq equal
      refine ⟨new, ?_, sameKey.trans same, sameNumber.trans isZero⟩
      rw [loop.rows]
      exact List.mem_append_left _ new_mem
  have settled : (settledSlots store active retired).rows =
      (bindRoot (retireSlots store.agentSlots retired) (some root)).rows.filter fun row =>
        row.number = 0 || decide (row.workId ∈ eligibleWorks store.agentWorkItems.rows) := by
    unfold settledSlots
    rw [pruneSlots_rows, named]
  have survivors : ∀ slot, slot ∈ (retireSlots store.agentSlots retired).rows ↔
      slot ∈ store.agentSlots.rows ∧ slot.key ∉ retired := by
    intro slot
    rw [retireSlots_rows, List.mem_filter, decide_eq_true_iff]
  rcases bindRoot_cases (retireSlots store.agentSlots retired) root with ⟨free, rows⟩ | ⟨taken, same⟩
  · -- Neither the key nor the number is bound: the root's slot is added.
    constructor
    · intro _ slot member kept
      obtain ⟨key, number⟩ := free slot ((survivors slot).mpr ⟨member, kept⟩)
      exact ⟨fun h => absurd h number, fun h => absurd h key⟩
    · intro _
      have added : (⟨root.id, root.id, root.codexThreadId, 0⟩ : AgentSlot) ∈
          (settledSlots store active retired).rows := by
        rw [settled, rows]
        simp
      obtain ⟨slot, member, key, number⟩ := (zero root.id).mpr ⟨_, added, rfl, rfl⟩
      refine ⟨⟨slot, member, key, number⟩, fun other other_mem isZero => ?_⟩
      obtain ⟨old, old_mem, sameKey, oldZero⟩ := (zero other.key).mp ⟨other, other_mem, rfl, isZero⟩
      have equal := List.inj_on_of_nodup_map
        (table_distinct (settledSlots store active retired)).numbers old_mem added oldZero
      rw [← sameKey, equal]
  · -- The insertion is ignored: what was bound before decides.
    rw [same] at settled
    constructor
    · rintro ⟨⟨slot, member, key, number⟩, alone⟩ other other_mem kept
      obtain ⟨old, old_mem, sameKey, oldZero⟩ := (zero root.id).mp ⟨slot, member, key, number⟩
      rw [settled, List.mem_filter] at old_mem
      constructor
      · intro otherZero
        obtain ⟨last, last_mem, lastKey, lastZero⟩ := (zero other.key).mpr ⟨other, by
          rw [settled, List.mem_filter]
          exact ⟨(survivors other).mpr ⟨other_mem, kept⟩, by simp [otherZero]⟩, rfl, otherZero⟩
        rw [← lastKey]
        exact alone last last_mem lastZero
      · intro otherKey
        have equal := Table.eq_of_key ((survivors other).mpr ⟨other_mem, kept⟩) old_mem.1
          (otherKey.trans sameKey.symm)
        rw [equal]
        exact oldZero
    · intro together
      obtain ⟨slot, member, matching⟩ := taken
      obtain ⟨stored, kept⟩ := (survivors slot).mp member
      have both := together slot stored kept
      have owns : slot.key = root.id ∧ slot.number = 0 := by
        rcases matching with key | number
        · exact ⟨key, both.mpr key⟩
        · exact ⟨both.mp number, number⟩
      refine ⟨(zero root.id).mpr ⟨slot, ?_, owns⟩, fun other other_mem isZero => ?_⟩
      · rw [settled, List.mem_filter]
        exact ⟨member, by simp [owns.2]⟩
      · obtain ⟨old, old_mem, sameKey, oldZero⟩ := (zero other.key).mp ⟨other, other_mem, rfl, isZero⟩
        rw [settled, List.mem_filter] at old_mem
        obtain ⟨oldStored, oldKept⟩ := (survivors old).mp old_mem.1
        rw [← sameKey]
        exact (together old oldStored oldKept).mp oldZero

/-- Releasing threads unbinds exactly the native children on them. -/
theorem releaseNativeAgentSlots_rows (store : SlotStore) (threads : List String) :
    (releaseNativeAgentSlots store threads).agentSlots.rows =
      store.agentSlots.rows.filter fun row =>
        decide (∀ thread ∈ threads, ¬(row.threadId = some thread ∧ row.key ≠ row.workId)) := by
  induction threads generalizing store with
  | nil => simp [releaseNativeAgentSlots]
  | cons thread threads ih =>
    refine (ih (releaseThread store thread)).trans ?_
    simp only [releaseThread, Table.deleteWhere, List.filter_filter]
    apply List.filter_congr
    intro row _
    simp only [List.forall_mem_cons, Bool.decide_and]
    rw [Bool.and_comm]
    congr 1
    rw [Bool.eq_iff_iff]
    simp

/-- An event keeps each binding that it does not release. -/
theorem slotStep_keeps {event : SlotEvent} (step : slotStep store event after) {slot : AgentSlot}
    (member : slot ∈ store.agentSlots.rows) : Bound after slot ∨ Releases store event slot := by
  cases event with
  | reconcile active retired =>
    dsimp only [slotStep] at step
    split at step
    · rename_i listed done reconciled
      subst step
      exact reconcile_keeps reconciled member
    · subst step
      exact .inl ⟨slot, member, rfl⟩
  | release threads =>
    cases step
    by_cases released : Releases store (.release threads) slot
    · exact .inr released
    · refine .inl ⟨slot, ?_, rfl⟩
      rw [releaseNativeAgentSlots_rows, List.mem_filter, decide_eq_true_iff]
      refine ⟨member, ?_⟩
      intro thread thread_mem ⟨bound, native⟩
      exact released ⟨native, thread, thread_mem, bound⟩
  | resume thread =>
    cases step
    exact .inl ⟨slot, member, rfl⟩
  | works items =>
    cases step
    by_cases present : ∃ work ∈ items.rows, work.id = slot.workId
    · obtain ⟨work, work_mem, same⟩ := present
      refine .inl ⟨slot, List.mem_filter.mpr ⟨member, ?_⟩, rfl⟩
      simp only [Bool.not_eq_true', List.all_eq_false]
      exact ⟨work, work_mem, by simp [same]⟩
    · right
      intro listed
      obtain ⟨work, work_mem, same⟩ := List.mem_map.mp listed
      exact present ⟨work, List.mem_of_mem_filter work_mem, same⟩

/-- Only a reconciliation binds. -/
theorem slotStep_binds {event : SlotEvent} (step : slotStep store event after)
    (other : ∀ active retired, event ≠ .reconcile active retired) {slot : AgentSlot}
    (member : slot ∈ after.agentSlots.rows) : slot ∈ store.agentSlots.rows := by
  cases event with
  | reconcile active retired => exact absurd rfl (other active retired)
  | release threads =>
    cases step
    rw [releaseNativeAgentSlots_rows] at member
    exact List.mem_of_mem_filter member
  | resume thread =>
    cases step
    exact member
  | works items =>
    cases step
    exact List.mem_of_mem_filter member

/-- A display number is a `u32`. -/
def NumbersFit (store : SlotStore) : Prop := ∀ slot ∈ store.agentSlots.rows, slot.number < 2 ^ 32

theorem slotStep_fits {event : SlotEvent} (step : slotStep store event after)
    (fit : NumbersFit store) : NumbersFit after := by
  cases event with
  | reconcile active retired =>
    dsimp only [slotStep] at step
    split at step
    · rename_i listed done reconciled
      subst step
      obtain ⟨_, held, fresh, used, loop⟩ := reconcile_spec reconciled
      obtain ⟨added, rows, root⟩ := settledSlots_rows store active retired
      intro slot member
      rw [loop.rows, List.mem_append] at member
      rcases member with member | member
      · obtain ⟨old, old_mem, same⟩ := mem_binding loop.kept member
        rw [← (binding_eq same).2.2]
        rw [rows, List.mem_append] at old_mem
        rcases old_mem with old_mem | new
        · exact fit old (List.mem_of_mem_filter old_mem)
        · rw [(root old new).1]
          decide
      · exact loop.fits slot member
    · subst step
      exact fit
  | release threads => exact fun slot member => fit slot (slotStep_binds step nofun member)
  | resume thread => exact fun slot member => fit slot (slotStep_binds step nofun member)
  | works items => exact fun slot member => fit slot (slotStep_binds step nofun member)

/-- No event of a run releases the binding that `slot` has when it comes. -/
def NeverReleased (store : SlotStore) (events : List SlotEvent) (slot : AgentSlot) : Prop :=
  ∀ before event later middle, events = before ++ event :: later →
    Run slotStep store before middle → ∀ held ∈ middle.agentSlots.rows,
      held.binding = slot.binding → ¬Releases middle event held

/-- A binding that no event of a run releases is there at its end, with its number. -/
theorem run_keeps {events : List SlotEvent} (run : Run slotStep store events after)
    {slot : AgentSlot} (bound : Bound store slot) (never : NeverReleased store events slot) :
    Bound after slot := by
  induction run with
  | nil => exact bound
  | @cons s m t event events first rest ih =>
    obtain ⟨held, member, same⟩ := bound
    have kept : Bound m held := (slotStep_keeps first member).resolve_right
      (never [] event events s rfl (.nil s) held member same)
    refine ih ?_ ?_
    · obtain ⟨next, next_mem, equal⟩ := kept
      exact ⟨next, next_mem, equal.trans same⟩
    · intro before later_event later middle split run
      exact never (event :: before) later_event later middle (by rw [split, List.cons_append])
        (.cons first run)

/-- What every state of a run and every call from it satisfies. -/
structure SlotContract (store : SlotStore) : Prop where
  distinct : Distinct store.agentSlots.rows
  fits : NumbersFit store
  /-- A binding ends only with a reason to release it. -/
  keeps : ∀ event after, slotStep store event after → ∀ slot ∈ store.agentSlots.rows,
    Bound after slot ∨ Releases store event slot
  /-- A key that stays bound keeps its number. -/
  stays : ∀ events after, Run slotStep store events after → ∀ slot ∈ store.agentSlots.rows,
    NeverReleased store events slot → Bound after slot
  /-- Only reconciliation binds. -/
  binds : ∀ event after, slotStep store event after →
    (∀ active retired, event ≠ .reconcile active retired) →
    ∀ slot ∈ after.agentSlots.rows, slot ∈ store.agentSlots.rows
  rebinds : ∀ active retired listed after,
    reconcileAgentSlots store active retired = .ok (listed, after) →
    ∃ held fresh, Rebinds store after active retired held fresh
  refused : ∀ active retired error, reconcileAgentSlots store active retired = .error error →
    error = .invalidInput "no display slot available"
  /-- The root owns number zero after a call that names it exactly when, among the bindings that
  the call does not retire, number zero and the root's key go together. -/
  root : ∀ active retired listed after root,
    reconcileAgentSlots store active retired = .ok (listed, after) →
    namedRoot store.agentWorkItems.rows active = some root →
    (OwnsZero after root.id ↔ ∀ slot ∈ store.agentSlots.rows, slot.key ∉ retired →
      (slot.number = 0 ↔ slot.key = root.id))

/-- Over every run from the empty store, slots are stable and unique, and a named root owns
number zero exactly when neither was bound otherwise. -/
theorem slots_are_stable_and_unique {events : List SlotEvent}
    (run : Run slotStep .empty events store) : SlotContract store where
  distinct := table_distinct store.agentSlots
  fits := run.invariant (fun _ _ _ step fit => slotStep_fits step fit) nofun
  keeps := fun _ _ step _ member => slotStep_keeps step member
  stays := fun _ _ later slot member never => run_keeps later ⟨slot, member, rfl⟩ never
  binds := fun _ _ step other _ member => slotStep_binds step other member
  rebinds := fun _ _ _ _ done => reconcile_rebinds done
  refused := fun _ _ _ refused => reconcile_refused refused
  root := fun _ _ _ _ _ done named => reconcile_root_iff done named

def sampleLead : AgentWorkItem where
  id := "lead"
  parentGoalId := none
  kind := .goal
  codexThreadId := none
  dispatchState := .idle
  activeTurnId := none
  status := .opened
  nextCheckAtMicros := none
  createdAtMicros := 1
  updatedAtMicros := 1

def sampleNext : AgentWorkItem :=
  { sampleLead with id := "next", createdAtMicros := 2, updatedAtMicros := 2 }

def sampleWorks : Table workItemTable := ⟨[sampleLead, sampleNext], by decide, by decide⟩

def sampleRemaining : Table workItemTable := ⟨[sampleNext], by decide, by decide⟩

/-- Both works are bound, and then the older one is deleted. -/
def sampleBound : SlotStore where
  agentWorkItems := sampleWorks
  agentSlots := ⟨[⟨"lead", "lead", none, 0⟩, ⟨"next", "next", none, 1⟩], by decide, by decide⟩
  agentClosedNativeThreads := []

def sampleLeft : SlotStore where
  agentWorkItems := sampleRemaining
  agentSlots := ⟨[⟨"next", "next", none, 1⟩], by decide, by decide⟩
  agentClosedNativeThreads := []

def sampleEvents : List SlotEvent :=
  [.works sampleWorks, .reconcile [⟨"lead", "lead", none⟩, ⟨"next", "next", none⟩] [],
    .works sampleRemaining]

theorem sampleRun : Run slotStep .empty (sampleEvents.take 2) sampleBound := by
  have created : slotStep .empty (.works sampleWorks) ⟨sampleWorks, .empty, []⟩ := by rfl
  have bound : slotStep ⟨sampleWorks, .empty, []⟩
      (.reconcile [⟨"lead", "lead", none⟩, ⟨"next", "next", none⟩] []) sampleBound := by rfl
  exact .cons created (.single bound)

/-- While the first root lives, a call that names it keeps it at number zero. -/
theorem sample_root_owns_zero : Distinct sampleBound.agentSlots.rows ∧ OwnsZero sampleBound "lead" := by
  have contract := slots_are_stable_and_unique sampleRun
  have named : namedRoot sampleBound.agentWorkItems.rows [⟨"lead", "lead", none⟩] =
      some sampleLead := by rfl
  have done : reconcileAgentSlots sampleBound [⟨"lead", "lead", none⟩] [] =
      .ok (sampleBound.agentSlots.rows, sampleBound) := by rfl
  exact ⟨contract.distinct, (contract.root _ _ _ _ _ done named).mpr (by decide)⟩

/-- After the deletion the second work is the root, but it keeps number one. -/
theorem later_root_keeps_its_number : ∃ events store listed after root,
    Run slotStep .empty events store ∧
    reconcileAgentSlots store [⟨"next", "next", none⟩] [] = .ok (listed, after) ∧
    namedRoot store.agentWorkItems.rows [⟨"next", "next", none⟩] = some root ∧
    ¬OwnsZero after root.id := by
  have deleted : slotStep sampleBound (.works sampleRemaining) sampleLeft := by rfl
  refine ⟨sampleEvents, sampleLeft, sampleLeft.agentSlots.rows, sampleLeft, sampleNext,
    sampleRun.append (.single deleted), by rfl, by rfl, ?_⟩
  rintro ⟨⟨slot, member, _, zero⟩, _⟩
  rw [List.mem_singleton.mp member] at zero
  cases zero

end Decodex.Guarantees.AgentSlots
