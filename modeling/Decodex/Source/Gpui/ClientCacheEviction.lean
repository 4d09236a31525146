import Decodex.Source.Gpui.ClientCacheInventory

/-!
# Client cache: what an eviction leaves

Each round takes one generation out of the directory and out of the inventory, so the inventory
stays true of the directory, and the pointer and the generation it names stay as they are.
-/
namespace Decodex.Source.Gpui.ClientCache

open Decodex.Library Decodex.Source.Core

variable {host : ClientCacheHost} {limits : CacheLimits} {root : CacheRoot}
  {inventory : Inventory}

/-- The refusals that are neither failures of the file system nor of the stored data. -/
def isRefusal : CacheError → Bool
  | .boundsExceeded | .conflictingObject | .unknownResolution | .sequenceExhausted => true
  | _ => false

section Steps

variable {α : Type} {pre : Writing → Prop} {failed : CacheError → Writing → Prop}

/-- Nothing is said of a process that stops. -/
abbrev anywhere : Unit → Writing → Prop := fun _ _ => True

theorem meets_look {read : CacheRoot → Except CacheError α} {post : α → Writing → Prop}
    (refused : ∀ writing error, pre writing → read writing.root = .error error →
      failed error writing)
    (seen : ∀ writing value, pre writing → read writing.root = .ok value → post value writing) :
    Script.Meets pre (look read) anywhere failed post :=
  .observe refused seen

theorem meets_changeRoot {act : CacheRoot → Except CacheError CacheRoot}
    {post : Unit → Writing → Prop}
    (refused : ∀ writing error, pre writing → act writing.root = .error error →
      failed error writing)
    (done : ∀ writing root, pre writing → act writing.root = .ok root →
      post () { writing with root }) :
    Script.Meets pre (changeRoot act) anywhere failed post := by
  refine .step ?_ ?_
  · intro writing error start stopped
    cases result : act writing.root with
    | error reason =>
      rw [result] at stopped
      cases stopped
      exact refused writing _ start result
    | ok root =>
      rw [result] at stopped
      cases stopped
  · intro writing value after start acted
    cases result : act writing.root with
    | error reason =>
      rw [result] at acted
      cases acted
    | ok root =>
      rw [result] at acted
      cases acted
      exact ⟨trivial, done writing root start result⟩

theorem meets_markMutation {post : Unit → Writing → Prop}
    (done : ∀ writing, pre writing → post () { writing with persistentMutation := true }) :
    Script.Meets pre markMutation anywhere failed post := by
  refine .step (fun _ _ _ stopped => by cases stopped) ?_
  intro writing value after start acted
  cases acted
  exact ⟨trivial, done writing start⟩

end Steps

theorem find_split {id : String} {generations : List VerifiedGeneration}
    {generation : VerifiedGeneration}
    (found : generations.find? (·.id = id) = some generation) :
    generation.id = id ∧ ∃ before after, generations = before ++ generation :: after ∧
      generations.eraseP (·.id = id) = before ++ after := by
  obtain ⟨named, before, after, split, earlier⟩ := List.find?_eq_some_iff_append.mp found
  refine ⟨by simpa using named, before, after, split, ?_⟩
  rw [split, List.eraseP_append_right _ (fun other member => by simpa using earlier other member),
    List.eraseP_cons_of_pos (p := fun other : VerifiedGeneration => decide (other.id = id)) named]

theorem Inventoried.erase {id : String} {generation : VerifiedGeneration} {rest : Usage}
    (inventoried : Inventoried host limits root inventory)
    (found : inventory.generations.find? (·.id = id) = some generation)
    (taken : inventory.usage.checkedSub generation.usage = .ok rest) :
    Inventoried host limits { root with generations := root.generations.erase id }
      ⟨inventory.current, inventory.generations.eraseP (·.id = id), rest⟩ := by
  obtain ⟨named, before, after, split, erased⟩ := find_split found
  have distinct : (inventory.generations.map (·.id)).Nodup :=
    inventoried.names.nodup_iff.mpr root.generations.keys_nodup
  have perm : inventory.generations.Perm (generation :: (before ++ after)) := by
    rw [split]
    exact List.perm_middle
  have apart := (perm.map (·.id)).nodup_iff.mp distinct
  rw [List.map_cons, List.nodup_cons] at apart
  refine ⟨inventoried.pointer, ?_, ?_, ?_⟩
  · intro other member
    change other ∈ inventory.generations.eraseP _ at member
    rw [erased] at member
    obtain ⟨directory, stored, verified⟩ :=
      inventoried.verified other (perm.mem_iff.mpr (List.mem_cons_of_mem _ member))
    have different : other.id ≠ id := by
      intro same
      exact apart.1 (List.mem_map.mpr ⟨other, member, same.trans named.symm⟩)
    exact ⟨directory, (AList.lookup_erase_ne different).trans stored, verified⟩
  · change ((inventory.generations.eraseP _).map _).Perm (root.generations.erase id).keys
    rw [erased, AList.keys_erase]
    have shorter := ((perm.map (·.id)).symm.trans inventoried.names).erase id
    rwa [List.map_cons, named, List.erase_cons_head] at shorter
  · change rest = _ + usageOf (inventory.generations.eraseP _)
    have whole := usageSub_eq_ok taken
    have sum := inventoried.usage
    rw [usageOf_perm perm, usageOf_cons] at sum
    rw [erased]
    apply usage_cancel generation.usage
    rw [whole, sum]
    ac_rfl

/-- The current pointer names the generation. -/
def Inventory.isCurrent (inventory : Inventory) (generation : VerifiedGeneration) : Bool :=
  some generation.id = inventory.current.map (·.generation)

/-- The inventory and the projected usage after some rounds, and the root they belong to. -/
structure Evicted (host : ClientCacheHost) (limits : CacheLimits) (start : CacheRoot)
    (opening : Inventory) (peak : Usage) (state : Inventory × Usage) (root : CacheRoot) :
    Prop where
  inventoried : Inventoried host limits root state.1
  current : state.1.current = opening.current
  frame : root = { start with generations := root.generations }
  kept : ∀ id directory, root.generations.lookup id = some directory →
    start.generations.lookup id = some directory
  stays : ∀ pointer ∈ opening.current,
    root.generations.lookup pointer.generation = start.generations.lookup pointer.generation
  remaining : state.1.generations.filter opening.isCurrent =
    opening.generations.filter opening.isCurrent
  projected : state.2 = state.1.usage + peak

/-- The pointer, and the generation that it named, are as they were, and nothing is added. -/
structure Steady (opening : Inventory) (start root : CacheRoot) : Prop where
  current : root.current = start.current
  stays : ∀ pointer ∈ opening.current,
    root.generations.lookup pointer.generation = start.generations.lookup pointer.generation
  kept : ∀ id directory, root.generations.lookup id = some directory →
    start.generations.lookup id = some directory

theorem Steady.refl (opening : Inventory) (start : CacheRoot) : Steady opening start start :=
  ⟨rfl, fun _ _ => rfl, fun _ _ stored => stored⟩

theorem Steady.erase {opening : Inventory} {start root : CacheRoot} {id : String}
    (steady : Steady opening start root)
    (other : some id ≠ opening.current.map (·.generation)) :
    Steady opening start { root with generations := root.generations.erase id } := by
  refine ⟨steady.current, ?_, ?_⟩
  · intro pointer pointed
    refine (AList.lookup_erase_ne ?_).trans (steady.stays pointer pointed)
    intro same
    apply other
    rw [Option.mem_def.mp pointed, ← same]
    rfl
  · intro name directory stored
    by_cases same : name = id
    · subst same
      rw [AList.lookup_erase] at stored
      cases stored
    · rw [AList.lookup_erase_ne same] at stored
      exact steady.kept name directory stored

theorem Evicted.steady {start : CacheRoot} {opening : Inventory} {peak : Usage}
    {state : Inventory × Usage}
    (evicted : Evicted host limits start opening peak state root) : Steady opening start root :=
  ⟨(congrArg CacheRoot.current evicted.frame).trans rfl, evicted.stays, evicted.kept⟩

theorem Evicted.opening {peak projected : Usage}
    (inventoried : Inventoried host limits root inventory)
    (added : inventory.usage.checkedAdd peak = .ok projected) :
    Evicted host limits root inventory peak (inventory, projected) root :=
  ⟨inventoried, rfl, rfl, fun _ _ stored => stored, fun _ _ => rfl, rfl, usageAdd_eq_ok added⟩

theorem removeGeneration_ok {generation : VerifiedGeneration} {after : CacheRoot}
    (removed : removeGeneration generation root = .ok after) :
    after = { root with generations := root.generations.erase generation.id } := by
  unfold removeGeneration at removed
  obtain ⟨_, _, removed⟩ := bind_ok removed
  obtain ⟨_, _, removed⟩ := bind_ok removed
  obtain ⟨_, _, removed⟩ := bind_ok removed
  cases removed
  rfl

/-- Removing a verified generation does not run into a bound. -/
theorem removeGeneration_unrefused {generation : VerifiedGeneration} {error : CacheError}
    (inventoried : Inventoried host limits root inventory)
    (member : generation ∈ inventory.generations)
    (failed : removeGeneration generation root = .error error) : isRefusal error = false := by
  obtain ⟨directory, stored, verified⟩ := inventoried.verified generation member
  unfold removeGeneration at failed
  rw [stored] at failed
  change (boundedEntries directory.objects (generation.physicalObjects + 1) >>= _) = _ at failed
  have counted := verified.counted
  unfold boundedEntries at failed
  rw [if_neg (by omega), ok_bind] at failed
  cases manifest : directory.manifest with
  | none =>
    rw [manifest] at failed
    cases failed
    rfl
  | some bytes =>
    rw [manifest] at failed
    cases failed

theorem checkedSub_unrefused {left right : Nat} {error : CacheError}
    (failed : checkedSub left right = .error error) : isRefusal error = false := by
  unfold checkedSub at failed
  split at failed
  · cases failed
  · cases failed
    rfl

theorem usageSub_unrefused {usage other : Usage} {error : CacheError}
    (failed : usage.checkedSub other = .error error) : isRefusal error = false := by
  unfold Usage.checkedSub at failed
  cases bytes : checkedSub usage.bytes other.bytes with
  | error reason =>
    rw [bytes] at failed
    cases failed
    exact checkedSub_unrefused bytes
  | ok value =>
    rw [bytes, ok_bind] at failed
    cases objects : checkedSub usage.objects other.objects with
    | error reason =>
      rw [objects] at failed
      cases failed
      exact checkedSub_unrefused objects
    | ok value =>
      rw [objects, ok_bind] at failed
      cases generations : checkedSub usage.generations other.generations with
      | error reason =>
        rw [generations] at failed
        cases failed
        exact checkedSub_unrefused generations
      | ok value =>
        rw [generations] at failed
        cases failed

/-- The names of the generations that are still to be removed. -/
structure Removable (opening : Inventory) (state : Inventory × Usage)
    (rest : List (Nat × String)) : Prop where
  distinct : (rest.map Prod.snd).Nodup
  among : ∀ id, id ∈ rest.map Prod.snd ↔
    id ∈ state.1.generations.map (·.id) ∧ some id ≠ opening.current.map (·.generation)

theorem evictOne_meets {start : CacheRoot} {opening : Inventory} {peak : Usage}
    {state : Inventory × Usage} {sequence : Nat} {id : String} {rest : List (Nat × String)}
    (removable : Removable opening state ((sequence, id) :: rest)) :
    Script.Meets (fun writing => Evicted host limits start opening peak state writing.root)
      (evictOne state.1 state.2 id) anywhere
      (fun error writing => isRefusal error = false ∧ Steady opening start writing.root)
      (fun after writing => Evicted host limits start opening peak after writing.root ∧
        Removable opening after rest ∧ writing.persistentMutation = true) := by
  have listed := (removable.among id).mp (by simp)
  unfold evictOne
  refine .bind (fun generation writing => Evicted host limits start opening peak state
    writing.root ∧ state.1.generations.find? (·.id = id) = some generation) ?_ ?_
  · refine meets_look ?_ ?_
    · intro writing error evicted failed
      cases found : state.1.generations.find? (·.id = id) with
      | none =>
        rw [found] at failed
        cases failed
        exact ⟨rfl, evicted.steady⟩
      | some generation =>
        rw [found] at failed
        cases failed
    · intro writing generation evicted found
      exact ⟨evicted, require_eq_ok.mp found⟩
  intro generation
  refine .bind (fun _ writing => (Evicted host limits start opening peak state
    writing.root ∧ state.1.generations.find? (·.id = id) = some generation) ∧
      writing.persistentMutation = true) (meets_markMutation ?_) fun _ => ?_
  · intro writing held
    exact ⟨held, rfl⟩
  refine .bind (fun _ writing => ∃ before, Evicted host limits start opening peak state before ∧
    state.1.generations.find? (·.id = id) = some generation ∧
    writing.root = { before with generations := before.generations.erase id } ∧
    writing.persistentMutation = true) (meets_changeRoot ?_ ?_) fun _ => meets_look ?_ ?_
  · intro writing error held failed
    exact ⟨removeGeneration_unrefused held.1.1.inventoried
      (List.mem_of_find?_eq_some held.1.2) failed, held.1.1.steady⟩
  · intro writing root held removed
    obtain ⟨⟨evicted, found⟩, marked⟩ := held
    refine ⟨writing.root, evicted, found, ?_, marked⟩
    rw [removeGeneration_ok removed, (find_split found).1]
  · intro writing error held failed
    obtain ⟨before, evicted, _, removed, _⟩ := held
    have steady : Steady opening start writing.root := by
      rw [removed]
      exact evicted.steady.erase listed.2
    cases usage : state.1.usage.checkedSub generation.usage with
    | error reason =>
      rw [usage] at failed
      cases failed
      exact ⟨usageSub_unrefused usage, steady⟩
    | ok value =>
      rw [usage, ok_bind] at failed
      cases projected : state.2.checkedSub generation.usage with
      | error reason =>
        rw [projected] at failed
        cases failed
        exact ⟨usageSub_unrefused projected, steady⟩
      | ok value =>
        rw [projected] at failed
        cases failed
  · intro writing after held left
    obtain ⟨before, evicted, found, removed, marked⟩ := held
    obtain ⟨usage, taken, left⟩ := bind_ok left
    obtain ⟨projected, shrunk, left⟩ := bind_ok left
    cases left
    obtain ⟨named, front, back, split, erased⟩ := find_split found
    have absent : opening.isCurrent generation = false := by
      unfold Inventory.isCurrent
      rw [named]
      exact decide_eq_false listed.2
    have distinct : (state.1.generations.map (·.id)).Nodup :=
      evicted.inventoried.names.nodup_iff.mpr before.generations.keys_nodup
    have steady := evicted.steady.erase listed.2
    rw [← removed] at steady
    refine ⟨⟨?_, evicted.current, ?_, steady.kept, steady.stays, ?_, ?_⟩, ⟨?_, ?_⟩, marked⟩
    · rw [removed]
      exact evicted.inventoried.erase found taken
    · rw [removed]
      exact congrArg (fun root : CacheRoot =>
        { root with generations := before.generations.erase id }) evicted.frame
    · change (state.1.generations.eraseP _).filter _ = _
      rw [erased, ← evicted.remaining, split, List.filter_append, List.filter_append,
        List.filter_cons_of_neg (by simp [absent])]
    · change projected = usage + peak
      have whole := usageSub_eq_ok taken
      have sum := usageSub_eq_ok shrunk
      apply usage_cancel generation.usage
      rw [sum, evicted.projected, ← whole]
      ac_rfl
    · have shorter := removable.distinct
      rw [List.map_cons, List.nodup_cons] at shorter
      exact shorter.2
    · intro other
      have both := removable.among other
      have shorter := removable.distinct
      rw [List.map_cons, List.nodup_cons] at shorter
      rw [split, List.map_append, List.map_cons, List.nodup_append, List.nodup_cons] at distinct
      rw [split] at both
      simp only [List.map_cons, List.mem_cons, List.map_append, List.mem_append, named] at both
      change _ ↔ other ∈ (state.1.generations.eraseP _).map _ ∧ _
      rw [erased, List.map_append, List.mem_append]
      by_cases same : other = id
      · subst same
        refine ⟨fun later => absurd later shorter.1, ?_⟩
        intro held
        exfalso
        rcases held.1 with early | late
        · exact distinct.2.2 _ early _ (by simp) named.symm
        · exact distinct.2.1.1 (named ▸ late)
      · simp only [same, false_or] at both
        exact both

theorem candidates_removable {projected : Usage}
    (inventoried : Inventoried host limits root inventory) :
    Removable inventory (inventory, projected) (candidates inventory) := by
  have perm : ((candidates inventory).map Prod.snd).Perm
      ((inventory.generations.filter fun generation =>
        some generation.id ≠ inventory.current.map (·.generation)).map (·.id)) := by
    unfold candidates
    refine ((List.perm_insertionSort _ _).map _).trans ?_
    rw [List.map_map]
    exact .refl _
  have distinct : (inventory.generations.map (·.id)).Nodup :=
    inventoried.names.nodup_iff.mpr root.generations.keys_nodup
  refine ⟨perm.nodup_iff.mpr (distinct.sublist (List.filter_sublist.map _)), ?_⟩
  intro id
  rw [perm.mem_iff]
  simp only [List.mem_map, List.mem_filter, decide_eq_true_eq]
  constructor
  · rintro ⟨generation, ⟨member, other⟩, rfl⟩
    exact ⟨⟨generation, member, rfl⟩, other⟩
  · rintro ⟨⟨generation, member, rfl⟩, other⟩
    exact ⟨generation, ⟨member, other⟩, rfl⟩

/-- Where the loop stops there is room, or no generation left to remove. -/
theorem evictEach_meets {start : CacheRoot} {opening : Inventory} {peak : Usage}
    (rest : List (Nat × String)) (state : Inventory × Usage)
    (removable : Removable opening state rest) :
    Script.Meets (fun writing => Evicted host limits start opening peak state writing.root ∧
        writing.persistentMutation = true)
      (evictEach limits rest state) anywhere
      (fun error writing => isRefusal error = false ∧ Steady opening start writing.root)
      (fun after writing => Evicted host limits start opening peak after writing.root ∧
        (limits.contains after.2 = true ∨ Removable opening after []) ∧
        writing.persistentMutation = true) := by
  induction rest generalizing state with
  | nil =>
    refine .ret ?_
    intro writing held
    exact ⟨held.1, .inr removable, held.2⟩
  | cons first rest ih =>
    obtain ⟨sequence, id⟩ := first
    unfold evictEach
    split
    · rename_i room
      refine .ret ?_
      intro writing held
      exact ⟨held.1, .inl room, held.2⟩
    · refine .bind _ ((evictOne_meets removable).weaken (fun _ held => held.1)
        (fun _ _ failed => failed) fun _ _ done => done) fun after => ?_
      intro writing done
      obtain ⟨evicted, fewer, marked⟩ := done
      exact ih after fewer writing ⟨evicted, marked⟩

/-- The usage when every generation besides the current one is gone. -/
def leastUsage (inventory : Inventory) (peak : Usage) : Usage :=
  pointerUsage inventory.current + usageOf (inventory.generations.filter inventory.isCurrent) +
    peak

/-- The peak does not fit, even after the eviction of every generation that may go. -/
structure Futile (limits : CacheLimits) (inventory : Inventory) (peak : Usage) : Prop where
  counted : ∃ projected, inventory.usage.checkedAdd peak = .ok projected
  evicts : candidates inventory ≠ []
  short : limits.contains (leastUsage inventory peak) = false

theorem Evicted.least {start : CacheRoot} {opening : Inventory} {peak : Usage}
    {state : Inventory × Usage}
    (evicted : Evicted host limits start opening peak state root)
    (removable : Removable opening state []) : state.2 = leastUsage opening peak := by
  have all : state.1.generations.filter opening.isCurrent = state.1.generations := by
    rw [List.filter_eq_self]
    intro generation member
    have none := removable.among generation.id
    simp only [List.map_nil, List.not_mem_nil, false_iff, not_and, not_not] at none
    exact decide_eq_true (none (List.mem_map.mpr ⟨generation, member, rfl⟩))
  unfold leastUsage
  rw [evicted.projected, evicted.inventoried.usage, evicted.current, ← evicted.remaining, all]

/-- An eviction that is refused has changed nothing, or it was futile. -/
theorem evictForPeak_meets {peak : Usage} (inventoried : Inventoried host limits root inventory) :
    Script.Meets (· = ⟨root, false⟩) (evictForPeak limits inventory peak) anywhere
      (fun error writing => Steady inventory root writing.root ∧ (isRefusal error = true →
        (writing = ⟨root, false⟩ ∧ ¬Futile limits inventory peak) ∨
        (writing.persistentMutation = true ∧ Futile limits inventory peak)))
      (fun _ writing => ∃ state, Evicted host limits root inventory peak state writing.root ∧
        limits.contains state.2 = true) := by
  have removable (projected : Usage) :
      Removable inventory (inventory, projected) (candidates inventory) :=
    candidates_removable inventoried
  unfold evictForPeak
  refine .bind (fun projected writing => inventory.usage.checkedAdd peak = .ok projected ∧
    writing = ⟨root, false⟩) (meets_look ?_ ?_) fun projected => .assuming fun counted => ?_
  · rintro writing error rfl failed
    refine ⟨.refl _ _, fun _ => .inl ⟨rfl, ?_⟩⟩
    intro futile
    obtain ⟨projected, counted⟩ := futile.counted
    rw [counted] at failed
    cases failed
  · intro writing projected opened counted
    exact ⟨counted, opened⟩
  have evicted := Evicted.opening inventoried counted
  by_cases idle : candidates inventory = [] ∨ limits.contains projected = true
  · have stays : evictEach limits (candidates inventory) (inventory, projected) =
        pure (inventory, projected) := by
      rcases idle with empty | room
      · rw [empty]
        rfl
      · cases listed : candidates inventory with
        | nil => rfl
        | cons first rest =>
          obtain ⟨sequence, id⟩ := first
          unfold evictEach
          rw [if_pos room]
    rw [stays]
    refine .bind (fun state writing => writing = ⟨root, false⟩ ∧ state = (inventory, projected))
      (.ret fun writing opened => ⟨opened, rfl⟩) fun state => meets_look ?_ ?_
    · intro writing error held failed
      rw [held.1]
      refine ⟨.refl _ _, fun _ => .inl ⟨rfl, ?_⟩⟩
      intro futile
      rw [held.2] at failed
      rcases idle with empty | room
      · exact futile.evicts empty
      · rw [room] at failed
        cases failed
    · intro writing value held room
      rw [refuse_eq_ok, held.2, Bool.not_eq_false] at room
      rw [held.1]
      exact ⟨_, evicted, room⟩
  · rw [not_or] at idle
    obtain ⟨some, short⟩ := idle
    refine .bind (fun state writing => Evicted host limits root inventory peak state
      writing.root ∧ (limits.contains state.2 = true ∨ Removable inventory state []) ∧
      writing.persistentMutation = true) ?_ fun state => meets_look ?_ ?_
    · have listed := removable projected
      cases shape : candidates inventory with
      | nil => exact absurd shape some
      | cons first rest =>
        rw [shape] at listed
        obtain ⟨sequence, id⟩ := first
        unfold evictEach
        rw [if_neg short]
        have one : Script.Meets (fun writing => Evicted host limits root inventory peak
          (inventory, projected) writing.root) _ anywhere _ _ := evictOne_meets listed
        refine .bind (fun after writing => Removable inventory after rest ∧
          Evicted host limits root inventory peak after writing.root ∧
          writing.persistentMutation = true) (one.weaken ?_ ?_ ?_)
          fun after => .assuming fun fewer => (evictEach_meets rest after fewer).weaken
            (fun _ held => held) ?_ fun _ _ done => done
        · rintro writing rfl
          exact evicted
        · intro error writing failed
          refine ⟨failed.2, fun refusal => ?_⟩
          rw [failed.1] at refusal
          cases refusal
        · intro after writing done
          exact ⟨done.2.1, done.1, done.2.2⟩
        · intro error writing failed
          refine ⟨failed.2, fun refusal => ?_⟩
          rw [failed.1] at refusal
          cases refusal
    · intro writing error held failed
      have full : limits.contains state.2 = false := by
        unfold refuse at failed
        split at failed
        · assumption
        · cases failed
      refine ⟨held.1.steady, fun _ => .inr ⟨held.2.2, ⟨projected, counted⟩, some, ?_⟩⟩
      rcases held.2.1 with room | none
      · rw [room] at full
        cases full
      · rw [← held.1.least none]
        exact full
    · intro writing value held room
      rw [refuse_eq_ok, Bool.not_eq_false] at room
      exact ⟨state, held.1, room⟩

end Decodex.Source.Gpui.ClientCache
