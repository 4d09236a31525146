import Decodex.Source.Gpui.ClientCacheEviction

/-!
# Client cache: what a plan holds

A planned object is an input, or an uncertain record of the current generation under the same
authority. Every such record is planned again, unless it is resolved or an input of the same
content takes its place.
-/
namespace Decodex.Source.Gpui.ClientCache

open Decodex.Library Decodex.Source.Core

variable {host : ClientCacheHost} {limits : CacheLimits} {authority : CacheAuthority}
  {inventory : Inventory} {inputs : List ObjectInput} {resolutions : List UncertainResolution}

/-- The generation whose uncertain records are carried over. -/
def Inherits (authority : CacheAuthority) (inventory : Inventory) (current : VerifiedGeneration) :
    Prop :=
  inventory.currentGeneration = some current ∧ current.manifest.authority = authority

theorem lookup_carried {id : String} {records : List ObjectRecord} {start : PlannedRecords}
    (distinct : (records.map ObjectRecord.key).Nodup) :
    (∀ record ∈ records, (records.foldl (fun planned record =>
      planned.insert record.key ⟨record, .existing id⟩) start).lookup record.key =
        some ⟨record, .existing id⟩) ∧
    ∀ key, key ∉ records.map ObjectRecord.key → (records.foldl (fun planned record =>
      planned.insert record.key ⟨record, .existing id⟩) start).lookup key = start.lookup key := by
  induction records generalizing start with
  | nil => exact ⟨nofun, fun _ _ => rfl⟩
  | cons first rest ih =>
    rw [List.map_cons, List.nodup_cons] at distinct
    obtain ⟨carried, others⟩ := @ih (start.insert first.key ⟨first, .existing id⟩) distinct.2
    refine ⟨?_, ?_⟩
    · intro record member
      rcases List.mem_cons.mp member with rfl | later
      · exact (others _ distinct.1).trans (AList.lookup_insert _)
      · exact carried record later
    · intro key absent
      rw [List.map_cons, List.mem_cons, not_or] at absent
      exact (others key absent.2).trans (AList.lookup_insert_ne absent.1)

theorem lookup_inherited {key : RecordKey} {planned : PlannedObject}
    (distinct : ∀ current, inventory.currentGeneration = some current →
      (current.manifest.objects.map ObjectRecord.key).Nodup) :
    (inheritUncertain authority inventory).lookup key = some planned ↔
      ∃ current, Inherits authority inventory current ∧
        planned.record ∈ current.manifest.objects ∧ planned.record.certainty = .uncertain ∧
        planned.record.key = key ∧ planned.source = .existing current.id := by
  unfold inheritUncertain Inherits
  cases found : inventory.currentGeneration with
  | none => simp
  | some current =>
    by_cases same : current.manifest.authority = authority
    · have filtered : (some current).filter (fun current : VerifiedGeneration =>
          decide (current.manifest.authority = authority)) = some current := by
        simp [same]
      have nodup : ((current.manifest.objects.filter (·.certainty = .uncertain)).map
          ObjectRecord.key).Nodup := (distinct current found).sublist (List.filter_sublist.map _)
      obtain ⟨carried, others⟩ := @lookup_carried current.id _ ∅ nodup
      rw [filtered]
      dsimp only
      constructor
      · intro listed
        by_cases member : key ∈ (current.manifest.objects.filter (·.certainty = .uncertain)).map
            ObjectRecord.key
        · obtain ⟨record, among, rfl⟩ := List.mem_map.mp member
          rw [carried record among] at listed
          cases listed
          rw [List.mem_filter, decide_eq_true_eq] at among
          exact ⟨current, ⟨rfl, same⟩, among.1, among.2, rfl, rfl⟩
        · rw [others key member] at listed
          simp at listed
      · rintro ⟨other, ⟨equal, _⟩, member, uncertain, rfl, source⟩
        cases equal
        have among : planned.record ∈
            current.manifest.objects.filter (·.certainty = .uncertain) :=
          List.mem_filter.mpr ⟨member, decide_eq_true uncertain⟩
        rw [carried _ among]
        cases planned
        cases source
        rfl
    · have filtered : (some current).filter (fun current : VerifiedGeneration =>
          decide (current.manifest.authority = authority)) = none := by
        simp [same]
      rw [filtered]
      simp only [AList.lookup_empty, reduceCtorEq, false_iff, not_exists, not_and]
      rintro other ⟨equal, agrees⟩
      cases equal
      exact absurd agrees same

/-- The records after some resolutions, and the keys these have named. -/
structure Resolved (inherited : PlannedRecords) (done : List UncertainResolution)
    (state : PlannedRecords × List RecordKey) : Prop where
  keys : ∀ key, key ∈ state.2 ↔ ∃ resolution ∈ done, resolution.key = key
  removed : ∀ key, key ∈ state.2 → state.1.lookup key = none
  kept : ∀ key, key ∉ state.2 → state.1.lookup key = inherited.lookup key

theorem resolveUncertain_resolved {inherited : PlannedRecords} {done : List UncertainResolution}
    {state after : PlannedRecords × List RecordKey} {resolution : UncertainResolution}
    (resolved : Resolved inherited done state)
    (step : resolveUncertain state resolution = .ok after) :
    Resolved inherited (done ++ [resolution]) after := by
  unfold resolveUncertain at step
  obtain ⟨_, _, step⟩ := bind_ok step
  obtain ⟨records, removal, step⟩ := bind_ok step
  cases step
  have erased : records = state.1.erase resolution.key := by
    unfold removeUncertain at removal
    split at removal
    · obtain ⟨_, _, removal⟩ := bind_ok removal
      cases removal
      rfl
    · cases removal
  subst erased
  refine ⟨?_, ?_, ?_⟩
  · intro key
    simp only [List.mem_cons, resolved.keys, List.mem_append, List.not_mem_nil, or_false]
    constructor
    · rintro (rfl | ⟨other, member, named⟩)
      · exact ⟨resolution, .inr rfl, rfl⟩
      · exact ⟨other, .inl member, named⟩
    · rintro ⟨other, member | rfl, named⟩
      · exact .inr ⟨other, member, named⟩
      · exact .inl named.symm
  · intro key member
    by_cases same : key = resolution.key
    · rw [same, AList.lookup_erase]
    · rw [AList.lookup_erase_ne same]
      exact resolved.removed key ((List.mem_cons.mp member).resolve_left same)
  · intro key absent
    rw [List.mem_cons, not_or] at absent
    rw [AList.lookup_erase_ne absent.1]
    exact resolved.kept key absent.2

/-- The records after some inputs: each input has its place, the other keys are as they were. -/
structure Supplied (host : ClientCacheHost) (limits : CacheLimits) (kept : PlannedRecords)
    (done : List ObjectInput) (state : PlannedRecords × List RecordKey) : Prop where
  keys : ∀ key, key ∈ state.2 ↔ ∃ input ∈ done, input.key = key
  given : ∀ input ∈ done,
    state.1.lookup input.key = some ⟨input.record host, .input input.bytes⟩
  others : ∀ key, key ∉ state.2 → state.1.lookup key = kept.lookup key
  agrees : ∀ input ∈ done, ∀ existing, kept.lookup input.key = some existing →
    existing.record.sha256 = sha256Hex host input.bytes ∧
      existing.record.byteLength = input.bytes.length
  bounded : ∀ input ∈ done, input.bytes.length ≤ limits.maxBytes

theorem planInput_supplied {kept : PlannedRecords} {resolved : List RecordKey}
    {done : List ObjectInput} {state after : PlannedRecords × List RecordKey} {input : ObjectInput}
    (supplied : Supplied host limits kept done state)
    (step : planInput host limits resolved state input = .ok after) :
    Supplied host limits kept (done ++ [input]) after := by
  unfold planInput at step
  obtain ⟨_, fresh, step⟩ := bind_ok step
  obtain ⟨_, _, step⟩ := bind_ok step
  obtain ⟨_, bounded, step⟩ := bind_ok step
  dsimp only at step
  obtain ⟨_, agrees, step⟩ := bind_ok step
  cases step
  rw [refuse_eq_ok, not_or] at fresh
  rw [refuse_eq_ok, Nat.not_lt] at bounded
  rw [refuse_eq_ok] at agrees
  push Not at agrees
  rw [supplied.others _ fresh.2] at agrees
  refine ⟨?_, ?_, ?_, ?_, ?_⟩
  · intro key
    simp only [List.mem_cons, supplied.keys, List.mem_append, List.not_mem_nil, or_false]
    constructor
    · rintro (rfl | ⟨other, member, named⟩)
      · exact ⟨input, .inr rfl, rfl⟩
      · exact ⟨other, .inl member, named⟩
    · rintro ⟨other, member | rfl, named⟩
      · exact .inr ⟨other, member, named⟩
      · exact .inl named.symm
  · intro other member
    rcases List.mem_append.mp member with old | new
    · have apart : other.key ≠ input.key := by
        intro same
        exact fresh.2 ((supplied.keys input.key).mpr ⟨other, old, same⟩)
      rw [AList.lookup_insert_ne apart]
      exact supplied.given other old
    · rw [List.mem_singleton.mp new, AList.lookup_insert]
  · intro key absent
    rw [List.mem_cons, not_or] at absent
    rw [AList.lookup_insert_ne absent.1]
    exact supplied.others key absent.2
  · intro other member existing found
    rcases List.mem_append.mp member with old | new
    · exact supplied.agrees other old existing found
    · rw [List.mem_singleton.mp new] at found ⊢
      exact agrees existing found
  · intro other member
    rcases List.mem_append.mp member with old | new
    · exact supplied.bounded other old
    · rwa [List.mem_singleton.mp new]

theorem mem_plannedObjects {records : PlannedRecords} {object : PlannedObject} :
    object ∈ plannedObjects records ↔ ∃ key, records.lookup key = some object := by
  unfold plannedObjects
  rw [List.mem_map]
  constructor
  · rintro ⟨entry, member, rfl⟩
    rw [List.mem_insertionSort] at member
    exact ⟨entry.1, AList.mem_lookup_iff.mpr member⟩
  · rintro ⟨key, found⟩
    refine ⟨⟨key, object⟩, ?_, rfl⟩
    rw [List.mem_insertionSort]
    exact AList.mem_lookup_iff.mp found

/-- The object of an input. -/
def ObjectInput.planned (host : ClientCacheHost) (input : ObjectInput) : PlannedObject :=
  ⟨input.record host, .input input.bytes⟩

structure Planned (host : ClientCacheHost) (limits : CacheLimits) (authority : CacheAuthority)
    (inventory : Inventory) (sequence : Nat) (inputs : List ObjectInput)
    (resolutions : List UncertainResolution) (plan : PublicationPlan) : Prop where
  manifest : plan.manifest =
    ⟨manifestVersion, sequence, authority, plan.objects.map (·.record)⟩
  count : plan.objects.length ≤ maxObjects
  few : (uniqueObjects plan.objects).entries.length ≤ limits.maxObjects
  given : ∀ input ∈ inputs, input.planned host ∈ plan.objects ∧
    input.bytes.length ≤ limits.maxBytes
  origin : ∀ object ∈ plan.objects, (∃ input ∈ inputs, object = input.planned host) ∨
    ∃ current, Inherits authority inventory current ∧
      object.record ∈ current.manifest.objects ∧ object.record.certainty = .uncertain ∧
      object.source = .existing current.id
  kept : ∀ current record, Inherits authority inventory current →
    record ∈ current.manifest.objects → record.certainty = .uncertain →
    (∃ resolution ∈ resolutions, resolution.key = record.key) ∨
    (∃ input ∈ inputs, input.key = record.key ∧
      record.sha256 = sha256Hex host input.bytes ∧ record.byteLength = input.bytes.length) ∨
    ∃ object ∈ plan.objects, object.record = record

theorem buildPlan_ok {sequence : Nat} {plan : PublicationPlan}
    (distinct : ∀ current, inventory.currentGeneration = some current →
      (current.manifest.objects.map ObjectRecord.key).Nodup)
    (built : buildPlan host limits authority inventory sequence inputs resolutions = .ok plan) :
    Planned host limits authority inventory sequence inputs resolutions plan := by
  unfold buildPlan at built
  obtain ⟨⟨kept, resolved⟩, resolving, built⟩ := bind_ok built
  obtain ⟨⟨records, seen⟩, supplying, built⟩ := bind_ok built
  obtain ⟨_, count, built⟩ := bind_ok built
  obtain ⟨_, few, built⟩ := bind_ok built
  cases built
  rw [refuse_eq_ok, Nat.not_lt] at count few
  have resolution : Resolved (inheritUncertain authority inventory) resolutions (kept, resolved) :=
    foldlM_ok_prefix (Resolved (inheritUncertain authority inventory))
      (fun _ _ _ _ held step => resolveUncertain_resolved held step)
      ⟨by simp, by simp, fun _ _ => rfl⟩ resolving
  have supply : Supplied host limits kept inputs (records, seen) :=
    foldlM_ok_prefix (Supplied host limits kept)
      (fun _ _ _ _ held step => planInput_supplied held step)
      ⟨by simp, nofun, fun _ _ => rfl, nofun, nofun⟩ supplying
  refine ⟨rfl, ?_, few, ?_, ?_, ?_⟩
  · change (plannedObjects records).length ≤ maxObjects
    unfold plannedObjects
    rw [List.length_map, List.length_insertionSort]
    exact count
  · intro input member
    exact ⟨mem_plannedObjects.mpr ⟨input.key, supply.given input member⟩,
      supply.bounded input member⟩
  · intro object member
    obtain ⟨key, found⟩ := mem_plannedObjects.mp member
    by_cases named : key ∈ seen
    · obtain ⟨input, among, rfl⟩ := (supply.keys key).mp named
      rw [supply.given input among] at found
      cases found
      exact .inl ⟨input, among, rfl⟩
    · rw [supply.others key named] at found
      by_cases gone : key ∈ resolved
      · rw [resolution.removed key gone] at found
        cases found
      · rw [resolution.kept key gone] at found
        obtain ⟨current, inherits, listed, uncertain, _, source⟩ :=
          (lookup_inherited distinct).mp found
        exact .inr ⟨current, inherits, listed, uncertain, source⟩
  · intro current record inherits listed uncertain
    have carried : (inheritUncertain authority inventory).lookup record.key =
        some ⟨record, .existing current.id⟩ :=
      (lookup_inherited distinct).mpr ⟨current, inherits, listed, uncertain, rfl, rfl⟩
    by_cases gone : record.key ∈ resolved
    · exact .inl ((resolution.keys _).mp gone)
    · have left := (resolution.kept _ gone).trans carried
      by_cases named : record.key ∈ seen
      · obtain ⟨input, among, same⟩ := (supply.keys _).mp named
        rw [← same] at left
        exact .inr (.inl ⟨input, among, same, supply.agrees input among _ left⟩)
      · exact .inr (.inr ⟨⟨record, .existing current.id⟩,
          mem_plannedObjects.mpr ⟨record.key, (supply.others _ named).trans left⟩, rfl⟩)

end Decodex.Source.Gpui.ClientCache
