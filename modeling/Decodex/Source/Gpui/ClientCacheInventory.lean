import Mathlib.Algebra.Order.BigOperators.Group.List
import Decodex.Source.Gpui.ClientCacheWrites

/-!
# Client cache: what an inventory says of the directory

An inventory that was read lists each generation directory once, with a manifest whose records
name the content objects, and its usage is the sum over the directories and the pointer.
-/
namespace Decodex.Source.Gpui.ClientCache

open Decodex.Library Decodex.Source.Core

variable {host : ClientCacheHost} {limits : CacheLimits} {root : CacheRoot}
  {inventory : Inventory}

@[simp] theorem refuse_eq_ok {error : CacheError} {condition : Prop} [Decidable condition] :
    refuse error condition = .ok () ↔ ¬condition := by
  unfold refuse
  split <;> simp_all

@[simp] theorem require_eq_ok {α : Type} {error : CacheError} {value : α} {found : Option α} :
    require error found = .ok value ↔ found = some value := by
  cases found <;> simp [require]

theorem checkedAdd_eq_ok {left right sum : Nat} :
    checkedAdd left right = .ok sum ↔ left + right < 2 ^ 64 ∧ sum = left + right := by
  unfold checkedAdd
  split
  · rename_i small
    simp only [Except.ok.injEq, small, true_and]
    exact eq_comm
  · rename_i large
    simp only [reduceCtorEq, false_iff, not_and]
    intro small
    exact absurd small large

theorem checkedSub_eq_ok {left right rest : Nat} :
    checkedSub left right = .ok rest ↔ right ≤ left ∧ rest = left - right := by
  unfold checkedSub
  split
  · rename_i small
    simp only [Except.ok.injEq, small, true_and]
    exact eq_comm
  · rename_i large
    simp [large]

instance usageAdd : Add Usage :=
  ⟨fun left right => ⟨left.bytes + right.bytes, left.objects + right.objects,
    left.generations + right.generations⟩⟩

instance usageLE : LE Usage :=
  ⟨fun left right => left.bytes ≤ right.bytes ∧ left.objects ≤ right.objects ∧
    left.generations ≤ right.generations⟩

@[simp] theorem add_bytes (left right : Usage) :
    (left + right).bytes = left.bytes + right.bytes := rfl

@[simp] theorem add_objects (left right : Usage) :
    (left + right).objects = left.objects + right.objects := rfl

@[simp] theorem add_generations (left right : Usage) :
    (left + right).generations = left.generations + right.generations := rfl

theorem usage_le {left right : Usage} : left ≤ right ↔ left.bytes ≤ right.bytes ∧
    left.objects ≤ right.objects ∧ left.generations ≤ right.generations := Iff.rfl

theorem usage_ext {left right : Usage} (bytes : left.bytes = right.bytes)
    (objects : left.objects = right.objects)
    (generations : left.generations = right.generations) : left = right := by
  cases left
  cases right
  simp_all

instance usageZero : Zero Usage := ⟨Usage.none⟩

instance usageMonoid : AddCommMonoid Usage where
  add_assoc _ _ _ := usage_ext (Nat.add_assoc _ _ _) (Nat.add_assoc _ _ _) (Nat.add_assoc _ _ _)
  zero_add _ := usage_ext (Nat.zero_add _) (Nat.zero_add _) (Nat.zero_add _)
  add_zero _ := usage_ext (Nat.add_zero _) (Nat.add_zero _) (Nat.add_zero _)
  add_comm _ _ := usage_ext (Nat.add_comm _ _) (Nat.add_comm _ _) (Nat.add_comm _ _)
  nsmul := nsmulRec

/-- What is added on the right can be taken away. -/
theorem usage_cancel {left right : Usage} (other : Usage) (same : left + other = right + other) :
    left = right := by
  have bytes := congrArg Usage.bytes same
  have objects := congrArg Usage.objects same
  have generations := congrArg Usage.generations same
  simp only [add_bytes, add_objects, add_generations] at bytes objects generations
  apply usage_ext <;> omega

theorem usage_le_add (usage other : Usage) : usage ≤ usage + other :=
  ⟨Nat.le_add_right _ _, Nat.le_add_right _ _, Nat.le_add_right _ _⟩

theorem contains_iff {usage : Usage} : limits.contains usage = true ↔
    usage.bytes ≤ limits.maxBytes ∧ usage.objects ≤ limits.maxObjects ∧
      usage.generations ≤ limits.maxGenerations := by
  simp [CacheLimits.contains, and_assoc]

theorem contains_mono {less more : Usage} (within : limits.contains more = true)
    (le : less ≤ more) : limits.contains less = true := by
  rw [contains_iff] at within ⊢
  rw [usage_le] at le
  omega

theorem limits_small (limits : CacheLimits) : limits.maxBytes < 2 ^ 63 ∧
    limits.maxObjects < 2 ^ 63 ∧ limits.maxGenerations < 2 ^ 63 := by
  have bounded := limits.bounded
  unfold maxBytes maxObjects maxGenerations at bounded
  omega

theorem usageAdd_eq_ok {usage other sum : Usage} (added : usage.checkedAdd other = .ok sum) :
    sum = usage + other := by
  unfold Usage.checkedAdd at added
  obtain ⟨bytes, first, added⟩ := bind_ok added
  obtain ⟨objects, second, added⟩ := bind_ok added
  obtain ⟨generations, third, added⟩ := bind_ok added
  cases added
  apply usage_ext
  · exact (checkedAdd_eq_ok.mp first).2
  · exact (checkedAdd_eq_ok.mp second).2
  · exact (checkedAdd_eq_ok.mp third).2

/-- A sum that fits the limits does not overflow. -/
theorem usageAdd_of_contains {usage other : Usage}
    (within : limits.contains (usage + other) = true) :
    usage.checkedAdd other = .ok (usage + other) := by
  rw [contains_iff] at within
  have small := limits_small limits
  simp only [add_bytes, add_objects, add_generations] at within
  unfold Usage.checkedAdd
  rw [checkedAdd_eq_ok.mpr ⟨by omega, rfl⟩, ok_bind, checkedAdd_eq_ok.mpr ⟨by omega, rfl⟩, ok_bind,
    checkedAdd_eq_ok.mpr ⟨by omega, rfl⟩, ok_bind]
  rfl

theorem usageSub_eq_ok {usage other rest : Usage} (taken : usage.checkedSub other = .ok rest) :
    rest + other = usage := by
  unfold Usage.checkedSub at taken
  obtain ⟨bytes, first, taken⟩ := bind_ok taken
  obtain ⟨objects, second, taken⟩ := bind_ok taken
  obtain ⟨generations, third, taken⟩ := bind_ok taken
  cases taken
  have bytesLeft := checkedSub_eq_ok.mp first
  have objectsLeft := checkedSub_eq_ok.mp second
  have generationsLeft := checkedSub_eq_ok.mp third
  apply usage_ext
  · simp only [add_bytes]
    omega
  · simp only [add_objects]
    omega
  · simp only [add_generations]
    omega

/-- What a list of generations uses. -/
def usageOf (generations : List VerifiedGeneration) : Usage :=
  (generations.map (·.usage)).sum

theorem usageOf_cons (first : VerifiedGeneration) (rest : List VerifiedGeneration) :
    usageOf (first :: rest) = first.usage + usageOf rest :=
  List.sum_cons

theorem usageOf_perm {left right : List VerifiedGeneration} (perm : left.Perm right) :
    usageOf left = usageOf right :=
  (perm.map _).sum_eq

/-- The sum of the recorded lengths. -/
def totalLength (lengths : AList fun _ : String => Nat) : Nat := (lengths.entries.map (·.2)).sum

theorem totalLength_insert {lengths : AList fun _ : String => Nat} {digest : String}
    (length : Nat) (absent : lengths.lookup digest = none) :
    totalLength (lengths.insert digest length) = length + totalLength lengths := by
  unfold totalLength
  rw [AList.entries_insert_of_notMem (AList.lookup_eq_none.mp absent), List.map_cons,
    List.sum_cons]

/-- What the records that were validated so far say. -/
structure Recorded (limits : CacheLimits) (records : List ObjectRecord) (tally : RecordTally) :
    Prop where
  keys : tally.keys = (records.map ObjectRecord.key).reverse
  distinct : (records.map ObjectRecord.key).Nodup
  bounded : ∀ record ∈ records, record.byteLength ≤ limits.maxBytes
  lengths : ∀ record ∈ records,
    tally.contentLengths.lookup record.sha256 = some record.byteLength
  named : ∀ digest length, tally.contentLengths.lookup digest = some length →
    ∃ record ∈ records, record.sha256 = digest ∧ record.byteLength = length
  total : tally.recordedBytes = totalLength tally.contentLengths

theorem recorded_nil : Recorded limits [] ⟨[], ∅, 0⟩ where
  keys := rfl
  distinct := List.nodup_nil
  bounded := nofun
  lengths := nofun
  named := fun digest length found => by simp at found
  total := rfl

theorem validateRecord_recorded {records : List ObjectRecord} {tally after : RecordTally}
    {record : ObjectRecord} (recorded : Recorded limits records tally)
    (validated : validateRecord limits tally record = .ok after) :
    Recorded limits (records ++ [record]) after := by
  unfold validateRecord at validated
  obtain ⟨_, _, validated⟩ := bind_ok validated
  obtain ⟨_, _, validated⟩ := bind_ok validated
  obtain ⟨_, bounded, validated⟩ := bind_ok validated
  obtain ⟨_, fresh, validated⟩ := bind_ok validated
  rw [refuse_eq_ok, Nat.not_lt] at bounded
  rw [refuse_eq_ok, recorded.keys, List.mem_reverse] at fresh
  have distinct : ((records ++ [record]).map ObjectRecord.key).Nodup := by
    rw [List.map_append, List.map_singleton, List.nodup_append]
    refine ⟨recorded.distinct, by simp, ?_⟩
    intro key member other last same
    rw [List.mem_singleton] at last
    subst same last
    exact fresh member
  have within : ∀ other ∈ records ++ [record], other.byteLength ≤ limits.maxBytes := by
    intro other member
    rcases List.mem_append.mp member with old | new
    · exact recorded.bounded other old
    · rw [List.mem_singleton.mp new]
      exact bounded
  unfold recordLength at validated
  cases known : tally.contentLengths.lookup record.sha256 with
  | some length =>
    rw [known] at validated
    obtain ⟨_, agrees, validated⟩ := bind_ok validated
    rw [refuse_eq_ok, not_not] at agrees
    cases validated
    refine ⟨by simp [recorded.keys, ObjectRecord.key], distinct, within, ?_, ?_, recorded.total⟩
    · intro other member
      rcases List.mem_append.mp member with old | new
      · exact recorded.lengths other old
      · rw [List.mem_singleton.mp new, known, agrees]
    · intro digest found named
      obtain ⟨other, member, same⟩ := recorded.named digest found named
      exact ⟨other, List.mem_append_left _ member, same⟩
  | none =>
    rw [known] at validated
    obtain ⟨sum, added, validated⟩ := bind_ok validated
    obtain ⟨_, _, validated⟩ := bind_ok validated
    cases validated
    obtain ⟨_, rfl⟩ := checkedAdd_eq_ok.mp added
    refine ⟨by simp [recorded.keys, ObjectRecord.key], distinct, within, ?_, ?_, ?_⟩
    · intro other member
      by_cases same : other.sha256 = record.sha256
      · rcases List.mem_append.mp member with old | new
        · have found := recorded.lengths other old
          rw [same, known] at found
          cases found
        · rw [List.mem_singleton.mp new, AList.lookup_insert]
      · rcases List.mem_append.mp member with old | new
        · rw [AList.lookup_insert_ne same]
          exact recorded.lengths other old
        · exact absurd (congrArg ObjectRecord.sha256 (List.mem_singleton.mp new)) same
    · intro digest found named
      by_cases same : digest = record.sha256
      · subst same
        rw [AList.lookup_insert] at named
        cases named
        exact ⟨record, by simp, rfl, rfl⟩
      · rw [AList.lookup_insert_ne same] at named
        obtain ⟨other, member, agrees⟩ := recorded.named digest found named
        exact ⟨other, List.mem_append_left _ member, agrees⟩
    · rw [totalLength_insert _ known, recorded.total, Nat.add_comm]

theorem validateManifestRecords_ok {manifest : Manifest} {tally : RecordTally}
    (validated : validateManifestRecords limits manifest = .ok tally) :
    Recorded limits manifest.objects tally := by
  unfold validateManifestRecords at validated
  obtain ⟨_, _, validated⟩ := bind_ok validated
  obtain ⟨_, _, validated⟩ := bind_ok validated
  obtain ⟨found, looped, validated⟩ := bind_ok validated
  obtain ⟨_, _, validated⟩ := bind_ok validated
  cases validated
  exact foldlM_ok_prefix (Recorded limits)
    (fun _ _ _ _ recorded step => validateRecord_recorded recorded step) recorded_nil looped

theorem boundedEntries_eq_ok {α : Type} {directory : AList fun _ : String => α} {limit : Nat}
    {entries : List (Sigma fun _ : String => α)} (listed : boundedEntries directory limit = .ok entries) :
    entries.Perm directory.entries ∧ directory.entries.length ≤ limit := by
  unfold boundedEntries at listed
  split at listed
  · cases listed
  · rename_i few
    cases listed
    exact ⟨List.perm_insertionSort _ _, by omega⟩

/-- What the content objects that were preflighted so far say. -/
structure Preflighted (limits : CacheLimits) (expected : AList fun _ : String => Nat)
    (entries : List (Sigma fun _ : String => List UInt8)) (found : Nat × List PreflightObject) :
    Prop where
  payload : found.1 = (entries.map (·.2.length)).sum
  objects : found.2 = entries.map fun entry => ⟨entry.2, entry.1, entry.2.length⟩
  expected : ∀ entry ∈ entries, expected.lookup entry.1 = some entry.2.length
  bounded : ∀ entry ∈ entries, entry.2.length ≤ limits.maxBytes

theorem preflightObject_preflighted {expected : AList fun _ : String => Nat}
    {entries : List (Sigma fun _ : String => List UInt8)}
    {found after : Nat × List PreflightObject} {entry : Sigma fun _ : String => List UInt8}
    (preflighted : Preflighted limits expected entries found)
    (step : preflightObject limits expected found entry = .ok after) :
    Preflighted limits expected (entries ++ [entry]) after := by
  unfold preflightObject at step
  obtain ⟨length, known, step⟩ := bind_ok step
  obtain ⟨_, bounded, step⟩ := bind_ok step
  obtain ⟨_, agrees, step⟩ := bind_ok step
  obtain ⟨sum, added, step⟩ := bind_ok step
  obtain ⟨_, _, step⟩ := bind_ok step
  cases step
  rw [require_eq_ok] at known
  rw [refuse_eq_ok, Nat.not_lt] at bounded
  rw [refuse_eq_ok, not_not] at agrees
  obtain ⟨_, rfl⟩ := checkedAdd_eq_ok.mp added
  subst agrees
  refine ⟨by simp [preflighted.payload], by simp [preflighted.objects], ?_, ?_⟩
  · intro other member
    rcases List.mem_append.mp member with old | new
    · exact preflighted.expected other old
    · rwa [List.mem_singleton.mp new]
  · intro other member
    rcases List.mem_append.mp member with old | new
    · exact preflighted.bounded other old
    · rwa [List.mem_singleton.mp new]

/-- A preflight that ended in a value has read all of the directory. -/
theorem preflightGeneration_ok {id : String} {directory : GenerationDirectory}
    {generation : PreflightGeneration}
    (preflight : preflightGeneration host limits id directory = .ok generation) :
    ∃ bytes tally entries, readManifest host limits id directory =
        .ok (bytes, generation.manifest) ∧
      validateManifestRecords limits generation.manifest = .ok tally ∧
      entries.Perm directory.objects.entries ∧
      entries.length = tally.contentLengths.entries.length ∧
      Preflighted limits tally.contentLengths entries
        (generation.payloadBytes, generation.objects) ∧
      generation.id = id ∧
      generation.usage = ⟨generation.payloadBytes + bytes.length,
        tally.contentLengths.entries.length, 1⟩ := by
  unfold preflightGeneration at preflight
  obtain ⟨⟨bytes, manifest⟩, read, preflight⟩ := bind_ok preflight
  obtain ⟨tally, validated, preflight⟩ := bind_ok preflight
  obtain ⟨limit, _, preflight⟩ := bind_ok preflight
  obtain ⟨entries, listed, preflight⟩ := bind_ok preflight
  obtain ⟨_, _, preflight⟩ := bind_ok preflight
  obtain ⟨_, counted, preflight⟩ := bind_ok preflight
  obtain ⟨⟨payload, objects⟩, looped, preflight⟩ := bind_ok preflight
  obtain ⟨_, _, preflight⟩ := bind_ok preflight
  obtain ⟨total, added, preflight⟩ := bind_ok preflight
  cases preflight
  obtain ⟨_, rfl⟩ := checkedAdd_eq_ok.mp added
  rw [refuse_eq_ok, not_not] at counted
  have loop : Preflighted limits tally.contentLengths entries (payload, objects) :=
    foldlM_ok_prefix (Preflighted limits tally.contentLengths)
      (fun _ _ _ _ preflighted step => preflightObject_preflighted preflighted step)
      ⟨rfl, rfl, nofun, nofun⟩ looped
  exact ⟨bytes, tally, entries, read, validated, (boundedEntries_eq_ok listed).1, counted, loop,
    rfl, rfl⟩

/-- The generation is what preflight and verification make of the directory. -/
def Verified (host : ClientCacheHost) (limits : CacheLimits) (directory : GenerationDirectory)
    (generation : VerifiedGeneration) : Prop :=
  ∃ preflight, preflightGeneration host limits generation.id directory = .ok preflight ∧
    preflight.verify host limits.maxBytes = .ok generation

theorem readManifest_ok {id : String} {directory : GenerationDirectory} {bytes : List UInt8}
    {manifest : Manifest} (read : readManifest host limits id directory = .ok (bytes, manifest)) :
    directory.manifest = some bytes ∧ sha256Hex host bytes = id ∧
      host.manifestJson.fromSlice bytes = some manifest := by
  unfold readManifest at read
  obtain ⟨found, stored, read⟩ := bind_ok read
  obtain ⟨_, _, read⟩ := bind_ok read
  obtain ⟨same, short, read⟩ := bind_ok read
  obtain ⟨_, hashed, read⟩ := bind_ok read
  obtain ⟨parsed, reads, read⟩ := bind_ok read
  obtain ⟨_, _, read⟩ := bind_ok read
  cases read
  unfold readBounded at short
  split at short
  · cases short
  · cases short
    rw [require_eq_ok] at stored reads
    rw [refuse_eq_ok, not_not] at hashed
    exact ⟨stored, hashed, reads⟩

theorem verify_ok {preflight : PreflightGeneration} {generation : VerifiedGeneration}
    {maximum : Nat} (verified : preflight.verify host maximum = .ok generation) :
    generation = ⟨preflight.id, preflight.manifest, preflight.usage, preflight.payloadBytes,
      preflight.objects.length⟩ ∧
    ∀ object ∈ preflight.objects, verifyFile host maximum object = .ok () := by
  unfold PreflightGeneration.verify at verified
  obtain ⟨_, looped, verified⟩ := bind_ok verified
  cases verified
  refine ⟨rfl, ?_⟩
  revert looped
  induction preflight.objects with
  | nil => exact fun _ => nofun
  | cons first rest ih =>
    intro looped
    change (verifyFile host maximum first >>= fun _ => rest.forM _) = _ at looped
    obtain ⟨_, step, looped⟩ := bind_ok looped
    intro object member
    rcases List.mem_cons.mp member with rfl | later
    · exact step
    · exact ih looped object later

section Verified

variable {directory : GenerationDirectory} {generation : VerifiedGeneration}

theorem Verified.counted (verified : Verified host limits directory generation) :
    directory.objects.entries.length = generation.physicalObjects := by
  obtain ⟨preflight, preflighted, checked⟩ := verified
  obtain ⟨rfl, _⟩ := verify_ok checked
  obtain ⟨_, _, entries, _, _, perm, _, loop, _⟩ := preflightGeneration_ok preflighted
  have objects : preflight.objects = _ := loop.objects
  rw [objects, List.length_map, perm.length_eq]

theorem Verified.distinct (verified : Verified host limits directory generation) :
    (generation.manifest.objects.map ObjectRecord.key).Nodup := by
  obtain ⟨preflight, preflighted, checked⟩ := verified
  obtain ⟨rfl, _⟩ := verify_ok checked
  obtain ⟨_, _, _, _, validated, _⟩ := preflightGeneration_ok preflighted
  exact (validateManifestRecords_ok validated).distinct

/-- The content object of each record is there, and is what the record says. -/
theorem Verified.stored (verified : Verified host limits directory generation)
    {record : ObjectRecord} (member : record ∈ generation.manifest.objects) :
    record.byteLength ≤ limits.maxBytes ∧ ∃ content,
      directory.objects.lookup record.sha256 = some content ∧
        content.length = record.byteLength ∧ sha256Hex host content = record.sha256 := by
  obtain ⟨preflight, preflighted, checked⟩ := verified
  obtain ⟨rfl, files⟩ := verify_ok checked
  obtain ⟨_, tally, entries, _, validated, perm, counted, loop, _⟩ :=
    preflightGeneration_ok preflighted
  have recorded := validateManifestRecords_ok validated
  refine ⟨recorded.bounded record member, ?_⟩
  -- The object names are among the recorded digests, and as many.
  have names : (entries.map Sigma.fst).Perm tally.contentLengths.keys := by
    have nodup : (entries.map Sigma.fst).Nodup :=
      (perm.map Sigma.fst).nodup_iff.mpr directory.objects.keys_nodup
    refine (nodup.subperm ?_).perm_of_length_le ?_
    · intro name named
      obtain ⟨entry, listed, rfl⟩ := List.mem_map.mp named
      have known := loop.expected entry listed
      exact AList.mem_keys.mp (AList.lookup_isSome.mp (by rw [known]; rfl))
    · rw [List.length_map, counted]
      simp [AList.keys, List.keys]
  have digest : record.sha256 ∈ entries.map Sigma.fst := by
    rw [names.mem_iff, ← AList.mem_keys, ← AList.lookup_isSome, recorded.lengths record member]
    rfl
  obtain ⟨⟨name, content⟩, listed, rfl⟩ := List.mem_map.mp digest
  have found : directory.objects.lookup record.sha256 = some content :=
    AList.mem_lookup_iff.mpr (perm.mem_iff.mp listed)
  have length := loop.expected _ listed
  rw [recorded.lengths record member] at length
  have object : (⟨content, record.sha256, content.length⟩ : PreflightObject) ∈
      preflight.objects := by
    have objects : preflight.objects = _ := loop.objects
    rw [objects]
    exact List.mem_map.mpr ⟨_, listed, rfl⟩
  have hashed := files _ object
  unfold verifyFile at hashed
  obtain ⟨_, _, hashed⟩ := bind_ok hashed
  obtain ⟨_, _, hashed⟩ := bind_ok hashed
  obtain ⟨_, _, hashed⟩ := bind_ok hashed
  rw [refuse_eq_ok, not_not] at hashed
  exact ⟨content, found, (Option.some.inj length).symm, hashed⟩

end Verified

/-- The usage of the pointer file. -/
def pointerUsage (current : Option CurrentPointer) : Usage :=
  (current.map (·.usage)).getD Usage.none

structure Inventoried (host : ClientCacheHost) (limits : CacheLimits) (root : CacheRoot)
    (inventory : Inventory) : Prop where
  pointer : readOptionalCurrent host root limits.maxBytes = .ok inventory.current
  verified : ∀ generation ∈ inventory.generations, ∃ directory,
    root.generations.lookup generation.id = some directory ∧
      Verified host limits directory generation
  names : (inventory.generations.map (·.id)).Perm root.generations.keys
  usage : inventory.usage = pointerUsage inventory.current + usageOf inventory.generations

/-- What an inventory says besides when it has just been read. -/
structure Complete (limits : CacheLimits) (inventory : Inventory) : Prop where
  within : limits.contains inventory.usage = true
  last : ∀ pointer ∈ inventory.current, ∃ current ∈ inventory.generations,
    current.id = pointer.generation ∧ ∀ generation ∈ inventory.generations,
      generation.manifest.sequence ≤ current.manifest.sequence
  orphaned : inventory.current = none → inventory.generations = []

/-- What the loop over the directories has found so far. -/
structure Listed (host : ClientCacheHost) (limits : CacheLimits) (start : Usage)
    (entries : List (Sigma fun _ : String => GenerationDirectory))
    (found : Usage × List PreflightGeneration) : Prop where
  names : found.2.map (·.id) = entries.map Sigma.fst
  preflight : ∀ generation ∈ found.2, ∃ entry ∈ entries, entry.1 = generation.id ∧
    preflightGeneration host limits entry.1 entry.2 = .ok generation
  usage : found.1 = start + (found.2.map (·.usage)).sum
  within : limits.contains found.1 = true

theorem readEntry_listed {start : Usage}
    {entries : List (Sigma fun _ : String => GenerationDirectory)}
    {found after : Usage × List PreflightGeneration}
    {entry : Sigma fun _ : String => GenerationDirectory}
    (listed : Listed host limits start entries found)
    (step : readEntry host limits found entry = .ok after) :
    Listed host limits start (entries ++ [entry]) after := by
  unfold readEntry at step
  obtain ⟨_, _, step⟩ := bind_ok step
  obtain ⟨generation, preflight, step⟩ := bind_ok step
  obtain ⟨usage, added, step⟩ := bind_ok step
  obtain ⟨_, within, step⟩ := bind_ok step
  cases step
  rw [refuse_eq_ok, Bool.not_eq_false] at within
  have sum := usageAdd_eq_ok added
  obtain ⟨_, _, _, _, _, _, _, _, named, _⟩ := preflightGeneration_ok preflight
  refine ⟨by simp [listed.names, named], ?_, ?_, within⟩
  · intro other member
    rcases List.mem_append.mp member with old | new
    · obtain ⟨source, among, same⟩ := listed.preflight other old
      exact ⟨source, List.mem_append_left _ among, same⟩
    · rw [List.mem_singleton.mp new]
      exact ⟨entry, by simp, named.symm, preflight⟩
  · change usage = _
    rw [sum, listed.usage, add_assoc]
    simp

theorem validateCurrentRelation_ok {current : Option CurrentPointer}
    {generations : List PreflightGeneration}
    (related : validateCurrentRelation current generations = .ok ()) :
    (∀ pointer ∈ current, ∃ named ∈ generations, named.id = pointer.generation ∧
      ∀ generation ∈ generations,
        generation.manifest.sequence ≤ named.manifest.sequence) ∧
    (current = none → generations = []) := by
  unfold validateCurrentRelation at related
  cases current with
  | none =>
    rw [refuse_eq_ok, Bool.not_eq_false, List.isEmpty_iff] at related
    exact ⟨nofun, fun _ => related⟩
  | some pointer =>
    obtain ⟨named, found, related⟩ := bind_ok related
    rw [require_eq_ok] at found
    rw [refuse_eq_ok] at related
    push Not at related
    refine ⟨?_, nofun⟩
    intro other same
    cases same
    exact ⟨named, List.mem_of_find?_eq_some found, by simpa using List.find?_some found, related⟩

theorem readInventory_ok {allowWriter : Bool}
    (read : readInventory host limits root allowWriter = .ok inventory) :
    Inventoried host limits root inventory ∧ Complete limits inventory := by
  unfold readInventory at read
  obtain ⟨_, _, read⟩ := bind_ok read
  obtain ⟨current, pointer, read⟩ := bind_ok read
  obtain ⟨limit, _, read⟩ := bind_ok read
  obtain ⟨entries, listing, read⟩ := bind_ok read
  obtain ⟨_, _, read⟩ := bind_ok read
  obtain ⟨_, opening, read⟩ := bind_ok read
  obtain ⟨⟨usage, preflight⟩, looped, read⟩ := bind_ok read
  obtain ⟨_, related, read⟩ := bind_ok read
  obtain ⟨generations, verifying, read⟩ := bind_ok read
  cases read
  rw [refuse_eq_ok, Bool.not_eq_false] at opening
  have listed : Listed host limits (pointerUsage current) entries (usage, preflight) := by
    refine foldlM_ok_prefix (Listed host limits (pointerUsage current))
      (fun _ _ _ _ held step => readEntry_listed held step) ⟨rfl, by simp, ?_, opening⟩ looped
    exact (add_zero _).symm
  have perm := (boundedEntries_eq_ok listing).1
  have sorting := List.perm_insertionSort PublishedBefore preflight
  obtain ⟨same, origins⟩ := mapM_ok_spec
    (g := fun generation : VerifiedGeneration => (generation.id, generation.manifest, generation.usage))
    (h := fun generation : PreflightGeneration =>
      (generation.id, generation.manifest, generation.usage))
    (fun item value verified => by rw [(verify_ok verified).1]) verifying
  have ids : generations.map (·.id) =
      (preflight.insertionSort PublishedBefore).map (·.id) := by
    have first := congrArg (List.map Prod.fst) same
    rwa [List.map_map, List.map_map] at first
  have uses : generations.map (·.usage) =
      (preflight.insertionSort PublishedBefore).map (·.usage) := by
    have last := congrArg (List.map fun part => part.2.2) same
    rwa [List.map_map, List.map_map] at last
  have sequences : generations.map (fun generation => (generation.id, generation.manifest)) =
      (preflight.insertionSort PublishedBefore).map
        (fun generation => (generation.id, generation.manifest)) := by
    have middle := congrArg (List.map fun part => (part.1, part.2.1)) same
    rwa [List.map_map, List.map_map] at middle
  refine ⟨⟨pointer, ?_, ?_, ?_⟩, ⟨listed.within, ?_, ?_⟩⟩
  · intro generation member
    obtain ⟨item, among, verified⟩ := origins generation member
    obtain ⟨entry, source, name, preflighted⟩ :=
      listed.preflight item (sorting.mem_iff.mp among)
    have found : root.generations.lookup entry.1 = some entry.2 :=
      AList.mem_lookup_iff.mpr (perm.mem_iff.mp source)
    have renamed : generation.id = entry.1 := by rw [(verify_ok verified).1, name]
    rw [renamed]
    refine ⟨entry.2, found, item, ?_, verified⟩
    rw [renamed]
    exact preflighted
  · rw [ids]
    refine (sorting.map _).trans ?_
    change (preflight.map (·.id)).Perm _
    have names : preflight.map (·.id) = entries.map Sigma.fst := listed.names
    rw [names]
    exact perm.map Sigma.fst
  · have total : usage = _ := listed.usage
    rw [total]
    change _ = pointerUsage current + usageOf generations
    unfold usageOf
    rw [uses]
    exact congrArg (pointerUsage current + ·) ((sorting.map (·.usage)).sum_eq).symm
  · intro pointed known
    obtain ⟨named, among, name, last⟩ := (validateCurrentRelation_ok related).1 pointed known
    have image : (named.id, named.manifest) ∈ generations.map
        (fun generation => (generation.id, generation.manifest)) := by
      rw [sequences]
      exact List.mem_map.mpr ⟨named, among, rfl⟩
    obtain ⟨current, member, equal⟩ := List.mem_map.mp image
    simp only [Prod.mk.injEq] at equal
    refine ⟨current, member, equal.1.trans name, ?_⟩
    intro generation other
    have back : (generation.id, generation.manifest) ∈
        (preflight.insertionSort PublishedBefore).map
          (fun generation => (generation.id, generation.manifest)) := by
      rw [← sequences]
      exact List.mem_map.mpr ⟨generation, other, rfl⟩
    obtain ⟨source, origin, agrees⟩ := List.mem_map.mp back
    simp only [Prod.mk.injEq] at agrees
    rw [equal.2, ← agrees.2]
    exact last source origin
  · intro absent
    have empty := (validateCurrentRelation_ok related).2 absent
    rw [empty] at verifying
    cases verifying
    rfl

end Decodex.Source.Gpui.ClientCache
