import Decodex.Source.Gpui.ClientCachePlans

/-!
# Client cache: reading within the limits

A root whose usage fits the limits is read without running into a bound, whatever else may be
wrong with it.
-/
namespace Decodex.Source.Gpui.ClientCache

open Decodex.Library Decodex.Source.Core

variable {host : ClientCacheHost} {limits : CacheLimits} {root : CacheRoot}
  {inventory : Inventory}

/-- The outcome is no refusal. -/
def Unrefused {α : Type} (outcome : Except CacheError α) : Prop :=
  ∀ error, outcome = .error error → isRefusal error = false

theorem unrefused_ok {α : Type} {value : α} : Unrefused (.ok value) :=
  fun _ failed => by cases failed

theorem unrefused_of_ok {α : Type} {value : α} {outcome : Except CacheError α}
    (done : outcome = .ok value) : Unrefused outcome :=
  done ▸ unrefused_ok

theorem unrefused_bind {α β : Type} {first : Except CacheError α}
    {next : α → Except CacheError β} (begins : Unrefused first)
    (continues : ∀ value, first = .ok value → Unrefused (next value)) :
    Unrefused (first >>= next) := by
  cases result : first with
  | error reason =>
    intro error failed
    cases failed
    exact begins reason result
  | ok value => exact continues value result

theorem unrefused_refuse {error : CacheError} {condition : Prop} [Decidable condition]
    (allowed : condition → isRefusal error = false) : Unrefused (refuse error condition) := by
  intro reason failed
  unfold refuse at failed
  split at failed
  · rename_i holds
    cases failed
    exact allowed holds
  · cases failed

theorem unrefused_require {α : Type} {error : CacheError} {found : Option α}
    (plain : isRefusal error = false) : Unrefused (require error found) := by
  intro reason failed
  cases found with
  | none =>
    cases failed
    exact plain
  | some value => cases failed

theorem unrefused_checkedAdd {left right : Nat} (fits : left + right < 2 ^ 64) :
    Unrefused (checkedAdd left right) :=
  unrefused_of_ok (checkedAdd_eq_ok.mpr ⟨fits, rfl⟩)

theorem unrefused_bounded {α : Type} {directory : AList fun _ : String => α} {limit : Nat}
    (few : directory.entries.length ≤ limit) : Unrefused (boundedEntries directory limit) := by
  unfold boundedEntries
  rw [if_neg (by omega)]
  exact unrefused_ok

theorem unrefused_validateDigest {digest : String} : Unrefused (validateDigest digest) :=
  unrefused_refuse fun _ => rfl

theorem unrefused_readBounded {bytes : List UInt8} {limit : Nat} :
    Unrefused (readBounded bytes limit) := by
  intro error failed
  unfold readBounded at failed
  split at failed
  · cases failed
    rfl
  · cases failed

theorem unrefused_mapM {α β : Type} {act : α → Except CacheError β} {items : List α}
    (each : ∀ item ∈ items, Unrefused (act item)) : Unrefused (items.mapM act) := by
  induction items with
  | nil => exact unrefused_ok
  | cons first rest ih =>
    rw [List.mapM_cons]
    apply unrefused_bind (each first (by simp))
    intro _ _
    apply unrefused_bind (ih fun item member => each item (List.mem_cons_of_mem _ member))
    intro _ _
    exact unrefused_ok

theorem unrefused_forM {α : Type} {act : α → Except CacheError Unit} {items : List α}
    (each : ∀ item ∈ items, Unrefused (act item)) : Unrefused (items.forM act) := by
  induction items with
  | nil => exact unrefused_ok
  | cons first rest ih =>
    apply unrefused_bind (each first (by simp))
    intro _ _
    exact ih fun item member => each item (List.mem_cons_of_mem _ member)

section Parts

variable {β : Type} {part : AList fun _ : String => β} {unique : AList fun _ : String => Nat}
  {measure : β → Nat}

theorem entries_subperm
    (within : ∀ digest value, part.lookup digest = some value →
      unique.lookup digest = some (measure value)) :
    (part.entries.map fun entry => (⟨entry.1, measure entry.2⟩ : Sigma fun _ : String => Nat)).Subperm
      unique.entries := by
  apply List.Nodup.subperm
  · apply List.Nodup.of_map Sigma.fst
    rw [List.map_map]
    exact part.keys_nodup
  · intro entry member
    obtain ⟨source, listed, rfl⟩ := List.mem_map.mp member
    exact AList.mem_lookup_iff.mp (within _ _ (AList.mem_lookup_iff.mpr listed))

theorem part_length_le
    (within : ∀ digest value, part.lookup digest = some value →
      unique.lookup digest = some (measure value)) :
    part.entries.length ≤ unique.entries.length := by
  have shorter := (entries_subperm within).length_le
  rwa [List.length_map] at shorter

theorem part_sum_le
    (within : ∀ digest value, part.lookup digest = some value →
      unique.lookup digest = some (measure value)) :
    (part.entries.map fun entry => measure entry.2).sum ≤ totalLength unique := by
  obtain ⟨chosen, perm, sub⟩ := entries_subperm within
  have same := (perm.map (·.2)).sum_eq
  rw [List.map_map] at same
  have less : (chosen.map (·.2)).sum ≤ totalLength unique :=
    (sub.map _).sum_le_sum fun _ _ => Nat.zero_le _
  rw [same] at less
  exact less

end Parts

/-- The records fit a map of content objects that is itself within the limits. -/
structure FitsObjects (limits : CacheLimits) (unique : AList fun _ : String => Nat)
    (records : List ObjectRecord) : Prop where
  count : records.length ≤ maxObjects
  few : unique.entries.length ≤ limits.maxObjects
  total : totalLength unique ≤ limits.maxBytes
  known : ∀ record ∈ records, unique.lookup record.sha256 = some record.byteLength ∧
    record.byteLength ≤ limits.maxBytes

theorem validateRecords_unrefused {unique : AList fun _ : String => Nat}
    {records : List ObjectRecord} (done : List ObjectRecord) {tally : RecordTally}
    (fits : FitsObjects limits unique (done ++ records)) (recorded : Recorded limits done tally) :
    Unrefused (records.foldlM (validateRecord limits) tally) := by
  induction records generalizing done tally with
  | nil => exact unrefused_ok
  | cons record rest ih =>
    rw [List.foldlM_cons]
    have known := fits.known record (by simp)
    apply unrefused_bind
    · unfold validateRecord
      apply unrefused_bind (unrefused_refuse fun _ => rfl)
      intro _ _
      apply unrefused_bind unrefused_validateDigest
      intro _ _
      apply unrefused_bind (unrefused_refuse fun long => by omega)
      intro _ _
      apply unrefused_bind (unrefused_refuse fun _ => rfl)
      intro _ _
      unfold recordLength
      cases found : tally.contentLengths.lookup record.sha256 with
      | some length =>
        apply unrefused_bind (unrefused_refuse fun _ => rfl)
        intro _ _
        exact unrefused_ok
      | none =>
        -- With this record the recorded digests are still among the unique ones.
        have more : tally.recordedBytes + record.byteLength ≤ limits.maxBytes := by
          have part := @part_sum_le Nat
            (tally.contentLengths.insert record.sha256 record.byteLength) unique id ?_
          · have total := totalLength_insert record.byteLength found
            unfold totalLength at total
            have within := fits.total
            rw [recorded.total]
            unfold totalLength at within part ⊢
            simp only [id] at part
            omega
          · intro digest length listed
            by_cases same : digest = record.sha256
            · subst same
              rw [AList.lookup_insert] at listed
              cases listed
              exact known.1
            · rw [AList.lookup_insert_ne same] at listed
              obtain ⟨other, member, rfl, rfl⟩ := recorded.named digest length listed
              exact (fits.known other (List.mem_append_left _ member)).1
        have small := limits_small limits
        apply unrefused_bind (unrefused_checkedAdd (by omega))
        intro sum added
        obtain ⟨_, rfl⟩ := checkedAdd_eq_ok.mp added
        apply unrefused_bind (unrefused_refuse fun long => by omega)
        intro _ _
        exact unrefused_ok
    · intro after step
      refine ih (done ++ [record]) ?_ (validateRecord_recorded recorded step)
      rwa [List.append_assoc]

theorem recorded_within {unique : AList fun _ : String => Nat} {records : List ObjectRecord}
    {tally : RecordTally} (fits : FitsObjects limits unique records)
    (recorded : Recorded limits records tally) (digest : String) (length : Nat)
    (listed : tally.contentLengths.lookup digest = some length) :
    unique.lookup digest = some (id length) := by
  obtain ⟨record, member, rfl, rfl⟩ := recorded.named digest length listed
  exact (fits.known record member).1

theorem validateManifestRecords_unrefused {unique : AList fun _ : String => Nat}
    {manifest : Manifest} (fits : FitsObjects limits unique manifest.objects) :
    Unrefused (validateManifestRecords limits manifest) := by
  unfold validateManifestRecords
  apply unrefused_bind (unrefused_refuse fun _ => rfl)
  intro _ _
  have count := fits.count
  apply unrefused_bind (unrefused_refuse fun many => by omega)
  intro _ _
  apply unrefused_bind (validateRecords_unrefused [] fits recorded_nil)
  intro tally looped
  have recorded : Recorded limits manifest.objects tally :=
    foldlM_ok_prefix (Recorded limits)
      (fun _ _ _ _ held step => validateRecord_recorded held step) recorded_nil looped
  have fewer := part_length_le (recorded_within fits recorded)
  have few := fits.few
  apply unrefused_bind (unrefused_refuse fun many => by omega)
  intro _ _
  exact unrefused_ok

theorem preflightObjects_unrefused {expected : AList fun _ : String => Nat}
    {entries : List (Sigma fun _ : String => List UInt8)} {found : Nat × List PreflightObject}
    (fits : found.1 + (entries.map (·.2.length)).sum ≤ limits.maxBytes) :
    Unrefused (entries.foldlM (preflightObject limits expected) found) := by
  induction entries generalizing found with
  | nil => exact unrefused_ok
  | cons entry rest ih =>
    rw [List.map_cons, List.sum_cons] at fits
    have small := limits_small limits
    rw [List.foldlM_cons]
    apply unrefused_bind
    · unfold preflightObject
      apply unrefused_bind (unrefused_require rfl)
      intro _ _
      apply unrefused_bind (unrefused_refuse fun long => by omega)
      intro _ _
      apply unrefused_bind (unrefused_refuse fun _ => rfl)
      intro _ _
      apply unrefused_bind (unrefused_checkedAdd (by omega))
      intro sum added
      obtain ⟨_, rfl⟩ := checkedAdd_eq_ok.mp added
      apply unrefused_bind (unrefused_refuse fun long => by omega)
      intro _ _
      exact unrefused_ok
    · intro after step
      apply ih
      unfold preflightObject at step
      obtain ⟨_, _, step⟩ := bind_ok step
      obtain ⟨_, _, step⟩ := bind_ok step
      obtain ⟨_, _, step⟩ := bind_ok step
      obtain ⟨sum, added, step⟩ := bind_ok step
      obtain ⟨_, _, step⟩ := bind_ok step
      cases step
      obtain ⟨_, rfl⟩ := checkedAdd_eq_ok.mp added
      change found.1 + entry.2.length + _ ≤ _
      omega

/-- What the directory of a generation uses, if it can be read. -/
def entryUsage (host : ClientCacheHost) (limits : CacheLimits)
    (entry : Sigma fun _ : String => GenerationDirectory) : Usage :=
  match preflightGeneration host limits entry.1 entry.2 with
  | .ok generation => generation.usage
  | .error _ => Usage.none

/-- The manifest of a directory reads back, and its content objects are among the recorded. -/
structure Written (host : ClientCacheHost) (limits : CacheLimits)
    (unique : AList fun _ : String => Nat) (manifest : Manifest) (bytes : List UInt8)
    (directory : GenerationDirectory) : Prop where
  stored : directory.manifest = some bytes
  reads : host.manifestJson.fromSlice bytes = some manifest
  records : FitsObjects limits unique manifest.objects
  objects : ∀ digest content, directory.objects.lookup digest = some content →
    unique.lookup digest = some content.length

theorem Written.unrefused {unique : AList fun _ : String => Nat} {manifest : Manifest}
    {bytes : List UInt8} {directory : GenerationDirectory} {id : String}
    (written : Written host limits unique manifest bytes directory)
    (fits : totalLength unique + bytes.length ≤ limits.maxBytes) :
    Unrefused (preflightGeneration host limits id directory) := by
  have small := limits_small limits
  have payload := part_sum_le written.objects
  have few := part_length_le written.objects
  have most := written.records.few
  unfold preflightGeneration
  apply unrefused_bind
  · unfold readManifest
    rw [written.stored]
    change Unrefused (refuse .boundsExceeded (bytes.length > limits.maxBytes) >>= _)
    apply unrefused_bind (unrefused_refuse fun long => by omega)
    intro _ _
    apply unrefused_bind unrefused_readBounded
    intro _ _
    apply unrefused_bind (unrefused_refuse fun _ => rfl)
    intro _ _
    apply unrefused_bind (unrefused_require rfl)
    intro _ _
    apply unrefused_bind (unrefused_refuse fun _ => rfl)
    intro _ _
    exact unrefused_ok
  rintro ⟨found, parsed⟩ read
  obtain ⟨stored, _, reads⟩ := readManifest_ok read
  rw [written.stored] at stored
  cases stored
  rw [written.reads] at reads
  cases reads
  apply unrefused_bind (validateManifestRecords_unrefused written.records)
  intro tally validated
  apply unrefused_bind (unrefused_checkedAdd (by omega))
  intro limit added
  obtain ⟨_, rfl⟩ := checkedAdd_eq_ok.mp added
  apply unrefused_bind (unrefused_bounded (by omega))
  intro entries listed
  have perm := (boundedEntries_eq_ok listed).1
  have same := perm.length_eq
  have sum := (perm.map (·.2.length)).sum_eq
  apply unrefused_bind (unrefused_refuse fun many => by omega)
  intro _ _
  apply unrefused_bind (unrefused_refuse fun _ => rfl)
  intro _ _
  apply unrefused_bind (preflightObjects_unrefused (by
    change 0 + _ ≤ _
    omega))
  rintro ⟨total, objects⟩ looped
  have loop : Preflighted limits tally.contentLengths entries (total, objects) :=
    foldlM_ok_prefix (Preflighted limits tally.contentLengths)
      (fun _ _ _ _ preflighted step => preflightObject_preflighted preflighted step)
      ⟨rfl, rfl, nofun, nofun⟩ looped
  have counted : total = _ := loop.payload
  apply unrefused_bind (unrefused_refuse fun _ => rfl)
  intro _ _
  apply unrefused_bind (unrefused_checkedAdd (by omega))
  intro _ _
  exact unrefused_ok

theorem Written.usage_le {unique : AList fun _ : String => Nat} {manifest : Manifest}
    {bytes : List UInt8} {directory : GenerationDirectory} {id : String}
    (written : Written host limits unique manifest bytes directory) :
    entryUsage host limits ⟨id, directory⟩ ≤
      ⟨totalLength unique + bytes.length, unique.entries.length, 1⟩ := by
  unfold entryUsage
  cases preflight : preflightGeneration host limits id directory with
  | error error => exact ⟨Nat.zero_le _, Nat.zero_le _, Nat.zero_le _⟩
  | ok generation =>
    obtain ⟨found, tally, entries, read, validated, perm, _, loop, _, usage⟩ :=
      preflightGeneration_ok preflight
    obtain ⟨stored, _, reads⟩ := readManifest_ok read
    rw [written.stored] at stored
    cases stored
    rw [written.reads] at reads
    cases reads
    have recorded := validateManifestRecords_ok validated
    have fewer := part_length_le (recorded_within written.records recorded)
    have sum := (perm.map (·.2.length)).sum_eq
    have payload := part_sum_le written.objects
    have counted : generation.payloadBytes = _ := loop.payload
    dsimp only
    rw [usage, ClientCache.usage_le]
    dsimp only
    omega

theorem readEntries_unrefused {entries : List (Sigma fun _ : String => GenerationDirectory)}
    {found : Usage × List PreflightGeneration}
    (each : ∀ entry ∈ entries, Unrefused (preflightGeneration host limits entry.1 entry.2))
    (fits : limits.contains (found.1 + (entries.map (entryUsage host limits)).sum) = true) :
    Unrefused (entries.foldlM (readEntry host limits) found) := by
  induction entries generalizing found with
  | nil => exact unrefused_ok
  | cons entry rest ih =>
    rw [List.map_cons, List.sum_cons, ← add_assoc] at fits
    have first : limits.contains (found.1 + entryUsage host limits entry) = true :=
      contains_mono fits (usage_le_add _ _)
    rw [List.foldlM_cons]
    apply unrefused_bind
    · unfold readEntry
      apply unrefused_bind unrefused_validateDigest
      intro _ _
      apply unrefused_bind (each entry (by simp))
      intro generation preflight
      have usage : entryUsage host limits entry = generation.usage := by
        unfold entryUsage
        rw [preflight]
      rw [usage] at first
      apply unrefused_bind (unrefused_of_ok (usageAdd_of_contains first))
      intro sum added
      rw [usageAdd_eq_ok added]
      apply unrefused_bind (unrefused_refuse fun full => by rw [first] at full; cases full)
      intro _ _
      exact unrefused_ok
    · intro after step
      apply ih fun later member => each later (List.mem_cons_of_mem _ member)
      unfold readEntry at step
      obtain ⟨_, _, step⟩ := bind_ok step
      obtain ⟨generation, preflight, step⟩ := bind_ok step
      obtain ⟨sum, added, step⟩ := bind_ok step
      obtain ⟨_, _, step⟩ := bind_ok step
      cases step
      have usage : entryUsage host limits entry = generation.usage := by
        unfold entryUsage
        rw [preflight]
      dsimp only
      rwa [usageAdd_eq_ok added, ← usage]

theorem verify_unrefused {id : String} {directory : GenerationDirectory}
    {generation : PreflightGeneration}
    (preflight : preflightGeneration host limits id directory = .ok generation) :
    Unrefused (generation.verify host limits.maxBytes) := by
  obtain ⟨_, _, entries, _, _, _, _, loop, _⟩ := preflightGeneration_ok preflight
  have objects : generation.objects = _ := loop.objects
  unfold PreflightGeneration.verify
  apply unrefused_bind
  · apply unrefused_forM
    intro object member
    rw [objects] at member
    obtain ⟨entry, listed, rfl⟩ := List.mem_map.mp member
    have bounded := loop.bounded entry listed
    unfold verifyFile
    apply unrefused_bind (unrefused_refuse fun long => absurd long (Nat.not_lt.mpr bounded))
    intro _ _
    apply unrefused_bind (unrefused_refuse fun long => absurd long (Nat.not_lt.mpr bounded))
    intro _ _
    apply unrefused_bind (unrefused_refuse fun _ => rfl)
    intro _ _
    exact unrefused_refuse fun _ => rfl
  · intro _ _
    exact unrefused_ok

theorem validateCurrentRelation_unrefused {current : Option CurrentPointer}
    {generations : List PreflightGeneration} :
    Unrefused (validateCurrentRelation current generations) := by
  unfold validateCurrentRelation
  cases current with
  | none => exact unrefused_refuse fun _ => rfl
  | some pointer =>
    apply unrefused_bind (unrefused_require rfl)
    intro _ _
    exact unrefused_refuse fun _ => rfl

theorem readPointer_unrefused {maximum : Nat} {bytes : List UInt8}
    (short : bytes.length ≤ maximum) : Unrefused (readPointer host maximum bytes) := by
  unfold readPointer
  apply unrefused_bind (unrefused_refuse fun long => by omega)
  intro _ _
  apply unrefused_bind unrefused_readBounded
  intro _ _
  apply unrefused_bind (unrefused_require rfl)
  intro _ _
  apply unrefused_bind (unrefused_refuse fun _ => rfl)
  intro _ _
  apply unrefused_bind unrefused_validateDigest
  intro _ _
  exact unrefused_ok

theorem readPointer_usage {maximum : Nat} {bytes : List UInt8} {pointer : CurrentPointer}
    (read : readPointer host maximum bytes = .ok pointer) :
    pointer.usage = ⟨bytes.length, 0, 0⟩ := by
  unfold readPointer at read
  obtain ⟨_, _, read⟩ := bind_ok read
  obtain ⟨same, short, read⟩ := bind_ok read
  obtain ⟨_, _, read⟩ := bind_ok read
  obtain ⟨_, _, read⟩ := bind_ok read
  obtain ⟨_, _, read⟩ := bind_ok read
  cases read
  unfold readBounded at short
  split at short
  · cases short
  · cases short
    rfl

/-- The usage of the pointer and of the generation directories. -/
def rootUsage (host : ClientCacheHost) (limits : CacheLimits) (root : CacheRoot) : Usage :=
  ⟨(root.current.map List.length).getD 0, 0, 0⟩ +
    (root.generations.entries.map (entryUsage host limits)).sum

theorem readInventory_unrefused {allowWriter : Bool}
    (few : root.generations.entries.length ≤ limits.maxGenerations)
    (each : ∀ entry ∈ root.generations.entries,
      Unrefused (preflightGeneration host limits entry.1 entry.2))
    (fits : limits.contains (rootUsage host limits root) = true) :
    Unrefused (readInventory host limits root allowWriter) := by
  have small := limits_small limits
  have pointerFits : limits.contains ⟨(root.current.map List.length).getD 0, 0, 0⟩ = true :=
    contains_mono fits (usage_le_add _ _)
  unfold readInventory
  apply unrefused_bind (unrefused_refuse fun _ => rfl)
  intro _ _
  apply unrefused_bind
  · unfold readOptionalCurrent
    cases stored : root.current with
    | none => exact unrefused_ok
    | some bytes =>
      rw [stored] at pointerFits
      have short := (contains_iff.mp pointerFits).1
      intro error failed
      cases pointer : readPointer host limits.maxBytes bytes with
      | error reason =>
        simp only [pointer, Except.map] at failed
        cases failed
        exact readPointer_unrefused short _ pointer
      | ok value =>
        simp only [pointer, Except.map] at failed
        cases failed
  intro current read
  have usage : pointerUsage current = ⟨(root.current.map List.length).getD 0, 0, 0⟩ := by
    unfold readOptionalCurrent at read
    cases stored : root.current with
    | none =>
      rw [stored] at read
      cases read
      rfl
    | some bytes =>
      simp only [stored] at read
      cases pointer : readPointer host limits.maxBytes bytes with
      | error reason =>
        simp only [pointer, Except.map] at read
        cases read
      | ok value =>
        simp only [pointer, Except.map] at read
        cases read
        exact readPointer_usage pointer
  apply unrefused_bind (unrefused_checkedAdd (by omega))
  intro limit added
  obtain ⟨_, rfl⟩ := checkedAdd_eq_ok.mp added
  apply unrefused_bind (unrefused_bounded (by omega))
  intro entries listing
  have perm := (boundedEntries_eq_ok listing).1
  have same := perm.length_eq
  apply unrefused_bind (unrefused_refuse fun many => by omega)
  intro _ _
  apply unrefused_bind
  · apply unrefused_refuse
    change limits.contains (pointerUsage current) = false → _
    rw [usage, pointerFits]
    exact nofun
  intro _ opening
  have total : (entries.map (entryUsage host limits)).sum =
      (root.generations.entries.map (entryUsage host limits)).sum := (perm.map _).sum_eq
  apply unrefused_bind
  · apply readEntries_unrefused
    · intro entry member
      exact each entry (perm.mem_iff.mp member)
    · change limits.contains (pointerUsage current + _) = true
      rw [usage, total]
      exact fits
  rintro ⟨sum, preflight⟩ looped
  have listed : Listed host limits (pointerUsage current) entries (sum, preflight) := by
    refine foldlM_ok_prefix (Listed host limits (pointerUsage current))
      (fun _ _ _ _ held step => readEntry_listed held step) ⟨rfl, by simp, ?_, ?_⟩ looped
    · exact (add_zero _).symm
    · change limits.contains (pointerUsage current) = true
      rwa [usage]
  apply unrefused_bind validateCurrentRelation_unrefused
  intro _ _
  apply unrefused_bind
  · apply unrefused_mapM
    intro generation member
    rw [List.mem_insertionSort] at member
    obtain ⟨entry, _, _, preflighted⟩ := listed.preflight generation member
    exact verify_unrefused preflighted
  · intro _ _
    exact unrefused_ok

theorem Verified.entryUsage {directory : GenerationDirectory} {generation : VerifiedGeneration}
    (verified : Verified host limits directory generation) :
    ClientCache.entryUsage host limits ⟨generation.id, directory⟩ = generation.usage := by
  obtain ⟨preflight, preflighted, checked⟩ := verified
  unfold ClientCache.entryUsage
  rw [preflighted]
  obtain ⟨rfl, _⟩ := verify_ok checked
  rfl

/-- The usage of a name, in terms of the directory it has. -/
def namedUsage (host : ClientCacheHost) (limits : CacheLimits) (root : CacheRoot) (id : String) :
    Usage :=
  match root.generations.lookup id with
  | some directory => entryUsage host limits ⟨id, directory⟩
  | none => Usage.none

theorem Inventoried.entriesUsage (inventoried : Inventoried host limits root inventory) :
    (root.generations.entries.map (entryUsage host limits)).sum =
      usageOf inventory.generations := by
  have byEntries : root.generations.entries.map (entryUsage host limits) =
      root.generations.keys.map (namedUsage host limits root) := by
    unfold AList.keys List.keys
    rw [List.map_map]
    apply List.map_congr_left
    intro entry member
    have found : root.generations.lookup entry.1 = some entry.2 := AList.mem_lookup_iff.mpr member
    simp only [Function.comp_apply, namedUsage, found]
  have byGenerations : inventory.generations.map (·.usage) =
      (inventory.generations.map (·.id)).map (namedUsage host limits root) := by
    rw [List.map_map]
    apply List.map_congr_left
    intro generation member
    obtain ⟨directory, stored, verified⟩ := inventoried.verified generation member
    simp only [Function.comp_apply, namedUsage, stored]
    exact verified.entryUsage.symm
  unfold usageOf
  rw [byEntries, byGenerations]
  exact ((inventoried.names.map _).sum_eq).symm

theorem Inventoried.count (inventoried : Inventoried host limits root inventory) :
    inventory.usage.generations = root.generations.entries.length := by
  have single : ∀ generation ∈ inventory.generations, generation.usage.generations = 1 := by
    intro generation member
    obtain ⟨directory, _, preflight, preflighted, checked⟩ := inventoried.verified generation member
    obtain ⟨rfl, _⟩ := verify_ok checked
    obtain ⟨_, _, _, _, _, _, _, _, _, usage⟩ := preflightGeneration_ok preflighted
    change preflight.usage.generations = 1
    rw [usage]
  have pointed : (pointerUsage inventory.current).generations = 0 := by
    have pointer := inventoried.pointer
    unfold readOptionalCurrent at pointer
    cases stored : root.current with
    | none =>
      rw [stored] at pointer
      cases current : inventory.current with
      | none => rfl
      | some value =>
        rw [current] at pointer
        cases pointer
    | some bytes =>
      simp only [stored] at pointer
      cases read : readPointer host limits.maxBytes bytes with
      | error reason =>
        simp only [read, Except.map] at pointer
        cases pointer
      | ok value =>
        simp only [read, Except.map, Except.ok.injEq] at pointer
        rw [← pointer]
        exact congrArg Usage.generations (readPointer_usage read)
  have counted : (usageOf inventory.generations).generations = inventory.generations.length := by
    revert single
    induction inventory.generations with
    | nil => exact fun _ => rfl
    | cons first rest ih =>
      intro single
      rw [usageOf_cons, add_generations, ih fun other member =>
        single other (List.mem_cons_of_mem _ member), single first (by simp), List.length_cons]
      omega
  have named := inventoried.names.length_eq
  unfold AList.keys List.keys at named
  rw [List.length_map, List.length_map] at named
  rw [inventoried.usage, add_generations, pointed, counted]
  omega

end Decodex.Source.Gpui.ClientCache
