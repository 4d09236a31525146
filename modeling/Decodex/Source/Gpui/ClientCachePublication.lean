import Decodex.Source.Gpui.ClientCacheBounds

/-!
# Client cache: what a publication rests on

The facts that a successful preparation establishes, and that no step of a prepared
publication is refused once its eviction has succeeded.
-/
namespace Decodex.Source.Gpui.ClientCache

open Decodex.Library Decodex.Source.Core

variable {host : ClientCacheHost} {limits : CacheLimits} {authority : CacheAuthority}
  {root : CacheRoot} {inventory : Inventory} {inputs : List ObjectInput}
  {resolutions : List UncertainResolution} {publication : Publication}

theorem currentGeneration_eq_some {current : VerifiedGeneration}
    (found : inventory.currentGeneration = some current) :
    current ∈ inventory.generations ∧ ∃ pointer ∈ inventory.current,
      current.id = pointer.generation := by
  unfold Inventory.currentGeneration at found
  cases pointed : inventory.current with
  | none =>
    rw [pointed] at found
    cases found
  | some pointer =>
    rw [pointed] at found
    change inventory.generations.find? (·.id = pointer.generation) = some current at found
    exact ⟨List.mem_of_find?_eq_some found, pointer, rfl, by simpa using List.find?_some found⟩

theorem addBytes_ok {objects : List (Sigma fun _ : String => Nat)} {start total : Nat}
    (added : objects.foldlM addBytes start = .ok total) :
    total = start + (objects.map (·.2)).sum := by
  induction objects generalizing start with
  | nil =>
    cases added
    rfl
  | cons first rest ih =>
    rw [List.foldlM_cons] at added
    obtain ⟨middle, step, added⟩ := bind_ok added
    obtain ⟨_, rfl⟩ := checkedAdd_eq_ok.mp step
    rw [ih added, List.map_cons, List.sum_cons, Nat.add_assoc]

theorem peakUsage_ok {plan : PublicationPlan} {manifest current : List UInt8} {peak : Usage}
    (counted : plan.peakUsage manifest current = .ok peak) :
    peak = ⟨totalLength (uniqueObjects plan.objects) + manifest.length + current.length,
      (uniqueObjects plan.objects).entries.length, 1⟩ := by
  unfold PublicationPlan.peakUsage at counted
  obtain ⟨objects, added, counted⟩ := bind_ok counted
  obtain ⟨withManifest, first, counted⟩ := bind_ok counted
  obtain ⟨bytes, second, counted⟩ := bind_ok counted
  cases counted
  obtain ⟨_, rfl⟩ := checkedAdd_eq_ok.mp first
  obtain ⟨_, rfl⟩ := checkedAdd_eq_ok.mp second
  rw [addBytes_ok added, Nat.zero_add]
  rfl

theorem nextSequence_ok {sequence : Nat} (next : nextSequence inventory = .ok sequence) :
    sequence < 2 ^ 64 ∧
      ∀ generation ∈ inventory.generations, generation.manifest.sequence < sequence := by
  unfold nextSequence at next
  dsimp only at next
  split at next
  · rename_i small
    cases next
    refine ⟨small, ?_⟩
    intro generation member
    have listed : generation.manifest.sequence ∈
        inventory.generations.map (·.manifest.sequence) :=
      List.mem_map.mpr ⟨generation, member, rfl⟩
    have most := List.le_max?_getD_of_mem (k := 0) listed
    omega
  · cases next

/-- What the plan of a publication rests on. -/
structure Prepared (host : ClientCacheHost) (limits : CacheLimits) (authority : CacheAuthority)
    (inputs : List ObjectInput) (resolutions : List UncertainResolution) (root : CacheRoot)
    (publication : Publication) : Prop where
  inventoried : Inventoried host limits root publication.inventory
  complete : Complete limits publication.inventory
  sequence : publication.plan.manifest.sequence < 2 ^ 64
  later : ∀ generation ∈ publication.inventory.generations,
    generation.manifest.sequence < publication.plan.manifest.sequence
  planned : Planned host limits authority publication.inventory
    publication.plan.manifest.sequence inputs resolutions publication.plan
  manifestBytes : publication.manifestBytes = host.manifestJson.toVec publication.plan.manifest
  generation : publication.generation = sha256Hex host publication.manifestBytes
  currentBytes : publication.currentBytes = serializeCurrent host publication.generation
  peak : publication.peak =
    ⟨totalLength (uniqueObjects publication.plan.objects) + publication.manifestBytes.length +
      publication.currentBytes.length,
      (uniqueObjects publication.plan.objects).entries.length, 1⟩

theorem preparePublication_ok
    (prepared : preparePublication host limits authority inputs resolutions root =
      .ok publication) :
    Prepared host limits authority inputs resolutions root publication := by
  unfold preparePublication at prepared
  obtain ⟨_, _, prepared⟩ := bind_ok prepared
  obtain ⟨inventory, read, prepared⟩ := bind_ok prepared
  obtain ⟨sequence, next, prepared⟩ := bind_ok prepared
  obtain ⟨plan, built, prepared⟩ := bind_ok prepared
  obtain ⟨_, _, prepared⟩ := bind_ok prepared
  obtain ⟨peak, counted, prepared⟩ := bind_ok prepared
  cases prepared
  obtain ⟨inventoried, complete⟩ := readInventory_ok read
  obtain ⟨small, later⟩ := nextSequence_ok next
  have planned := buildPlan_ok (fun current found => by
    obtain ⟨directory, _, verified⟩ :=
      inventoried.verified current (currentGeneration_eq_some found).1
    exact verified.distinct) built
  have numbered : plan.manifest.sequence = sequence := by rw [planned.manifest]
  refine ⟨inventoried, complete, ?_, ?_, ?_, rfl, rfl, rfl, peakUsage_ok counted⟩
  · rwa [numbered]
  · rwa [numbered]
  · rwa [numbered]

theorem validateRootShape_locked (lock : Bool) :
    validateRootShape { root with writerLock := lock } true = validateRootShape root true := by
  unfold validateRootShape
  simp

theorem readInventory_locked (lock : Bool) :
    readInventory host limits { root with writerLock := lock } true =
      readInventory host limits root true := by
  unfold readInventory
  rw [validateRootShape_locked]
  rfl

theorem preparePublication_locked (lock : Bool) :
    preparePublication host limits authority inputs resolutions
      { root with writerLock := lock } =
    preparePublication host limits authority inputs resolutions root := by
  unfold preparePublication
  rw [validateRootShape_locked, readInventory_locked]

theorem createStaging_ok {after : CacheRoot} (created : createStaging root = .ok after) :
    after = { root with staging := some ⟨none, ∅⟩ } := by
  unfold createStaging at created
  obtain ⟨_, _, created⟩ := bind_ok created
  cases created
  rfl

theorem writeObject_ok {digest : String} {bytes : List UInt8} {after : CacheRoot}
    (written : writeObject digest bytes root = .ok after) :
    ∃ staging, root.staging = some staging ∧ after = { root with
      staging := some { staging with objects := staging.objects.insert digest bytes } } := by
  unfold writeObject at written
  obtain ⟨staging, staged, written⟩ := bind_ok written
  obtain ⟨_, _, written⟩ := bind_ok written
  cases written
  exact ⟨staging, require_eq_ok.mp staged, rfl⟩

theorem writeStagedManifest_ok {bytes : List UInt8} {after : CacheRoot}
    (written : writeStagedManifest bytes root = .ok after) :
    ∃ staging, root.staging = some staging ∧
      after = { root with staging := some { staging with manifest := some bytes } } := by
  unfold writeStagedManifest at written
  obtain ⟨staging, staged, written⟩ := bind_ok written
  obtain ⟨_, _, written⟩ := bind_ok written
  cases written
  exact ⟨staging, require_eq_ok.mp staged, rfl⟩

theorem publishGeneration_ok {generation : String} {after : CacheRoot}
    (published : publishGeneration generation root = .ok after) :
    generation ∉ root.generations ∧ ∃ staging, root.staging = some staging ∧
      after = { root with
        staging := none
        generations := root.generations.insert generation staging } := by
  unfold publishGeneration at published
  obtain ⟨_, fresh, published⟩ := bind_ok published
  obtain ⟨staging, staged, published⟩ := bind_ok published
  cases published
  rw [refuse_eq_ok] at fresh
  exact ⟨fresh, staging, require_eq_ok.mp staged, rfl⟩

theorem writeCurrentNext_ok {bytes : List UInt8} {after : CacheRoot}
    (written : writeCurrentNext bytes root = .ok after) :
    after = { root with currentNext := some bytes } := by
  unfold writeCurrentNext at written
  obtain ⟨_, _, written⟩ := bind_ok written
  cases written
  rfl

theorem renameCurrent_ok {after : CacheRoot} (renamed : renameCurrent root = .ok after) :
    ∃ bytes, root.currentNext = some bytes ∧
      after = { root with currentNext := none, current := some bytes } := by
  unfold renameCurrent at renamed
  obtain ⟨bytes, written, renamed⟩ := bind_ok renamed
  cases renamed
  exact ⟨bytes, require_eq_ok.mp written, rfl⟩

/-- Objects of one digest have one length. -/
def Consistent (objects : List PlannedObject) : Prop :=
  ∀ object ∈ objects, ∀ other ∈ objects, object.record.sha256 = other.record.sha256 →
    object.record.byteLength = other.record.byteLength

theorem uniqueObjects_lookup {objects : List PlannedObject} (consistent : Consistent objects) :
    ∀ object ∈ objects,
      (uniqueObjects objects).lookup object.record.sha256 = some object.record.byteLength := by
  suffices general : ∀ (rest done : List PlannedObject) (unique : AList fun _ : String => Nat),
      (∀ object ∈ done ++ rest, object ∈ objects) →
      (∀ object ∈ done, unique.lookup object.record.sha256 = some object.record.byteLength) →
      ∀ object ∈ done ++ rest, (rest.foldl (fun unique object =>
        unique.insert object.record.sha256 object.record.byteLength) unique).lookup
          object.record.sha256 = some object.record.byteLength from
    general objects [] ∅ (fun _ member => member) nofun
  intro rest
  induction rest with
  | nil =>
    intro done unique _ held object member
    rw [List.append_nil] at member
    exact held object member
  | cons first rest ih =>
    intro done unique among held object member
    rw [List.append_cons] at among member
    refine ih (done ++ [first]) _ among ?_ object member
    intro other listed
    by_cases same : other.record.sha256 = first.record.sha256
    · rw [same, AList.lookup_insert]
      exact congrArg some (consistent first (among first (by simp)) other
        (among other (List.mem_append_left _ listed)) same.symm)
    · rw [AList.lookup_insert_ne same]
      rcases List.mem_append.mp listed with old | new
      · exact held other old
      · exact absurd (congrArg (·.record.sha256) (List.mem_singleton.mp new)) same

/-- A root in which an eviction has made room for a publication. -/
structure Roomy (host : ClientCacheHost) (limits : CacheLimits) (authority : CacheAuthority)
    (inputs : List ObjectInput) (resolutions : List UncertainResolution) (start : CacheRoot)
    (publication : Publication) (root : CacheRoot) : Prop where
  prepared : Prepared host limits authority inputs resolutions start publication
  consistent : Consistent publication.plan.objects
  evicted : ∃ state, Evicted host limits start publication.inventory publication.peak state root ∧
    limits.contains state.2 = true

section Roomy

variable {start : CacheRoot}

theorem Roomy.fits (roomy : Roomy host limits authority inputs resolutions start publication root) :
    FitsObjects limits (uniqueObjects publication.plan.objects)
      publication.plan.manifest.objects := by
  obtain ⟨prepared, consistent, state, evicted, room⟩ := roomy
  have planned := prepared.planned
  have records : publication.plan.manifest.objects =
      publication.plan.objects.map (·.record) := by rw [planned.manifest]
  have within := (contains_iff.mp room).1
  rw [evicted.projected, add_bytes, prepared.peak] at within
  dsimp only at within
  refine ⟨?_, planned.few, by omega, ?_⟩
  · rw [records, List.length_map]
    exact planned.count
  · intro record member
    rw [records] at member
    obtain ⟨object, listed, rfl⟩ := List.mem_map.mp member
    refine ⟨uniqueObjects_lookup consistent object listed, ?_⟩
    rcases planned.origin object listed with ⟨input, among, rfl⟩ | ⟨current, inherits, stored, _⟩
    · exact (planned.given input among).2
    · obtain ⟨directory, _, verified⟩ := prepared.inventoried.verified current
        (currentGeneration_eq_some inherits.1).1
      exact (verified.stored stored).1

/-- The staged content objects are among the planned ones. -/
def StagedParts (publication : Publication) (objects : AList fun _ : String => List UInt8) : Prop :=
  ∀ digest content, objects.lookup digest = some content →
    (uniqueObjects publication.plan.objects).lookup digest = some content.length

/-- The root with a staging directory beside it. -/
def Staging (publication : Publication) (before : CacheRoot) (manifest : Option (List UInt8))
    (root : CacheRoot) : Prop :=
  ∃ objects, StagedParts publication objects ∧
    root = { before with staging := some ⟨manifest, objects⟩ }

theorem StagedParts.insert {objects : AList fun _ : String => List UInt8} {digest : String}
    {content : List UInt8} (parts : StagedParts publication objects)
    (known : (uniqueObjects publication.plan.objects).lookup digest = some content.length) :
    StagedParts publication (objects.insert digest content) := by
  intro other found listed
  by_cases same : other = digest
  · subst same
    rw [AList.lookup_insert] at listed
    cases listed
    exact known
  · rw [AList.lookup_insert_ne same] at listed
    exact parts other found listed

theorem writeObject_meets {digest : String} {content : List UInt8} {before : CacheRoot}
    (known : (uniqueObjects publication.plan.objects).lookup digest = some content.length) :
    Script.Meets (fun writing => Staging publication before none writing.root)
      (changeRoot (writeObject digest content)) anywhere (fun error _ => isRefusal error = false)
      (fun _ writing => Staging publication before none writing.root) := by
  refine meets_changeRoot ?_ ?_
  · intro writing error _ stopped
    apply (show Unrefused (writeObject digest content writing.root) from ?_) error stopped
    unfold writeObject
    apply unrefused_bind (unrefused_require rfl)
    intro _ _
    apply unrefused_bind (unrefused_refuse fun _ => rfl)
    intro _ _
    exact unrefused_ok
  · intro writing root held written
    obtain ⟨objects, parts, staged⟩ := held
    obtain ⟨staging, found, rfl⟩ := writeObject_ok written
    rw [staged] at found ⊢
    cases found
    exact ⟨_, parts.insert known, rfl⟩

theorem copySource_unrefused {maximum : Nat} {generation digest : String} {length : Nat}
    (bounded : length ≤ maximum) (small : maximum < 2 ^ 63)
    (stored : ∀ directory content, root.generations.lookup generation = some directory →
      directory.objects.lookup digest = some content → content.length ≤ maximum) :
    Unrefused (copySource maximum generation digest length root) := by
  unfold copySource
  apply unrefused_bind (unrefused_refuse fun long => by omega)
  intro _ _
  apply unrefused_bind (unrefused_require rfl)
  intro directory found
  apply unrefused_bind (unrefused_require rfl)
  intro content listed
  have short := stored directory content (require_eq_ok.mp found) (require_eq_ok.mp listed)
  apply unrefused_bind (unrefused_refuse fun long => by omega)
  intro _ _
  apply unrefused_bind (unrefused_refuse fun _ => rfl)
  intro _ _
  apply unrefused_bind (unrefused_checkedAdd (by omega))
  intro _ _
  exact unrefused_ok

theorem copySource_length {maximum : Nat} {generation digest : String} {length : Nat}
    {content : List UInt8}
    (copied : copySource maximum generation digest length root = .ok content) :
    content.length = length := by
  unfold copySource at copied
  obtain ⟨_, _, copied⟩ := bind_ok copied
  obtain ⟨_, _, copied⟩ := bind_ok copied
  obtain ⟨_, _, copied⟩ := bind_ok copied
  obtain ⟨_, _, copied⟩ := bind_ok copied
  obtain ⟨_, agrees, copied⟩ := bind_ok copied
  obtain ⟨_, _, copied⟩ := bind_ok copied
  cases copied
  rw [refuse_eq_ok, not_not] at agrees
  exact agrees

/-- The content objects of a verified generation are within the limits. -/
theorem Verified.short {directory : GenerationDirectory} {generation : VerifiedGeneration}
    (verified : Verified host limits directory generation) {digest : String}
    {content : List UInt8} (listed : directory.objects.lookup digest = some content) :
    content.length ≤ limits.maxBytes := by
  obtain ⟨preflight, preflighted, checked⟩ := verified
  obtain ⟨_, _, entries, _, _, perm, _, loop, _⟩ := preflightGeneration_ok preflighted
  exact loop.bounded ⟨digest, content⟩ (perm.mem_iff.mpr (AList.mem_lookup_iff.mp listed))

theorem writeVerified_meets {before : CacheRoot} {object : PlannedObject}
    (roomy : Roomy host limits authority inputs resolutions start publication before)
    (listed : object ∈ publication.plan.objects) :
    Script.Meets (fun writing => Staging publication before none writing.root)
      (object.writeVerified host limits.maxBytes) anywhere
      (fun error _ => isRefusal error = false)
      (fun _ writing => Staging publication before none writing.root) := by
  have known := uniqueObjects_lookup roomy.consistent object listed
  unfold PlannedObject.writeVerified
  cases source : object.source with
  | input bytes =>
    dsimp only
    refine .bind (fun _ writing => bytes.length = object.record.byteLength ∧
      Staging publication before none writing.root) (meets_look ?_ ?_)
      fun _ => .assuming fun same => writeObject_meets (by rw [known, same])
    · intro writing error _ stopped
      exact unrefused_refuse (fun _ => rfl) error stopped
    · intro writing value held agrees
      rw [refuse_eq_ok, not_or, not_or, not_not] at agrees
      exact ⟨agrees.2.1, held⟩
  | existing generation =>
    dsimp only
    refine .bind (fun content writing => content.length = object.record.byteLength ∧
      Staging publication before none writing.root) (meets_look ?_ ?_)
      fun content => .assuming fun same => .bind
        (fun _ writing => Staging publication before none writing.root)
        (writeObject_meets (by rw [known, same])) fun _ => meets_look ?_ fun _ _ held _ => held
    · intro writing error held stopped
      obtain ⟨objects, parts, staged⟩ := held
      obtain ⟨state, evicted, room⟩ := roomy.evicted
      rcases roomy.prepared.planned.origin object listed with ⟨input, _, rfl⟩ |
        ⟨current, inherits, stored, _, carried⟩
      · cases source
      · rw [carried] at source
        cases source
        obtain ⟨directory, placed, verified⟩ := roomy.prepared.inventoried.verified current
          (currentGeneration_eq_some inherits.1).1
        refine copySource_unrefused (verified.stored stored).1 (limits_small limits).1 ?_ error
          stopped
        intro other content found content_listed
        rw [staged] at found
        have same := evicted.kept _ _ found
        rw [placed] at same
        cases same
        exact verified.short content_listed
    · intro writing content held copied
      exact ⟨copySource_length copied, held⟩
    · intro writing error _ stopped
      exact unrefused_refuse (fun _ => rfl) error stopped

theorem writeObjects_meets {before : CacheRoot}
    (roomy : Roomy host limits authority inputs resolutions start publication before)
    (written : List String) (objects : List PlannedObject)
    (among : ∀ object ∈ objects, object ∈ publication.plan.objects) :
    Script.Meets (fun writing => Staging publication before none writing.root)
      (writeObjects host limits.maxBytes written objects) anywhere
      (fun error _ => isRefusal error = false)
      (fun _ writing => Staging publication before none writing.root) := by
  induction objects generalizing written with
  | nil => exact .ret fun _ held => held
  | cons object rest ih =>
    have later := fun written => ih written fun other member =>
      among other (List.mem_cons_of_mem _ member)
    unfold writeObjects
    split
    · exact later _
    · exact .bind _ (writeVerified_meets roomy (among object (by simp))) fun _ => later _

theorem Inventoried.preflighted (inventoried : Inventoried host limits root inventory)
    {entry : Sigma fun _ : String => GenerationDirectory}
    (member : entry ∈ root.generations.entries) :
    Unrefused (preflightGeneration host limits entry.1 entry.2) := by
  have found : root.generations.lookup entry.1 = some entry.2 := AList.mem_lookup_iff.mpr member
  have named : entry.1 ∈ inventory.generations.map (·.id) :=
    inventoried.names.mem_iff.mpr (List.mem_map.mpr ⟨entry, member, rfl⟩)
  obtain ⟨generation, among, same⟩ := List.mem_map.mp named
  obtain ⟨directory, stored, preflight, preflighted, _⟩ := inventoried.verified generation among
  rw [same, found] at stored
  cases stored
  rw [same] at preflighted
  exact unrefused_of_ok preflighted

/-- The directory of the plan, as the publication writes it. -/
theorem Roomy.written (codecs : host.RoundTrips)
    (roomy : Roomy host limits authority inputs resolutions start publication root)
    {objects : AList fun _ : String => List UInt8} (parts : StagedParts publication objects) :
    Written host limits (uniqueObjects publication.plan.objects) publication.plan.manifest
      publication.manifestBytes ⟨some publication.manifestBytes, objects⟩ := by
  have fits := roomy.fits
  refine ⟨rfl, ?_, fits, parts⟩
  rw [roomy.prepared.manifestBytes]
  apply codecs.manifest.reads
  refine ⟨roomy.prepared.sequence, ?_⟩
  intro record member
  have short := (fits.known record member).2
  have small := limits_small limits
  omega

theorem finalInspection_unrefused {before after : CacheRoot}
    (codecs : host.RoundTrips)
    (roomy : Roomy host limits authority inputs resolutions start publication before)
    {objects : AList fun _ : String => List UInt8} (parts : StagedParts publication objects)
    (fresh : publication.generation ∉ before.generations)
    (current : after.current = some publication.currentBytes)
    (generations : after.generations = before.generations.insert publication.generation
      ⟨some publication.manifestBytes, objects⟩) :
    Unrefused (finalInspection host limits after) := by
  have written := roomy.written codecs parts
  obtain ⟨state, evicted, room⟩ := roomy.evicted
  have within := contains_iff.mp room
  have peak := roomy.prepared.peak
  rw [evicted.projected, peak] at within
  simp only [add_bytes, add_objects, add_generations] at within
  have entries : after.generations.entries = ⟨publication.generation,
      ⟨some publication.manifestBytes, objects⟩⟩ :: before.generations.entries := by
    rw [generations]
    exact AList.entries_insert_of_notMem fresh
  have counted := evicted.inventoried.count
  unfold finalInspection
  apply unrefused_bind
  · apply readInventory_unrefused
    · rw [entries, List.length_cons]
      omega
    · intro entry member
      rw [entries] at member
      rcases List.mem_cons.mp member with rfl | old
      · exact written.unrefused (by omega)
      · exact evicted.inventoried.preflighted old
    · refine contains_mono room ?_
      have new : entryUsage host limits ⟨publication.generation, _⟩ ≤ _ := written.usage_le
      unfold rootUsage
      rw [current, entries, List.map_cons, List.sum_cons, evicted.inventoried.entriesUsage,
        evicted.projected, evicted.inventoried.usage, peak]
      rw [usage_le] at new ⊢
      simp only [add_bytes, add_objects, add_generations, Option.map_some, Option.getD_some]
        at new ⊢
      omega
  · intro inventory read
    have complete := (readInventory_ok read).2
    apply unrefused_bind
    · apply unrefused_refuse
      rw [complete.within]
      exact nofun
    · intro _ _
      apply unrefused_bind (unrefused_require rfl)
      intro _ _
      exact unrefused_ok

/-- A publication for which there is room is not refused any more. -/
theorem Roomy.unrefused (codecs : host.RoundTrips) {before : CacheRoot}
    (roomy : Roomy host limits authority inputs resolutions start publication before) :
    Script.Meets (fun writing => writing.root = before)
      (writePublication host limits publication) anywhere
      (fun error _ => isRefusal error = false) (fun _ _ => True) := by
  unfold writePublication writeStaging publishCurrent
  refine .bind (fun _ writing => writing.root = before) (meets_markMutation fun _ held => held)
    fun _ => ?_
  refine .bind (fun _ writing => Staging publication before (some publication.manifestBytes)
    writing.root) ?_ fun _ => ?_
  · refine .bind (fun _ writing => Staging publication before none writing.root)
      (meets_changeRoot ?_ ?_) fun _ => ?_
    · intro writing error _ stopped
      apply (show Unrefused (createStaging writing.root) from ?_) error stopped
      apply unrefused_bind (unrefused_refuse fun _ => rfl)
      intro _ _
      exact unrefused_ok
    · intro writing root held created
      rw [createStaging_ok created, held]
      exact ⟨∅, fun _ _ listed => by simp at listed, rfl⟩
    refine .bind (fun _ writing => Staging publication before none writing.root)
      (writeObjects_meets roomy [] _ fun _ member => member) fun _ => meets_changeRoot ?_ ?_
    · intro writing error _ stopped
      apply (show Unrefused (writeStagedManifest _ writing.root) from ?_) error stopped
      apply unrefused_bind (unrefused_require rfl)
      intro _ _
      apply unrefused_bind (unrefused_refuse fun _ => rfl)
      intro _ _
      exact unrefused_ok
    · intro writing root held written
      obtain ⟨objects, parts, staged⟩ := held
      obtain ⟨staging, found, rfl⟩ := writeStagedManifest_ok written
      rw [staged] at found ⊢
      cases found
      exact ⟨objects, parts, rfl⟩
  refine .bind (fun _ writing => ∃ objects, StagedParts publication objects ∧
    publication.generation ∉ before.generations ∧ writing.root.generations =
      before.generations.insert publication.generation
        ⟨some publication.manifestBytes, objects⟩) (meets_changeRoot ?_ ?_) fun _ => ?_
  · intro writing error _ stopped
    apply (show Unrefused (publishGeneration _ writing.root) from ?_) error stopped
    apply unrefused_bind (unrefused_refuse fun _ => rfl)
    intro _ _
    apply unrefused_bind (unrefused_require rfl)
    intro _ _
    exact unrefused_ok
  · intro writing root held published
    obtain ⟨objects, parts, staged⟩ := held
    obtain ⟨fresh, staging, found, rfl⟩ := publishGeneration_ok published
    rw [staged] at found fresh ⊢
    cases found
    exact ⟨objects, parts, fresh, rfl⟩
  refine .bind (fun _ writing => (∃ objects, StagedParts publication objects ∧
    publication.generation ∉ before.generations ∧ writing.root.generations =
      before.generations.insert publication.generation
        ⟨some publication.manifestBytes, objects⟩) ∧
    writing.root.current = some publication.currentBytes) ?_ fun _ => meets_look ?_ ?_
  · refine .bind (fun _ writing => (∃ objects, StagedParts publication objects ∧
      publication.generation ∉ before.generations ∧ writing.root.generations =
        before.generations.insert publication.generation
          ⟨some publication.manifestBytes, objects⟩) ∧
      writing.root.currentNext = some publication.currentBytes) (meets_changeRoot ?_ ?_)
      fun _ => .bind (fun _ writing => (∃ objects, StagedParts publication objects ∧
        publication.generation ∉ before.generations ∧ writing.root.generations =
          before.generations.insert publication.generation
            ⟨some publication.manifestBytes, objects⟩) ∧
        writing.root.current = some publication.currentBytes) (meets_changeRoot ?_ ?_)
        fun _ => meets_look ?_ fun _ _ held _ => held
    · intro writing error _ stopped
      apply (show Unrefused (writeCurrentNext _ writing.root) from ?_) error stopped
      apply unrefused_bind (unrefused_refuse fun _ => rfl)
      intro _ _
      exact unrefused_ok
    · intro writing root held written
      rw [writeCurrentNext_ok written]
      exact ⟨held, rfl⟩
    · intro writing error _ stopped
      apply (show Unrefused (renameCurrent writing.root) from ?_) error stopped
      apply unrefused_bind (unrefused_require rfl)
      intro _ _
      exact unrefused_ok
    · intro writing root held renamed
      obtain ⟨bytes, written, rfl⟩ := renameCurrent_ok renamed
      rw [held.2] at written
      cases written
      exact ⟨held.1, rfl⟩
    · intro writing error held stopped
      obtain ⟨state, evicted, room⟩ := roomy.evicted
      have within := (contains_iff.mp room).1
      rw [evicted.projected, roomy.prepared.peak, add_bytes] at within
      dsimp only at within
      apply (show Unrefused (readCurrent host writing.root limits.maxBytes >>= _) from ?_) error
        stopped
      apply unrefused_bind
      · unfold readCurrent readOptionalCurrent
        rw [held.2]
        apply unrefused_bind
        · intro error failed
          cases pointer : readPointer host limits.maxBytes publication.currentBytes with
          | error reason =>
            simp only [pointer, Except.map] at failed
            cases failed
            exact readPointer_unrefused (by omega) _ pointer
          | ok value =>
            simp only [pointer, Except.map] at failed
            cases failed
        · intro _ _
          exact unrefused_require rfl
      · intro _ _
        exact unrefused_refuse fun _ => rfl
  · intro writing error held stopped
    obtain ⟨⟨objects, parts, fresh, generations⟩, current⟩ := held
    exact finalInspection_unrefused codecs roomy parts fresh current generations error stopped
  · intro _ _ _ _
    trivial

end Roomy

end Decodex.Source.Gpui.ClientCache
