import Decodex.Source.Gpui.ClientCache

/-!
# Client cache: publication and disposal

Source: apps/decodex-gpui/src/client_cache.rs:150-193 (inputs, resolutions), 397-580
(`publish_with_faults`, `publish_locked`, `build_plan`), 582-760 (staging, pointer, eviction,
disposal), 966-1110 (planned objects, peak usage, writer guard), 1457-1530 (removal, copies).
The fault hooks and `sync` calls are left out: no fault is injected and nothing is read back
between them. A refused step leaves what it has written, as the code does.
-/
namespace Decodex.Source.Gpui.ClientCache

open Decodex.Library Decodex.Source.Core

structure ObjectInput where
  entityId : EntityId
  revision : UInt64
  bytes : List UInt8
  certainty : ObjectCertainty

structure UncertainResolution where
  entityId : EntityId
  revision : UInt64

/-- `RecordKey { entity_id, revision }`. -/
abbrev RecordKey := String × UInt64

def ObjectRecord.key (record : ObjectRecord) : RecordKey := (record.entityId, record.revision)

def ObjectInput.key (input : ObjectInput) : RecordKey := (input.entityId.text, input.revision)

def UncertainResolution.key (resolution : UncertainResolution) : RecordKey :=
  (resolution.entityId.text, resolution.revision)

/-- The derived `Ord` of `RecordKey`. -/
def KeyLe (left right : RecordKey) : Prop :=
  left.1 < right.1 ∨ (left.1 = right.1 ∧ left.2 ≤ right.2)

instance keyLeDecidable : DecidableRel KeyLe := fun left right =>
  inferInstanceAs (Decidable (left.1 < right.1 ∨ (left.1 = right.1 ∧ left.2 ≤ right.2)))

/-- `ObjectSource`: the input bytes, or the object file of the generation with this name. -/
inductive ObjectSource where
  | input (bytes : List UInt8)
  | existing (generation : String)

structure PlannedObject where
  record : ObjectRecord
  source : ObjectSource

structure PublicationPlan where
  manifest : Manifest
  objects : List PlannedObject

/-- `BTreeMap<RecordKey, PlannedObject>`. -/
abbrev PlannedRecords := AList fun _ : RecordKey => PlannedObject

/-- The uncertain records of the current generation, if it has the authority of the cache. -/
def inheritUncertain (authority : CacheAuthority) (inventory : Inventory) : PlannedRecords :=
  match inventory.currentGeneration.filter fun current =>
      current.manifest.authority = authority with
  | none => ∅
  | some current =>
    (current.manifest.objects.filter (·.certainty = .uncertain)).foldl
      (fun records record => records.insert record.key ⟨record, .existing current.id⟩) ∅

/-- The `match` on the removed record. -/
def removeUncertain (records : PlannedRecords) (key : RecordKey) :
    Except CacheError PlannedRecords :=
  match records.lookup key with
  | some planned => do
    refuse .unknownResolution (planned.record.certainty ≠ .uncertain)
    .ok (records.erase key)
  | none => .error .unknownResolution

/-- One round of the loop over the resolutions. -/
def resolveUncertain (state : PlannedRecords × List RecordKey)
    (resolution : UncertainResolution) : Except CacheError (PlannedRecords × List RecordKey) := do
  refuse .unknownResolution (resolution.key ∈ state.2)
  let records ← removeUncertain state.1 resolution.key
  .ok (records, resolution.key :: state.2)

def ObjectInput.record (host : ClientCacheHost) (input : ObjectInput) : ObjectRecord where
  entityId := input.entityId.text
  revision := input.revision
  sha256 := sha256Hex host input.bytes
  byteLength := input.bytes.length
  certainty := input.certainty

/-- One round of the loop over the inputs. -/
def planInput (host : ClientCacheHost) (limits : CacheLimits) (resolved : List RecordKey)
    (state : PlannedRecords × List RecordKey) (input : ObjectInput) :
    Except CacheError (PlannedRecords × List RecordKey) := do
  refuse .conflictingObject (input.key ∈ resolved ∨ input.key ∈ state.2)
  refuse .boundsExceeded (input.bytes.length ≥ 2 ^ 64)
  refuse .boundsExceeded (input.bytes.length > limits.maxBytes)
  let record := input.record host
  refuse .conflictingObject (∃ existing ∈ state.1.lookup input.key,
    existing.record.sha256 ≠ record.sha256 ∨ existing.record.byteLength ≠ record.byteLength)
  .ok (state.1.insert input.key ⟨record, .input input.bytes⟩, input.key :: state.2)

/-- `into_values().collect()`. -/
def plannedObjects (records : PlannedRecords) : List PlannedObject :=
  (records.entries.insertionSort fun left right => KeyLe left.1 right.1).map (·.2)

/-- The content objects of a generation, with their lengths. -/
def uniqueObjects (objects : List PlannedObject) : AList fun _ : String => Nat :=
  objects.foldl (fun unique object =>
    unique.insert object.record.sha256 object.record.byteLength) ∅

def buildPlan (host : ClientCacheHost) (limits : CacheLimits) (authority : CacheAuthority)
    (inventory : Inventory) (sequence : Nat) (inputs : List ObjectInput)
    (resolutions : List UncertainResolution) : Except CacheError PublicationPlan := do
  let (kept, resolved) ← resolutions.foldlM resolveUncertain
    (inheritUncertain authority inventory, [])
  let (records, _) ← inputs.foldlM (planInput host limits resolved) (kept, [])
  refuse .boundsExceeded (records.entries.length > maxObjects)
  let objects := plannedObjects records
  refuse .boundsExceeded ((uniqueObjects objects).entries.length > limits.maxObjects)
  .ok ⟨⟨manifestVersion, sequence, authority, objects.map (·.record)⟩, objects⟩

def addBytes (total : Nat) (object : Sigma fun _ : String => Nat) : Except CacheError Nat :=
  checkedAdd total object.2

/-- `peak_usage`. -/
def PublicationPlan.peakUsage (plan : PublicationPlan) (manifest current : List UInt8) :
    Except CacheError Usage := do
  let unique := uniqueObjects plan.objects
  let objectBytes ← unique.entries.foldlM addBytes 0
  let withManifest ← checkedAdd objectBytes manifest.length
  let bytes ← checkedAdd withManifest current.length
  .ok ⟨bytes, unique.entries.length, 1⟩

/-- `max().unwrap_or(0).checked_add(1)` on the sequences. -/
def nextSequence (inventory : Inventory) : Except CacheError Nat :=
  let last := (inventory.generations.map (·.manifest.sequence)).max?.getD 0
  if last + 1 < 2 ^ 64 then .ok (last + 1) else .error .sequenceExhausted

def serializeCurrent (host : ClientCacheHost) (generation : String) : List UInt8 :=
  host.currentJson.toVec ⟨currentVersion, generation, Usage.none⟩

/-- What `publish_locked` has computed when it starts to evict. -/
structure Publication where
  inventory : Inventory
  plan : PublicationPlan
  manifestBytes : List UInt8
  generation : String
  currentBytes : List UInt8
  peak : Usage

def preparePublication (host : ClientCacheHost) (limits : CacheLimits)
    (authority : CacheAuthority) (inputs : List ObjectInput)
    (resolutions : List UncertainResolution) (root : CacheRoot) :
    Except CacheError Publication := do
  validateRootShape root true
  let inventory ← readInventory host limits root true
  let sequence ← nextSequence inventory
  let plan ← buildPlan host limits authority inventory sequence inputs resolutions
  let manifestBytes := host.manifestJson.toVec plan.manifest
  refuse .boundsExceeded (manifestBytes.length > maxManifestBytes)
  let generation := sha256Hex host manifestBytes
  let currentBytes := serializeCurrent host generation
  let peak ← plan.peakUsage manifestBytes currentBytes
  .ok ⟨inventory, plan, manifestBytes, generation, currentBytes, peak⟩

/-- The root, and the flag `persistent_mutation`. -/
structure Writing where
  root : CacheRoot
  persistentMutation : Bool

abbrev CacheScript := Script Unit Writing CacheError

def look {α : Type} (read : CacheRoot → Except CacheError α) : CacheScript α :=
  Script.observe fun writing => read writing.root

def changeRoot (act : CacheRoot → Except CacheError CacheRoot) : CacheScript Unit :=
  Script.step () fun writing => (act writing.root).map fun root => ((), { writing with root })

/-- `*persistent_mutation = true`. -/
def markMutation : CacheScript Unit :=
  Script.step () fun writing => .ok ((), { writing with persistentMutation := true })

/-- `remove_verified_generation`. -/
def removeGeneration (generation : VerifiedGeneration) (root : CacheRoot) :
    Except CacheError CacheRoot := do
  let directory ← require (.io .missing) (root.generations.lookup generation.id)
  let _ ← boundedEntries directory.objects (generation.physicalObjects + 1)
  let _ ← require (.io .missing) directory.manifest
  .ok { root with generations := root.generations.erase generation.id }

/-- The sequence and the name of an eviction candidate. -/
def candidates (inventory : Inventory) : List (Nat × String) :=
  ((inventory.generations.filter fun generation =>
    some generation.id ≠ inventory.current.map (·.generation)).map fun generation =>
      (generation.manifest.sequence, generation.id)).insertionSort
    fun left right => left.1 < right.1 ∨ (left.1 = right.1 ∧ left.2 ≤ right.2)

/-- One eviction: the inventory without the generation, and the usage it leaves. -/
def evictOne (inventory : Inventory) (projected : Usage) (id : String) :
    CacheScript (Inventory × Usage) := do
  let generation ← look fun _ =>
    require .invalidMetadata (inventory.generations.find? (·.id = id))
  markMutation
  changeRoot (removeGeneration generation)
  look fun _ => do
    let usage ← inventory.usage.checkedSub generation.usage
    let projected ← projected.checkedSub generation.usage
    .ok (⟨inventory.current, inventory.generations.eraseP (·.id = id), usage⟩, projected)

def evictEach (limits : CacheLimits) :
    List (Nat × String) → Inventory × Usage → CacheScript (Inventory × Usage)
  | [], state => pure state
  | (_, id) :: rest, state =>
    if limits.contains state.2 then pure state
    else evictOne state.1 state.2 id >>= evictEach limits rest

def evictForPeak (limits : CacheLimits) (inventory : Inventory) (peak : Usage) :
    CacheScript Unit := do
  let projected ← look fun _ => inventory.usage.checkedAdd peak
  let state ← evictEach limits (candidates inventory) (inventory, projected)
  look fun _ => refuse .boundsExceeded (limits.contains state.2 = false)

def createStaging (root : CacheRoot) : Except CacheError CacheRoot := do
  refuse (.io .exists) (root.staging.isSome)
  .ok { root with staging := some ⟨none, ∅⟩ }

def writeObject (digest : String) (bytes : List UInt8) (root : CacheRoot) :
    Except CacheError CacheRoot := do
  let staging ← require (.io .missing) root.staging
  refuse (.io .exists) (digest ∈ staging.objects)
  .ok { root with staging := some { staging with objects := staging.objects.insert digest bytes } }

/-- The file that `copy_verified` copies, with the checks on its length. -/
def copySource (maximum : Nat) (generation digest : String) (expectedLength : Nat)
    (root : CacheRoot) : Except CacheError (List UInt8) := do
  refuse .boundsExceeded (expectedLength > maximum)
  let directory ← require (.io .missing) (root.generations.lookup generation)
  let content ← require (.io .missing) (directory.objects.lookup digest)
  refuse .boundsExceeded (content.length > maximum)
  refuse .integrityMismatch (content.length ≠ expectedLength)
  let _ ← checkedAdd expectedLength 1
  .ok content

/-- `write_verified`: a copy is hashed while it is written, an input before. -/
def PlannedObject.writeVerified (host : ClientCacheHost) (maximum : Nat)
    (object : PlannedObject) : CacheScript Unit :=
  match object.source with
  | .input bytes => do
    look fun _ => refuse .integrityMismatch (object.record.byteLength > maximum ∨
      bytes.length ≠ object.record.byteLength ∨ sha256Hex host bytes ≠ object.record.sha256)
    changeRoot (writeObject object.record.sha256 bytes)
  | .existing generation => do
    let content ← look (copySource maximum generation object.record.sha256
      object.record.byteLength)
    changeRoot (writeObject object.record.sha256 content)
    look fun _ => refuse .integrityMismatch (sha256Hex host content ≠ object.record.sha256)

/-- The loop over the planned objects, with the set `written`. -/
def writeObjects (host : ClientCacheHost) (maximum : Nat) :
    List String → List PlannedObject → CacheScript Unit
  | _, [] => pure ()
  | written, object :: rest =>
    if object.record.sha256 ∈ written then writeObjects host maximum written rest
    else do
      object.writeVerified host maximum
      writeObjects host maximum (object.record.sha256 :: written) rest

def writeStagedManifest (bytes : List UInt8) (root : CacheRoot) : Except CacheError CacheRoot := do
  let staging ← require (.io .missing) root.staging
  refuse (.io .exists) (staging.manifest.isSome)
  .ok { root with staging := some { staging with manifest := some bytes } }

def writeStaging (host : ClientCacheHost) (limits : CacheLimits) (plan : PublicationPlan)
    (manifestBytes : List UInt8) : CacheScript Unit := do
  changeRoot createStaging
  writeObjects host limits.maxBytes [] plan.objects
  changeRoot (writeStagedManifest manifestBytes)

def publishGeneration (generation : String) (root : CacheRoot) : Except CacheError CacheRoot := do
  refuse .foreignArtifact (generation ∈ root.generations)
  let staging ← require (.io .missing) root.staging
  .ok { root with
    staging := none
    generations := root.generations.insert generation staging }

def writeCurrentNext (bytes : List UInt8) (root : CacheRoot) : Except CacheError CacheRoot := do
  refuse (.io .exists) (root.currentNext.isSome)
  .ok { root with currentNext := some bytes }

def renameCurrent (root : CacheRoot) : Except CacheError CacheRoot := do
  let bytes ← require (.io .missing) root.currentNext
  .ok { root with currentNext := none, current := some bytes }

def publishCurrent (host : ClientCacheHost) (limits : CacheLimits) (generation : String)
    (bytes : List UInt8) : CacheScript Unit := do
  changeRoot (writeCurrentNext bytes)
  changeRoot renameCurrent
  look fun root => do
    let pointer ← readCurrent host root limits.maxBytes
    refuse .invalidMetadata (pointer.generation ≠ generation)

/-- The inspection that `publish_locked` returns. -/
def finalInspection (host : ClientCacheHost) (limits : CacheLimits) (root : CacheRoot) :
    Except CacheError GenerationInspection := do
  let inventory ← readInventory host limits root true
  ensureWithinLimits limits inventory
  let current ← require .invalidMetadata inventory.currentGeneration
  .ok current.inspection

/-- What follows the eviction. -/
def writePublication (host : ClientCacheHost) (limits : CacheLimits)
    (publication : Publication) : CacheScript GenerationInspection := do
  markMutation
  writeStaging host limits publication.plan publication.manifestBytes
  changeRoot (publishGeneration publication.generation)
  publishCurrent host limits publication.generation publication.currentBytes
  look (finalInspection host limits)

def publishLocked (host : ClientCacheHost) (limits : CacheLimits) (authority : CacheAuthority)
    (inputs : List ObjectInput) (resolutions : List UncertainResolution) :
    CacheScript GenerationInspection := do
  let publication ← look (preparePublication host limits authority inputs resolutions)
  evictForPeak limits publication.inventory publication.peak
  writePublication host limits publication

/-- The writer guard around a script: the marker stays when the script fails after it has
changed the directory, and goes otherwise. -/
def withWriter {α : Type} (script : CacheScript α) (root : CacheRoot) :
    Except CacheError α × CacheRoot :=
  match validateRootShape root false with
  | .error error => (.error error, root)
  | .ok () =>
    let outcome := script ⟨{ root with writerLock := true }, false⟩
    match outcome.result with
    | .ok value => (.ok value, { outcome.final.root with writerLock := false })
    | .error error =>
      (.error error, { outcome.final.root with writerLock := outcome.final.persistentMutation })

def publish (host : ClientCacheHost) (limits : CacheLimits) (authority : CacheAuthority)
    (inputs : List ObjectInput) (resolutions : List UncertainResolution) :
    CacheRoot → Except CacheError GenerationInspection × CacheRoot :=
  withWriter (publishLocked host limits authority inputs resolutions)

end Decodex.Source.Gpui.ClientCache
