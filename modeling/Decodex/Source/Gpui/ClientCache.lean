import Mathlib.Data.List.AList
import Mathlib.Data.List.Sort
import Decodex.Library.Except
import Decodex.Library.FileSystem
import Decodex.Library.Script
import Decodex.Source.Gpui.CacheIndex

/-!
# Client cache: directory and inventory

Source: apps/decodex-gpui/src/client_cache.rs:19-193 (bounds, limits, authority, inputs),
236-330 (inspection, errors), 374-385 and 786-846 (inventory), 848-1020 (manifest, usage),
1171-1455 (root shape, pointer, preflight, manifest records, verification).
A directory is a finite map from names, so that it holds a name once. Owners, modes, symbolic
links and foreign names are left out: the checks for them pass on every directory of this shape.
`serde_json` and SHA-256 are outside, in `ClientCacheHost`. `usize` and `u64` have 64 bits.
-/
namespace Decodex.Source.Gpui.ClientCache

open Decodex.Library Decodex.Source.Core

def manifestVersion : UInt32 := 1
def currentVersion : UInt32 := 1
def maxManifestBytes : Nat := 4 * 1024 * 1024
def maxGenerations : Nat := 128
def maxObjects : Nat := 16384
def maxBytes : Nat := 512 * 1024 * 1024

inductive CacheError where
  | invalidLimits | invalidAuthority | foreignArtifact | crashRemnant | invalidMetadata
  | integrityMismatch | authorityMismatch | boundsExceeded | conflictingObject
  | unknownResolution | generationNotFound | currentGeneration | orphanGeneration
  | sequenceExhausted
  | io (kind : Errno)
  deriving DecidableEq, Repr

def refuse (error : CacheError) (condition : Prop) [Decidable condition] :
    Except CacheError Unit :=
  if condition then .error error else .ok ()

/-- `ok_or`. -/
def require {α : Type} (error : CacheError) : Option α → Except CacheError α
  | some value => .ok value
  | none => .error error

structure CacheLimits where
  maxBytes : Nat
  maxObjects : Nat
  maxGenerations : Nat
  positive : 0 < maxBytes ∧ 0 < maxObjects ∧ 0 < maxGenerations
  bounded : maxBytes ≤ ClientCache.maxBytes ∧ maxObjects ≤ ClientCache.maxObjects ∧
    maxGenerations ≤ ClientCache.maxGenerations

structure Usage where
  bytes : Nat
  objects : Nat
  generations : Nat
  deriving DecidableEq, Repr

def Usage.none : Usage := ⟨0, 0, 0⟩

def CacheLimits.contains (limits : CacheLimits) (usage : Usage) : Bool :=
  usage.bytes ≤ limits.maxBytes && usage.objects ≤ limits.maxObjects &&
    usage.generations ≤ limits.maxGenerations

/-- `checked_add`, and `BoundsExceeded` for its `None`. -/
def checkedAdd (left right : Nat) : Except CacheError Nat :=
  if left + right < 2 ^ 64 then .ok (left + right) else .error .boundsExceeded

/-- `checked_sub`, and `InvalidMetadata` for its `None`. -/
def checkedSub (left right : Nat) : Except CacheError Nat :=
  if right ≤ left then .ok (left - right) else .error .invalidMetadata

def Usage.checkedAdd (usage other : Usage) : Except CacheError Usage := do
  let bytes ← ClientCache.checkedAdd usage.bytes other.bytes
  let objects ← ClientCache.checkedAdd usage.objects other.objects
  let generations ← ClientCache.checkedAdd usage.generations other.generations
  .ok ⟨bytes, objects, generations⟩

def Usage.checkedSub (usage other : Usage) : Except CacheError Usage := do
  let bytes ← ClientCache.checkedSub usage.bytes other.bytes
  let objects ← ClientCache.checkedSub usage.objects other.objects
  let generations ← ClientCache.checkedSub usage.generations other.generations
  .ok ⟨bytes, objects, generations⟩

/-- The server, the protocol and the schema of a generation. -/
structure CacheAuthority where
  serverId : ServerId
  protocolMajor : UInt16
  protocolMinor : UInt16
  schemaGeneration : UInt64
  positive : schemaGeneration ≠ 0
  deriving DecidableEq

inductive ObjectCertainty where
  | authoritative | uncertain
  deriving DecidableEq, Repr

structure ObjectRecord where
  entityId : String
  revision : UInt64
  sha256 : String
  byteLength : Nat
  certainty : ObjectCertainty
  deriving DecidableEq

structure Manifest where
  version : UInt32
  sequence : Nat
  authority : CacheAuthority
  objects : List ObjectRecord
  deriving DecidableEq

/-- The values that fit the `u64` fields. -/
def Manifest.Fits (manifest : Manifest) : Prop :=
  manifest.sequence < 2 ^ 64 ∧ ∀ record ∈ manifest.objects, record.byteLength < 2 ^ 64

/-- `usage` is skipped in the file, and set when it is read. -/
structure CurrentPointer where
  version : UInt32
  generation : String
  usage : Usage
  deriving DecidableEq

/-- What the cache takes from outside: SHA-256 and the JSON codecs. -/
structure ClientCacheHost where
  sha256 : List UInt8 → BlobHash
  manifestJson : JsonCodec Manifest
  currentJson : JsonCodec CurrentPointer

/-- `serde_json` reads back what it has written. -/
structure ClientCacheHost.RoundTrips (host : ClientCacheHost) : Prop where
  manifest : host.manifestJson.RoundTrips Manifest.Fits
  current : host.currentJson.RoundTrips fun pointer => pointer.usage = Usage.none

def sha256Hex (host : ClientCacheHost) (bytes : List UInt8) : String := (host.sha256 bytes).toHex

def validateDigest (value : String) : Except CacheError Unit :=
  refuse .invalidMetadata (isSha256 value = false)

/-- A directory under `generations`, or the one under `.staging`. -/
structure GenerationDirectory where
  manifest : Option (List UInt8)
  objects : AList fun _ : String => List UInt8

/-- The root directory of a cache. -/
structure CacheRoot where
  generations : AList fun _ : String => GenerationDirectory
  current : Option (List UInt8)
  currentNext : Option (List UInt8)
  staging : Option GenerationDirectory
  writerLock : Bool

/-- The entries of a directory in the order of their names, at most `limit` of them. -/
def boundedEntries {α : Type} (directory : AList fun _ : String => α) (limit : Nat) :
    Except CacheError (List (Sigma fun _ : String => α)) :=
  if directory.entries.length > limit then .error .boundsExceeded
  else .ok (directory.entries.insertionSort fun left right => left.1 ≤ right.1)

def validateRootShape (root : CacheRoot) (allowWriter : Bool) : Except CacheError Unit :=
  refuse .crashRemnant (root.currentNext.isSome ∨ root.staging.isSome ∨
    (root.writerLock ∧ allowWriter = false))

def readBounded (bytes : List UInt8) (limit : Nat) : Except CacheError (List UInt8) :=
  if bytes.length > limit then .error .invalidMetadata else .ok bytes

def readPointer (host : ClientCacheHost) (maximum : Nat) (bytes : List UInt8) :
    Except CacheError CurrentPointer := do
  refuse .boundsExceeded (bytes.length > maximum)
  let bytes ← readBounded bytes maxManifestBytes
  let pointer ← require .invalidMetadata (host.currentJson.fromSlice bytes)
  refuse .invalidMetadata (pointer.version ≠ currentVersion)
  validateDigest pointer.generation
  .ok { pointer with usage := ⟨bytes.length, 0, 0⟩ }

def readOptionalCurrent (host : ClientCacheHost) (root : CacheRoot) (maximum : Nat) :
    Except CacheError (Option CurrentPointer) :=
  match root.current with
  | none => .ok none
  | some bytes => (readPointer host maximum bytes).map some

def readCurrent (host : ClientCacheHost) (root : CacheRoot) (maximum : Nat) :
    Except CacheError CurrentPointer := do
  require .invalidMetadata (← readOptionalCurrent host root maximum)

/-- The set, the map and the sum of the `validate_manifest_records` loop. -/
structure RecordTally where
  keys : List (String × UInt64)
  contentLengths : AList fun _ : String => Nat
  recordedBytes : Nat

/-- `EntityId::new`. -/
def entityIdIsBounded (value : String) : Bool := value.utf8ByteSize ≤ 4096

/-- The `match` on the length that is recorded for the digest. -/
def recordLength (limits : CacheLimits) (tally : RecordTally) (object : ObjectRecord) :
    Except CacheError RecordTally :=
  match tally.contentLengths.lookup object.sha256 with
  | some length => do
    refuse .invalidMetadata (length ≠ object.byteLength)
    .ok { tally with keys := (object.entityId, object.revision) :: tally.keys }
  | none => do
    let recorded ← checkedAdd tally.recordedBytes object.byteLength
    refuse .boundsExceeded (recorded > limits.maxBytes)
    .ok ⟨(object.entityId, object.revision) :: tally.keys,
      tally.contentLengths.insert object.sha256 object.byteLength, recorded⟩

/-- Equal keys of records are found by their comparison. -/
instance lawfulRecordKey : LawfulBEq (String × UInt64) := inferInstance

def validateRecord (limits : CacheLimits) (tally : RecordTally) (object : ObjectRecord) :
    Except CacheError RecordTally := do
  refuse .invalidMetadata (entityIdIsBounded object.entityId = false)
  validateDigest object.sha256
  refuse .boundsExceeded (object.byteLength > limits.maxBytes)
  refuse .invalidMetadata ((object.entityId, object.revision) ∈ tally.keys)
  recordLength limits tally object

/-- The length of each content object, and their sum. -/
def validateManifestRecords (limits : CacheLimits) (manifest : Manifest) :
    Except CacheError RecordTally := do
  refuse .invalidMetadata (manifest.sequence = 0)
  refuse .boundsExceeded (manifest.objects.length > maxObjects)
  let tally ← manifest.objects.foldlM (validateRecord limits) ⟨[], ∅, 0⟩
  refuse .boundsExceeded (tally.contentLengths.entries.length > limits.maxObjects)
  .ok tally

/-- A content object with the length that the manifest records for it. -/
structure PreflightObject where
  content : List UInt8
  digest : String
  expectedLength : Nat

structure PreflightGeneration where
  id : String
  manifest : Manifest
  usage : Usage
  payloadBytes : Nat
  objects : List PreflightObject

/-- One round of the loop over the content objects. -/
def preflightObject (limits : CacheLimits) (expected : AList fun _ : String => Nat)
    (found : Nat × List PreflightObject) (entry : Sigma fun _ : String => List UInt8) :
    Except CacheError (Nat × List PreflightObject) := do
  let expectedLength ← require .foreignArtifact (expected.lookup entry.1)
  refuse .boundsExceeded (entry.2.length > limits.maxBytes)
  refuse .integrityMismatch (entry.2.length ≠ expectedLength)
  let payload ← checkedAdd found.1 entry.2.length
  refuse .boundsExceeded (payload > limits.maxBytes)
  .ok (payload, found.2 ++ [⟨entry.2, entry.1, expectedLength⟩])

/-- The manifest file of a generation that carries the name `id`. -/
def readManifest (host : ClientCacheHost) (limits : CacheLimits) (id : String)
    (directory : GenerationDirectory) : Except CacheError (List UInt8 × Manifest) := do
  let bytes ← require .foreignArtifact directory.manifest
  refuse .boundsExceeded (bytes.length > limits.maxBytes)
  let bytes ← readBounded bytes maxManifestBytes
  refuse .integrityMismatch (sha256Hex host bytes ≠ id)
  let manifest ← require .invalidMetadata (host.manifestJson.fromSlice bytes)
  refuse .invalidMetadata (manifest.version ≠ manifestVersion)
  .ok (bytes, manifest)

def preflightGeneration (host : ClientCacheHost) (limits : CacheLimits) (id : String)
    (directory : GenerationDirectory) : Except CacheError PreflightGeneration := do
  let (bytes, manifest) ← readManifest host limits id directory
  let tally ← validateManifestRecords limits manifest
  let entryLimit ← checkedAdd limits.maxObjects 1
  let entries ← boundedEntries directory.objects entryLimit
  refuse .boundsExceeded (entries.length > limits.maxObjects)
  refuse .integrityMismatch (entries.length ≠ tally.contentLengths.entries.length)
  let (payload, objects) ← entries.foldlM (preflightObject limits tally.contentLengths) (0, [])
  refuse .integrityMismatch (payload ≠ tally.recordedBytes)
  let total ← checkedAdd payload bytes.length
  .ok ⟨id, manifest, ⟨total, tally.contentLengths.entries.length, 1⟩, payload, objects⟩

structure VerifiedGeneration where
  id : String
  manifest : Manifest
  usage : Usage
  payloadBytes : Nat
  physicalObjects : Nat

def verifyFile (host : ClientCacheHost) (maximum : Nat) (object : PreflightObject) :
    Except CacheError Unit := do
  refuse .boundsExceeded (object.expectedLength > maximum)
  refuse .boundsExceeded (object.content.length > maximum)
  refuse .integrityMismatch (object.content.length ≠ object.expectedLength)
  refuse .integrityMismatch (sha256Hex host object.content ≠ object.digest)

def PreflightGeneration.verify (host : ClientCacheHost) (maximum : Nat)
    (generation : PreflightGeneration) : Except CacheError VerifiedGeneration := do
  generation.objects.forM (verifyFile host maximum)
  .ok ⟨generation.id, generation.manifest, generation.usage, generation.payloadBytes,
    generation.objects.length⟩

def validateCurrentRelation (current : Option CurrentPointer)
    (generations : List PreflightGeneration) : Except CacheError Unit :=
  match current with
  | none => refuse .orphanGeneration (generations.isEmpty = false)
  | some pointer => do
    let named ← require .invalidMetadata (generations.find? (·.id = pointer.generation))
    refuse .orphanGeneration (∃ generation ∈ generations,
      named.manifest.sequence < generation.manifest.sequence)

structure Inventory where
  current : Option CurrentPointer
  generations : List VerifiedGeneration
  usage : Usage

def Inventory.currentGeneration (inventory : Inventory) : Option VerifiedGeneration :=
  inventory.current.bind fun pointer =>
    inventory.generations.find? (·.id = pointer.generation)

/-- One round of the loop over the generation directories. -/
def readEntry (host : ClientCacheHost) (limits : CacheLimits)
    (found : Usage × List PreflightGeneration)
    (entry : Sigma fun _ : String => GenerationDirectory) :
    Except CacheError (Usage × List PreflightGeneration) := do
  validateDigest entry.1
  let generation ← preflightGeneration host limits entry.1 entry.2
  let usage ← found.1.checkedAdd generation.usage
  refuse .boundsExceeded (limits.contains usage = false)
  .ok (usage, found.2 ++ [generation])

/-- The order of `sort_by` on the sequence, then on the name. -/
def PublishedBefore (left right : PreflightGeneration) : Prop :=
  left.manifest.sequence < right.manifest.sequence ∨
    (left.manifest.sequence = right.manifest.sequence ∧ left.id ≤ right.id)

instance publishedBeforeDecidable : DecidableRel PublishedBefore := fun left right =>
  inferInstanceAs (Decidable (left.manifest.sequence < right.manifest.sequence ∨
    (left.manifest.sequence = right.manifest.sequence ∧ left.id ≤ right.id)))

/-- `read_inventory_inner`. -/
def readInventory (host : ClientCacheHost) (limits : CacheLimits) (root : CacheRoot)
    (allowWriter : Bool) : Except CacheError Inventory := do
  validateRootShape root allowWriter
  let current ← readOptionalCurrent host root limits.maxBytes
  let entryLimit ← checkedAdd limits.maxGenerations 1
  let entries ← boundedEntries root.generations entryLimit
  refuse .boundsExceeded (entries.length > limits.maxGenerations)
  let pointerUsage := (current.map (·.usage)).getD Usage.none
  refuse .boundsExceeded (limits.contains pointerUsage = false)
  let (usage, preflight) ← entries.foldlM (readEntry host limits) (pointerUsage, [])
  let sorted := preflight.insertionSort PublishedBefore
  validateCurrentRelation current sorted
  let generations ← sorted.mapM (PreflightGeneration.verify host limits.maxBytes)
  .ok ⟨current, generations, usage⟩

def ensureWithinLimits (limits : CacheLimits) (inventory : Inventory) : Except CacheError Unit :=
  refuse .boundsExceeded (limits.contains inventory.usage = false)

/-- `open`, and `prepare_authority_switch` where `allowSwitch` is set, on a root that exists. -/
def openInner (host : ClientCacheHost) (limits : CacheLimits) (authority : CacheAuthority)
    (allowSwitch : Bool) (root : CacheRoot) : Except CacheError Unit := do
  validateRootShape root false
  let inventory ← readInventory host limits root false
  refuse .authorityMismatch (allowSwitch = false ∧
    ∃ current ∈ inventory.currentGeneration, current.manifest.authority ≠ authority)
  ensureWithinLimits limits inventory

structure GenerationInspection where
  generation : String
  sequence : Nat
  authority : CacheAuthority
  records : Nat
  physicalObjects : Nat
  uncertainRecords : Nat
  payloadBytes : Nat
  deriving DecidableEq

def VerifiedGeneration.inspection (generation : VerifiedGeneration) : GenerationInspection where
  generation := generation.id
  sequence := generation.manifest.sequence
  authority := generation.manifest.authority
  records := generation.manifest.objects.length
  physicalObjects := generation.physicalObjects
  uncertainRecords := (generation.manifest.objects.filter (·.certainty = .uncertain)).length
  payloadBytes := generation.payloadBytes

end Decodex.Source.Gpui.ClientCache
