import Decodex.Library.FileSystem
import Decodex.Library.Script
import Decodex.Source.Gpui.CacheIndex

/-!
# History page cache: the directory and its calls

Source: apps/decodex-gpui/src/history_pager/page_cache.rs:29-42 (names and modes), 108-123,
683-776 (reading), 954-1011 (page files), 1187-1446 (cleaning, staging, shape), 1545-1820
(calls and file checks). Only the cache makes files here, so a name of the volume is a regular
file and `pages` is the one directory inside the root. Interrupted calls are retried until
they end; the only way a call fails is that its name exists or is missing. The advisory lock
keeps a second process out and goes with its holder.
-/
namespace Decodex.Source.Gpui

open Decodex.Library Decodex.Source.Core

def privateDirectoryMode : Nat := 0o700
def privateFileMode : Nat := 0o600

inductive DirectoryShape where
  | root | pages
  deriving DecidableEq, Repr

/-- A name in one of the two directories. -/
structure Place where
  directory : DirectoryShape
  name : String
  deriving DecidableEq, Repr

def lockName : String := "lock"
def indexName : String := "index"
def indexStageName : String := ".index.next"
def pagesDirectoryName : String := "pages"
def pageStageName : String := ".page.next"

def lockPlace : Place := ⟨.root, lockName⟩
def indexPlace : Place := ⟨.root, indexName⟩
def indexStagePlace : Place := ⟨.root, indexStageName⟩
def pageStagePlace : Place := ⟨.pages, pageStageName⟩
def pagePlace (digest : String) : Place := ⟨.pages, digest⟩

structure DirectoryStatus where
  owner : Nat
  mode : Nat
  deriving DecidableEq, Repr

/-- The directory `history-page-cache-v1`, its `pages` and the files of both. -/
structure CacheDirectory where
  root : Option DirectoryStatus
  pages : Option DirectoryStatus
  files : Volume Place

/-- The calls that change the directory or wait for the disk. -/
inductive Call where
  | makeDirectory | create | write | sync | link | unlink | rename
  deriving DecidableEq, Repr

abbrev CacheScript (α : Type) : Type := Script Call CacheDirectory CacheFailure α

def ioFailure : CacheFailure := ⟨.filesystem⟩

inductive DurabilityEdge where
  | pageStageSync | pagePublish | pagesSync | indexStageSync | indexPublish | rootSync
  | cleanupSync
  deriving DecidableEq, Repr

/-- What two publications of one page may differ in: the injected faults, and how many bytes
past the first each `pwrite` takes before the last one takes the rest. -/
structure Kernel where
  faults : DurabilityEdge → Except CacheFailure Unit
  pageWrites : List Nat
  indexWrites : List Nat

/-- `NoFaults`, with whole writes. -/
def noFaults : Kernel := ⟨fun _ => .ok (), [], []⟩

namespace CacheDirectory

def absent : CacheDirectory := ⟨none, none, .empty⟩

def status (d : CacheDirectory) : DirectoryShape → Option DirectoryStatus
  | .root => d.root
  | .pages => d.pages

def makeDirectory (d : CacheDirectory) (made : DirectoryStatus) : DirectoryShape → CacheDirectory
  | .root => { d with root := some made }
  | .pages => { d with pages := some made }

/-- What `readdir` lists. -/
def names (d : CacheDirectory) (shape : DirectoryShape) : List String :=
  ((d.files.names.filter fun place => place.directory = shape).map (·.name)) ++
    if shape = .root ∧ d.pages.isSome then [pagesDirectoryName] else []

end CacheDirectory

def validateDirectory (host : CacheHost) (d : CacheDirectory) (shape : DirectoryShape) :
    Except CacheFailure Unit :=
  match d.status shape with
  | none => .error ioFailure
  | some status => refuse .unsafeShape
      (status.owner ≠ host.effectiveUid ∨ status.mode ≠ privateDirectoryMode)

def validateRegularFile (host : CacheHost) (status : FileStatus) (maxLength : Option Nat) :
    Except CacheFailure Unit :=
  refuse .unsafeShape (status.owner ≠ host.effectiveUid ∨ status.mode ≠ privateFileMode ∨
    status.links ≠ 1 ∨ (maxLength.any fun maximum => maximum < status.content.length) = true)

def openFileAt (d : CacheDirectory) (place : Place) : Except CacheFailure FileStatus :=
  match d.files.stat place with
  | none => .error ioFailure
  | some status => .ok status

def validateLock (host : CacheHost) (d : CacheDirectory) (maxLength : Option Nat) :
    Except CacheFailure Unit := do
  let lock ← openFileAt d lockPlace
  validateRegularFile host lock maxLength

def directoryNameIsKnown (shape : DirectoryShape) (name : String) : Bool :=
  match shape with
  | .root => [lockName, indexName, indexStageName, pagesDirectoryName].contains name
  | .pages => name == pageStageName || isDigestName name

def maximumNames : DirectoryShape → Nat
  | .root => 4
  | .pages => maxPhysicalPageNames

/-- `validated_directory_names`; the names are sorted as byte strings. -/
def validatedDirectoryNames (d : CacheDirectory) (shape : DirectoryShape) :
    Except CacheFailure (List String) := do
  let names ← (d.names shape).foldlM (fun names name =>
    if directoryNameIsKnown shape name = false then .error ⟨.unsafeShape⟩
    else if names.length = maximumNames shape then .error ⟨.bounds⟩
    else .ok (names ++ [name])) []
  .ok (names.insertionSort fun left right => utf8 left ≤ utf8 right)

/-- `validate_directory_entries`. -/
def validateDirectoryEntries (d : CacheDirectory) (shape : DirectoryShape) :
    Except CacheFailure Unit := do
  let _ ← validatedDirectoryNames d shape
  .ok ()

def readBounded (status : FileStatus) (maximum : Nat) : Except CacheFailure (List UInt8) :=
  if maximum < status.content.length then .error ⟨.bounds⟩ else .ok status.content

/-- The index, its bytes and whether the file is present. -/
def readIndex (host : CacheHost) (d : CacheDirectory) :
    Except CacheFailure (CacheIndex × Nat × Bool) :=
  match d.files.stat indexPlace with
  | none => .ok (.empty, 0, false)
  | some file => do
    validateRegularFile host file (some maxIndexBytes)
    let bytes ← readBounded file maxIndexBytes
    match host.indexJson.fromSlice bytes with
    | none => .error ⟨.integrity⟩
    | some index => do
      refuse .incompatibleSchema (index.schemaId ≠ cacheSchemaId)
      let serialized ← serializeIndex host index
      refuse .integrity (serialized ≠ bytes)
      .ok (index, bytes.length, true)

def validatedFileLength (host : CacheHost) (d : CacheDirectory) (place : Place) (maximum : Nat) :
    Except CacheFailure Nat := do
  let file ← openFileAt d place
  validateRegularFile host file (some maximum)
  .ok file.content.length

/-- The bytes of a page file. -/
def readPageBytes (host : CacheHost) (digest : String) (bytes : List UInt8) :
    Except CacheFailure (ConversationHistoryPage host.Item × ValidatedPageFile) := do
  refuse .integrity (bytes = [] ∨ sha256Hex host bytes ≠ digest)
  match host.pageJson.fromSlice bytes with
  | none => .error ⟨.integrity⟩
  | some page => do
    let (canonical, canonicalDigest) ←
      (pageBytesAndDigest host page).mapError fun _ => ⟨.integrity⟩
    refuse .integrity (canonical ≠ bytes ∨ canonicalDigest ≠ digest)
    .ok (page, ⟨bytes.length, page.items.length⟩)

def readValidatedPage (host : CacheHost) (d : CacheDirectory) (digest : String) :
    Except CacheFailure (ConversationHistoryPage host.Item × ValidatedPageFile) := do
  refuse .integrity (isDigestName digest = false)
  let file ← openFileAt d (pagePlace digest)
  validateRegularFile host file (some maxPageBytes)
  let bytes ← readBounded file maxPageBytes
  readPageBytes host digest bytes

def verifyPageTarget (host : CacheHost) (d : CacheDirectory) (digest : String)
    (expected : List UInt8) : Except CacheFailure Unit := do
  let (page, metadata) ← readValidatedPage host d digest
  refuse .integrity
    (host.pageJson.toVec page ≠ expected ∨ metadata.byteLength ≠ expected.length)

structure CacheInventory where
  pageFiles : PageFiles
  physicalBytes : Nat
  indexStagePresent : Bool
  pageStagePresent : Bool

structure ValidatedCacheState where
  index : CacheIndex
  inventory : CacheInventory

/-- The loop over the sorted page names. -/
def loadPages (host : CacheHost) (d : CacheDirectory) :
    List String → Nat → Except CacheFailure (PageFiles × Nat)
  | [], physicalBytes => .ok ([], physicalBytes)
  | name :: names, physicalBytes =>
    if name = pageStageName then loadPages host d names physicalBytes
    else do
      let (_, metadata) ← readValidatedPage host d name
      let physicalBytes ← checkedAdd physicalBytes metadata.byteLength
      let (pageFiles, physicalBytes) ← loadPages host d names physicalBytes
      .ok ((name, metadata) :: pageFiles, physicalBytes)

def addStage (host : CacheHost) (d : CacheDirectory) (present : Bool) (place : Place)
    (maximum physicalBytes : Nat) : Except CacheFailure Nat :=
  if present then do
    let length ← validatedFileLength host d place maximum
    checkedAdd physicalBytes length
  else .ok physicalBytes

def loadValidatedCacheState (host : CacheHost) (d : CacheDirectory) :
    Except CacheFailure ValidatedCacheState := do
  validateDirectory host d .root
  validateDirectory host d .pages
  validateLock host d (some 0)
  let rootNames ← validatedDirectoryNames d .root
  let pageNames ← validatedDirectoryNames d .pages
  refuse .integrity (lockName ∉ rootNames ∨ pagesDirectoryName ∉ rootNames)
  let (index, indexBytes, indexPresent) ← readIndex host d
  refuse .integrity (decide (indexName ∈ rootNames) ≠ indexPresent)
  let indexStagePresent := decide (indexStageName ∈ rootNames)
  let pageStagePresent := decide (pageStageName ∈ pageNames)
  let physicalBytes ←
    addStage host d indexStagePresent indexStagePlace maxIndexBytes indexBytes
  let physicalBytes ←
    addStage host d pageStagePresent pageStagePlace maxPageBytes physicalBytes
  let (pageFiles, physicalBytes) ← loadPages host d pageNames physicalBytes
  refuse .bounds (maxPhysicalBytes < physicalBytes)
  validateIndex index pageFiles
  .ok ⟨index, ⟨pageFiles, physicalBytes, indexStagePresent, pageStagePresent⟩⟩

def check (kernel : Kernel) (edge : DurabilityEdge) : CacheScript Unit :=
  Script.observe fun _ => kernel.faults edge

/-- Read the directory, or fail on it. -/
def reading {α : Type} (look : CacheDirectory → Except CacheFailure α) : CacheScript α :=
  Script.observe look

def syncFile : CacheScript Unit := Script.step .sync fun d => .ok ((), d)

/-- `create_file_at` by `create_new_file_at`. The script goes on with the new inode. -/
def createNewFileAt (host : CacheHost) (place : Place) : CacheScript Nat := do
  let stage ← Script.step .create fun d =>
    match d.files.create place host.effectiveUid privateFileMode with
    | .ok (number, files) => .ok (number, { d with files })
    | .error _ => .error ⟨.integrity⟩
  reading fun d => validateRegularFile host (d.files.status stage) (some 0)
  pure stage

def writeAt (number offset : Nat) (bytes : List UInt8) : CacheScript Unit :=
  Script.step .write fun d => .ok ((), { d with files := d.files.pwrite number offset bytes })

/-- The `write_all` loop, from an offset on. -/
def writeAll (number : Nat) : List Nat → Nat → List UInt8 → CacheScript Unit
  | _, _, [] => pure ()
  | [], offset, bytes => writeAt number offset bytes
  | more :: writes, offset, bytes => do
    let written := bytes.take (more + 1)
    writeAt number offset written
    writeAll number writes (offset + written.length) (bytes.drop (more + 1))

def unlinkAt (place : Place) : CacheScript Unit :=
  Script.step .unlink fun d =>
    match d.files.unlink place with
    | .ok files => .ok ((), { d with files })
    | .error _ => .error ioFailure

/-- `link_create_only`: a target that exists is left alone. -/
def linkCreateOnly (source target : Place) : CacheScript Bool := do
  let taken ← reading fun d => .ok (decide (target ∈ d.files.names))
  if taken then pure false
  else Script.step .link fun d =>
    match d.files.link source target with
    | .ok files => .ok (true, { d with files })
    | .error _ => .error ioFailure

def renameAt (source target : Place) : CacheScript Unit :=
  Script.step .rename fun d =>
    match d.files.rename source target with
    | .ok files => .ok ((), { d with files })
    | .error _ => .error ioFailure

def openOrCreateDirectoryAt (host : CacheHost) (shape : DirectoryShape) : CacheScript Unit := do
  let created ← reading fun d => .ok (d.status shape).isNone
  Script.provided created (Script.step .makeDirectory fun d =>
    .ok ((), d.makeDirectory ⟨host.effectiveUid, privateDirectoryMode⟩ shape))
  reading fun d => validateDirectory host d shape
  Script.provided created syncFile

/-- `open_or_create_file_at` of the lock. -/
def openOrCreateLock (host : CacheHost) : CacheScript Unit := do
  let taken ← reading fun d => .ok (decide (lockPlace ∈ d.files.names))
  Script.provided (!taken) (Script.step .create fun d =>
    match d.files.create lockPlace host.effectiveUid privateFileMode with
    | .ok (_, files) => .ok ((), { d with files })
    | .error _ => .error ioFailure)
  reading fun d => validateLock host d (some 0)
  syncFile

/-- A new file with `bytes` in it, whole and synced: the start of `publish_page` and
`stage_index`. -/
def stageFile (host : CacheHost) (kernel : Kernel) (place : Place) (writes : List Nat)
    (edge : DurabilityEdge) (bytes : List UInt8) : CacheScript Unit := do
  let stage ← createNewFileAt host place
  writeAll stage writes 0 bytes
  reading fun d => do
    validateRegularFile host (d.files.status stage) (some bytes.length)
    refuse .integrity ((d.files.status stage).content.length ≠ bytes.length)
  check kernel edge
  syncFile

def publishPage (host : CacheHost) (kernel : Kernel) (digest : String) (bytes : List UInt8) :
    CacheScript Bool := do
  stageFile host kernel pageStagePlace kernel.pageWrites .pageStageSync bytes
  check kernel .pagePublish
  let created ← linkCreateOnly pageStagePlace (pagePlace digest)
  unlinkAt pageStagePlace
  reading fun d => verifyPageTarget host d digest bytes
  check kernel .pagesSync
  syncFile
  pure created

def stageIndex (host : CacheHost) (kernel : Kernel) (bytes : List UInt8) : CacheScript Unit :=
  stageFile host kernel indexStagePlace kernel.indexWrites .indexStageSync bytes

/-- The pages that the index does not reference. -/
def unreferencedPages (state : ValidatedCacheState) : List String :=
  (state.inventory.pageFiles.map (·.1)).filter fun digest =>
    !decide (digest ∈ referencedDigests state.index)

/-- Wait for a directory that has changed. -/
def syncChanged (kernel : Kernel) (changed : Bool) : CacheScript Unit :=
  Script.provided changed do
    check kernel .cleanupSync
    syncFile

def cleanKnownRemnants (host : CacheHost) (kernel : Kernel) (state : ValidatedCacheState) :
    CacheScript ValidatedCacheState := do
  Script.provided state.inventory.indexStagePresent (unlinkAt indexStagePlace)
  Script.provided state.inventory.pageStagePresent (unlinkAt pageStagePlace)
  (unreferencedPages state).forM fun digest => unlinkAt (pagePlace digest)
  syncChanged kernel state.inventory.indexStagePresent
  syncChanged kernel (state.inventory.pageStagePresent || !(unreferencedPages state).isEmpty)
  let cleaned ← reading (loadValidatedCacheState host)
  reading fun _ => refuse .integrity (cleaned.index ≠ state.index ∨
    cleaned.inventory.indexStagePresent ∨ cleaned.inventory.pageStagePresent ∨
    ∃ file ∈ cleaned.inventory.pageFiles, file.1 ∉ referencedDigests state.index)
  pure cleaned

def cleanNewlyUnreferencedPages (host : CacheHost) (kernel : Kernel)
    (state : ValidatedCacheState) : CacheScript ValidatedCacheState := do
  (unreferencedPages state).forM fun digest => unlinkAt (pagePlace digest)
  syncChanged kernel (!(unreferencedPages state).isEmpty)
  let cleaned ← reading (loadValidatedCacheState host)
  reading fun _ => refuse .integrity (cleaned.index ≠ state.index ∨
    ∃ file ∈ cleaned.inventory.pageFiles, file.1 ∉ referencedDigests state.index)
  pure cleaned

end Decodex.Source.Gpui
