import Decodex.Source.Gpui.CacheDirectory

/-!
# History page cache: opening, lookup and publication

Source: apps/decodex-gpui/src/history_pager/page_cache.rs:177-600 (`HistoryPageCache`) and
apps/decodex-gpui/src/history_pager.rs:649-711, 1785-1800 (the order in which a publication
uses it, and when the cache is disabled). The parent path and its ancestors are left out: the
directory is found where it was. The descriptors of a cache are the directory itself.
-/
namespace Decodex.Source.Gpui

open Decodex.Library

structure HistoryPageCache where
  index : CacheIndex
  hitRecency : List (PageIdentity × UInt64)
  nextRecency : Option UInt64
  deriving DecidableEq

structure CacheHit (host : CacheHost) where
  identity : PageIdentity
  page : ConversationHistoryPage host.Item
  freshReceivedAtUnixSeconds : Int64

inductive CacheLookup (host : CacheHost) where
  | hit (hit : CacheHit host)
  | miss (diagnostic : CacheDiagnostic)
  | failure (failure : CacheFailure)

structure PreparedCachePublication where
  candidate : CacheIndex
  followingRecency : UInt64
  createdPageDigest : Option String
  reinitialized : Bool
  deriving DecidableEq

structure CommittedCachePublication where
  reinitialized : Bool
  deriving DecidableEq

inductive CachePublishResult where
  | published | reinitialized
  deriving DecidableEq, Repr

/-- `HistoryPageCache::open`. -/
def openCache (host : CacheHost) (schemaGeneration : UInt32) : CacheScript HistoryPageCache := do
  reading fun _ => refuse .incompatibleSchema (schemaGeneration ≠ cacheSchemaGeneration)
  openOrCreateDirectoryAt host .root
  openOrCreateLock host
  reading fun d => do
    validateDirectory host d .root
    validateLock host d none
    validateDirectoryEntries d .root
  openOrCreateDirectoryAt host .pages
  reading fun d => do
    validateDirectory host d .root
    validateDirectory host d .pages
    validateLock host d none
    validateDirectoryEntries d .root
    validateDirectoryEntries d .pages
  let state ← reading (loadValidatedCacheState host)
  pure
    { index := state.index
      hitRecency := []
      nextRecency := checkedSucc
        (state.index.entries.foldl (fun most entry => max most entry.recency) 0) }

/-- `lookup_inner`. -/
def lookupInner (host : CacheHost) (d : CacheDirectory) (cache : HistoryPageCache)
    (request : CacheRequest) (now : Int64) : Except CacheFailure (CacheLookup host) := do
  validateLock host d none
  validateDirectory host d .root
  validateDirectory host d .pages
  validateDirectoryEntries d .root
  validateDirectoryEntries d .pages
  match cache.index.entries.find? (entryMatchesRequest · request) with
  | none => .ok (.miss .notFound)
  | some entry =>
    if isFreshEligible entry.freshReceivedAtUnixSeconds now = false then .ok (.miss .ineligible)
    else do
      let (page, metadata) ← readValidatedPage host d entry.identity.pageSha256
      refuse .integrity (metadata.itemCount ≠ entry.itemCount.toNat ∨
        metadata.byteLength ≠ entry.byteLength.toNat)
      .ok (.hit ⟨entry.identity, page, entry.freshReceivedAtUnixSeconds⟩)

/-- `HistoryPageCache::lookup`. -/
def lookupPage (host : CacheHost) (d : CacheDirectory) (cache : HistoryPageCache)
    (request : CacheRequest) (now : Int64) : CacheLookup host :=
  match validateRequest request with
  | .error failure => .failure failure
  | .ok () =>
    if now.toInt < 0 then .failure ⟨.invalidInput⟩
    else
      match lookupInner host d cache request now with
      | .ok found => found
      | .error failure => .failure failure

/-- `self.hit_recency` with the new recency of one identity. -/
def putHitRecency (identity : PageIdentity) (recency : UInt64) :
    List (PageIdentity × UInt64) → List (PageIdentity × UInt64)
  | [] => [(identity, recency)]
  | (held, old) :: rest =>
    if held = identity then (held, recency) :: rest
    else (held, old) :: putHitRecency identity recency rest

def recordHitRecency (cache : HistoryPageCache) (identity : PageIdentity) :
    Except CacheFailure HistoryPageCache :=
  if ∀ entry ∈ cache.index.entries, entry.identity ≠ identity then .error ⟨.integrity⟩
  else
    match cache.nextRecency.bind fun recency => (checkedSucc recency).map (recency, ·) with
    | none => .error ⟨.recencyExhausted⟩
    | some (recency, nextRecency) =>
      .ok
        { cache with
          nextRecency := some nextRecency
          hitRecency := putHitRecency identity recency cache.hitRecency }

/-- The index a publication starts from, the recency of the new entry and the one after it. A
counter that is exhausted empties the index. -/
def candidateBase (cache : HistoryPageCache) (index : CacheIndex) :
    CacheIndex × UInt64 × UInt64 × Bool :=
  match cache.nextRecency.bind fun recency => (checkedSucc recency).map (recency, ·) with
  | none => (.empty, 1, 2, true)
  | some (newRecency, followingRecency) =>
    (mergeHitRecencies index cache.hitRecency, newRecency, followingRecency, false)

/-- The candidate index: the base without the old entry of the request, and the new entry. -/
def withEntry (base : CacheIndex) (request : CacheRequest) (entry : IndexEntry) : CacheIndex :=
  { base with
    entries := (base.entries.filter fun held => !entryMatchesRequest held request) ++ [entry] }

/-- The new index entry of `prepare_publication_with_faults`, with its checked widths. -/
def newEntry (request : CacheRequest) (itemCount byteLength : Nat) (digest : String)
    (freshReceivedAt : Int64) (recency : UInt64) : Except CacheFailure IndexEntry := do
  refuse .bounds (255 < itemCount)
  refuse .bounds (2 ^ 32 ≤ byteLength)
  .ok
    { identity := ⟨request.authority, request.conversationId, request.requestKey, digest⟩
      freshReceivedAtUnixSeconds := freshReceivedAt
      recency
      itemCount := UInt8.ofNat itemCount
      byteLength := UInt32.ofNat byteLength }

/-- `candidate_pages.insert`. -/
def insertPageFile (digest : String) (file : ValidatedPageFile) (pageFiles : PageFiles) :
    PageFiles :=
  (digest, file) :: pageFiles.filter fun held => !decide (held.1 = digest)

/-- The bytes once a page is added that is not there yet. -/
def addUnless (present : Bool) (physicalBytes length : Nat) : Except CacheFailure Nat :=
  if present then .ok physicalBytes else checkedAdd physicalBytes length

/-- The candidate index of a publication with its bytes, checked against the pages that will
be there and against the physical bound at its two peaks. -/
def planPublication (host : CacheHost) (cache : HistoryPageCache) (state : ValidatedCacheState)
    (request : CacheRequest) (page : ConversationHistoryPage host.Item) (freshReceivedAt : Int64)
    (pageBytes : List UInt8) (digest : String) :
    Except CacheFailure (CacheIndex × List UInt8 × UInt64 × Bool × Bool) := do
  let (base, newRecency, followingRecency, reinitialized) := candidateBase cache state.index
  let entry ← newEntry request page.items.length pageBytes.length digest freshReceivedAt newRecency
  let candidate ← evictToBounds host (withEntry base request entry) freshReceivedAt
  refuse .bounds (∀ entry ∈ candidate.entries, ¬(entryMatchesRequest entry request = true ∧
    entry.identity.pageSha256 = digest ∧ entry.freshReceivedAtUnixSeconds = freshReceivedAt))
  validateIndex candidate
    (insertPageFile digest ⟨pageBytes.length, page.items.length⟩ state.inventory.pageFiles)
  let indexBytes ← serializeIndex host candidate
  let pageExists := (state.inventory.pageFiles.lookup digest).isSome
  let afterPage ← addUnless pageExists state.inventory.physicalBytes pageBytes.length
  let pagePublishPeak ← addUnless pageExists afterPage pageBytes.length
  let indexStagePeak ← checkedAdd afterPage indexBytes.length
  refuse .bounds (maxPhysicalBytes < pagePublishPeak ∨ maxPhysicalBytes < indexStagePeak)
  .ok (candidate, indexBytes, followingRecency, reinitialized, pageExists)

/-- The page of a publication, created unless its file exists. -/
def placePage (host : CacheHost) (kernel : Kernel) (digest : String) (pageBytes : List UInt8)
    (pageExists : Bool) : CacheScript Bool :=
  if pageExists then do
    reading fun d => verifyPageTarget host d digest pageBytes
    pure false
  else publishPage host kernel digest pageBytes

def preparePublicationWithFaults (host : CacheHost) (kernel : Kernel) (cache : HistoryPageCache)
    (request : CacheRequest) (page : ConversationHistoryPage host.Item) (freshReceivedAt : Int64)
    (pageBytes : List UInt8) (digest : String) : CacheScript PreparedCachePublication := do
  let state ← reading (loadValidatedCacheState host)
  reading fun _ => refuse .integrity (state.index ≠ cache.index)
  let state ← cleanKnownRemnants host kernel state
  let (candidate, indexBytes, followingRecency, reinitialized, pageExists) ← reading fun _ =>
    planPublication host cache state request page freshReceivedAt pageBytes digest
  let createdPage ← placePage host kernel digest pageBytes pageExists
  stageIndex host kernel indexBytes
  pure
    { candidate
      followingRecency
      createdPageDigest := if createdPage then some digest else none
      reinitialized }

def preparePublication (host : CacheHost) (kernel : Kernel) (cache : HistoryPageCache)
    (request : CacheRequest) (page : ConversationHistoryPage host.Item)
    (freshReceivedAt : Int64) : CacheScript PreparedCachePublication := do
  let (pageBytes, digest) ← reading fun _ => do
    validateRequest request
    refuse .invalidInput (freshReceivedAt.toInt < 0)
    pageBytesAndDigest host page
  preparePublicationWithFaults host kernel cache request page freshReceivedAt pageBytes digest

/-- `commit_publication`: a failure hands the prepared publication back. -/
def commitPublication (kernel : Kernel) (prepared : PreparedCachePublication) :
    Script Call CacheDirectory (PreparedCachePublication × CacheFailure)
      (HistoryPageCache × CommittedCachePublication) := do
  let renamed ← Script.attempt do
    check kernel .indexPublish
    renameAt indexStagePlace indexPlace
  match renamed with
  | .error failure => Script.fail (prepared, failure)
  | .ok () =>
    pure (⟨prepared.candidate, [], some prepared.followingRecency⟩, ⟨prepared.reinitialized⟩)

def finishPublication (host : CacheHost) (kernel : Kernel) (cache : HistoryPageCache)
    (committed : CommittedCachePublication) : CacheScript CachePublishResult := do
  check kernel .rootSync
  syncFile
  let published ← reading (loadValidatedCacheState host)
  reading fun _ => refuse .integrity (published.index ≠ cache.index)
  let cleaned ← cleanNewlyUnreferencedPages host kernel published
  reading fun _ => refuse .integrity (cleaned.index ≠ cache.index)
  pure (if committed.reinitialized then .reinitialized else .published)

/-- The page that a discarded publication has created. -/
def discardPage (cache : HistoryPageCache) : Option String → CacheScript Bool
  | none => pure false
  | some digest => do
    reading fun _ => refuse .integrity (digest ∈ referencedDigests cache.index)
    unlinkAt (pagePlace digest)
    pure true

def discardPreparedPublication (host : CacheHost) (kernel : Kernel) (cache : HistoryPageCache)
    (prepared : PreparedCachePublication) : CacheScript Unit := do
  unlinkAt indexStagePlace
  let removedPage ← discardPage cache prepared.createdPageDigest
  check kernel .cleanupSync
  syncFile
  syncChanged kernel removedPage
  let discarded ← reading (loadValidatedCacheState host)
  reading fun _ => refuse .integrity (discarded.index ≠ cache.index ∨
    discarded.inventory.indexStagePresent ∨ discarded.inventory.pageStagePresent ∨
    (prepared.createdPageDigest.any fun digest =>
      (discarded.inventory.pageFiles.lookup digest).isSome) = true)

/-- `Result::err`. -/
def failureOf {α : Type} : Except CacheFailure α → Option CacheFailure
  | .ok _ => none
  | .error failure => some failure

/-- `publish_fresh_page`, with the cache as it stands after it and the failure that disables
it, if any. A publication that the view no longer waits for is `stale`. -/
def publishFreshPage (host : CacheHost) (kernel : Kernel) (cache : HistoryPageCache)
    (request : CacheRequest) (page : ConversationHistoryPage host.Item) (freshReceivedAt : Int64)
    (stale : Bool) : CacheScript (HistoryPageCache × Option CacheFailure) := do
  let prepared ← Script.attempt (preparePublication host kernel cache request page freshReceivedAt)
  match prepared with
  | .error failure => pure (cache, some failure)
  | .ok prepared =>
    if stale then do
      let discarded ← Script.attempt (discardPreparedPublication host kernel cache prepared)
      pure (cache, failureOf discarded)
    else do
      let committed ← Script.attempt (commitPublication kernel prepared)
      match committed with
      | .error (prepared, failure) => do
        let discarded ← Script.attempt (discardPreparedPublication host kernel cache prepared)
        pure (cache, some ((failureOf discarded).getD failure))
      | .ok (cache, committed) => do
        let finished ← Script.attempt (finishPublication host kernel cache committed)
        pure (cache, failureOf finished)

end Decodex.Source.Gpui
