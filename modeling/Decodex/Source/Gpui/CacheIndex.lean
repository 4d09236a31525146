import Mathlib.Data.List.Dedup
import Mathlib.Data.List.Sort
import Decodex.Source.Core.Blob
import Decodex.Source.Core.Identity

/-!
# History page cache: the index

Source: apps/decodex-gpui/src/history_pager/page_cache.rs:43-58 (bounds), 61-192 (keys,
requests, diagnostics), 631-676 (index and inventory), 778-952 (validation, sort keys),
1013-1185 (serialization, recencies, eviction), 1925-1952 (digests, freshness), and the wire
types of crates/decodex-protocol/src/wire.rs:66-80, 134-153, 188-200, 342-349, 630-636.
`serde_json` and SHA-256 are outside: `CacheHost` holds them, and the type of a history item,
which the cache only counts. `usize` has 64 bits. The texts of `CacheDiagnostic::as_str`
are only used by tests.
-/
namespace Decodex.Source.Gpui

open Decodex.Library Decodex.Source.Core

def cacheSchemaId : String := "decodex.gpui.history-page-cache/1"
def cacheSchemaGeneration : UInt32 := 1
def maxPageItems : Nat := 8
def maxPageBytes : Nat := 256 * 1024
def maxConversationPages : Nat := 4
def maxConversationItems : Nat := 32
def maxConversationBytes : Nat := 1024 * 1024
def maxCacheConversations : Nat := 8
def maxCachePages : Nat := 32
def maxCacheItems : Nat := 256
def maxCacheBytes : Nat := 8 * 1024 * 1024
def maxIndexBytes : Nat := 64 * 1024
def maxPhysicalBytes : Nat := 9 * 1024 * 1024
def maxPhysicalPageNames : Nat := maxCachePages * 2 + 1
def maxIdentityBytes : Nat := 4096
def maxCursorBytes : Nat := 128
def freshEligibilitySeconds : Int := 15 * 60

/-- `WireText`, at most `MAX_WIRE_TEXT_BYTES` long. -/
structure WireText where
  text : String
  bounded : text.utf8ByteSize ≤ 4096
  deriving DecidableEq

/-- `ServerId(String)`, made from a `WireText`. -/
abbrev ServerId := WireText

/-- `EntityId(String)`, made from a `WireText`. -/
abbrev EntityId := WireText

/-- `HistoryCursorToken(String)`. -/
structure HistoryCursorToken where
  text : String
  bounded : text.utf8ByteSize ≤ 128
  deriving DecidableEq

/-- `ConversationHistoryPage`, over its item type `HistoryItemDto`. -/
structure ConversationHistoryPage (Item : Type) where
  items : List Item
  nextCursor : Option HistoryCursorToken

inductive CacheRequestKey where
  | head
  | after (cursor : HistoryCursorToken)
  deriving DecidableEq

structure AuthorityIdentity where
  stableServerId : ServerId
  protocolMajor : UInt16
  protocolMinor : UInt16
  cacheSchemaGeneration : UInt32
  deriving DecidableEq

structure PageIdentity where
  authority : AuthorityIdentity
  conversationId : EntityId
  requestKey : CacheRequestKey
  pageSha256 : String
  deriving DecidableEq

structure IndexEntry where
  identity : PageIdentity
  freshReceivedAtUnixSeconds : Int64
  recency : UInt64
  itemCount : UInt8
  byteLength : UInt32
  deriving DecidableEq

structure CacheIndex where
  schemaId : String
  entries : List IndexEntry
  deriving DecidableEq

def CacheIndex.empty : CacheIndex := ⟨cacheSchemaId, []⟩

structure CacheRequest where
  authority : AuthorityIdentity
  conversationId : EntityId
  requestKey : CacheRequestKey
  deriving DecidableEq

structure ValidatedPageFile where
  byteLength : Nat
  itemCount : Nat
  deriving DecidableEq

/-- `BTreeMap<String, ValidatedPageFile>`, in the order of its digests. -/
abbrev PageFiles := List (String × ValidatedPageFile)

/-- `serde_json::to_vec` and `from_slice` at one type. -/
structure JsonCodec (α : Type) where
  toVec : α → List UInt8
  fromSlice : List UInt8 → Option α

/-- What is written is a text, and what may be written reads back. -/
structure JsonCodec.RoundTrips {α : Type} (codec : JsonCodec α) (written : α → Prop) : Prop where
  nonempty : ∀ value, codec.toVec value ≠ []
  reads : ∀ value, written value → codec.fromSlice (codec.toVec value) = some value

/-- What the cache takes from outside: its effective user, SHA-256 and the JSON codecs. -/
structure CacheHost where
  Item : Type
  effectiveUid : Nat
  sha256 : List UInt8 → BlobHash
  pageJson : JsonCodec (ConversationHistoryPage Item)
  indexJson : JsonCodec CacheIndex

/-- The page was decoded from a message of the server. -/
def CacheHost.Received (host : CacheHost) (page : ConversationHistoryPage host.Item) : Prop :=
  ∃ message, host.pageJson.fromSlice message = some page

/-- `serde_json` reads back each page that was decoded once, and each index. -/
structure CacheHost.RoundTrips (host : CacheHost) : Prop where
  page : host.pageJson.RoundTrips host.Received
  index : host.indexJson.RoundTrips fun _ => True

inductive CacheDiagnostic where
  | invalidInput | incompatibleSchema | notFound | ineligible | integrity | unsafeShape | bounds
  | filesystem | recencyExhausted | durabilityFault
  deriving DecidableEq, Repr

structure CacheFailure where
  diagnostic : CacheDiagnostic
  deriving DecidableEq, Repr

def refuse (diagnostic : CacheDiagnostic) (condition : Prop) [Decidable condition] :
    Except CacheFailure Unit :=
  if condition then .error ⟨diagnostic⟩ else .ok ()

@[simp] theorem refuse_eq_ok {diagnostic : CacheDiagnostic} {condition : Prop}
    [Decidable condition] : refuse diagnostic condition = .ok () ↔ ¬condition := by
  unfold refuse
  split <;> simp_all

/-- `checked_add`. -/
def checkedAdd (left right : Nat) : Except CacheFailure Nat :=
  if left + right < 2 ^ 64 then .ok (left + right) else .error ⟨.bounds⟩

/-- `u64::checked_add(1)`. -/
def checkedSucc (recency : UInt64) : Option UInt64 :=
  if recency.toNat + 1 < 2 ^ 64 then some (recency + 1) else none

/-- `is_digest_name`. -/
def isDigestName (name : String) : Bool := isSha256 name

def boundedIdentity (value : String) (maximum : Nat) : Bool :=
  !value.isEmpty && value.utf8ByteSize ≤ maximum

def validateAuthority (authority : AuthorityIdentity) : Except CacheFailure Unit :=
  refuse .invalidInput (authority.cacheSchemaGeneration ≠ cacheSchemaGeneration ∨
    authority.protocolMajor = 0 ∨
    boundedIdentity authority.stableServerId.text maxIdentityBytes = false)

def validateRequestKey : CacheRequestKey → Except CacheFailure Unit
  | .head => .ok ()
  | .after cursor => refuse .invalidInput (boundedIdentity cursor.text maxCursorBytes = false)

def validateRequest (request : CacheRequest) : Except CacheFailure Unit := do
  validateAuthority request.authority
  refuse .invalidInput (boundedIdentity request.conversationId.text maxIdentityBytes = false)
  validateRequestKey request.requestKey

def validatePageIdentity (identity : PageIdentity) : Except CacheFailure Unit := do
  (validateAuthority identity.authority).mapError fun _ => ⟨.integrity⟩
  refuse .integrity (boundedIdentity identity.conversationId.text maxIdentityBytes = false ∨
    (validateRequestKey identity.requestKey).toBool = false ∨
    isDigestName identity.pageSha256 = false)

def entryMatchesRequest (entry : IndexEntry) (request : CacheRequest) : Bool :=
  entry.identity.authority = request.authority &&
    entry.identity.conversationId = request.conversationId &&
    entry.identity.requestKey = request.requestKey

/-- The bytes that `append_sort_field` pushes. -/
def sortField (value : String) : List UInt8 := bigEndian 8 (utf8 value).length ++ utf8 value

def conversationSortKey (authority : AuthorityIdentity) (conversationId : EntityId) :
    List UInt8 :=
  sortField authority.stableServerId.text ++ bigEndian 2 authority.protocolMajor.toNat ++
    bigEndian 2 authority.protocolMinor.toNat ++
    bigEndian 4 authority.cacheSchemaGeneration.toNat ++ sortField conversationId.text

def PageIdentity.conversationKey (identity : PageIdentity) : List UInt8 :=
  conversationSortKey identity.authority identity.conversationId

def mappingSortKey (identity : PageIdentity) : List UInt8 :=
  identity.conversationKey ++
    match identity.requestKey with
    | .head => [0]
    | .after cursor => 1 :: sortField cursor.text

def pageIdentitySortKey (identity : PageIdentity) : List UInt8 :=
  mappingSortKey identity ++ sortField identity.pageSha256

def referencedDigests (index : CacheIndex) : List String :=
  index.entries.map (·.identity.pageSha256)

structure ConversationTotals where
  pages : Nat
  items : Nat
  bytes : Nat
  deriving DecidableEq

/-- The sets, the map and the sums of the `validate_index` loop. -/
structure IndexTally where
  mappings : List (List UInt8) := []
  recencies : List UInt64 := []
  conversations : List (List UInt8 × ConversationTotals) := []
  totalItems : Nat := 0
  totalBytes : Nat := 0

/-- `conversations.entry(key).or_default()`, written back. -/
def putTotals (key : List UInt8) (totals : ConversationTotals) :
    List (List UInt8 × ConversationTotals) → List (List UInt8 × ConversationTotals)
  | [] => [(key, totals)]
  | (held, old) :: rest =>
    if held = key then (held, totals) :: rest else (held, old) :: putTotals key totals rest

/-- One round of the `validate_index` loop. -/
def validateEntry (pageFiles : PageFiles) (tally : IndexTally) (entry : IndexEntry) :
    Except CacheFailure IndexTally := do
  validatePageIdentity entry.identity
  refuse .integrity (entry.freshReceivedAtUnixSeconds.toInt < 0 ∨ entry.recency = 0 ∨
    entry.recency ∈ tally.recencies ∨ mappingSortKey entry.identity ∈ tally.mappings)
  let itemCount := entry.itemCount.toNat
  let byteLength := entry.byteLength.toNat
  refuse .bounds (maxPageItems < itemCount ∨ byteLength = 0 ∨ maxPageBytes < byteLength)
  match pageFiles.lookup entry.identity.pageSha256 with
  | none => .error ⟨.integrity⟩
  | some pageFile => do
    refuse .integrity (pageFile.itemCount ≠ itemCount ∨ pageFile.byteLength ≠ byteLength)
    let totals := (tally.conversations.lookup entry.identity.conversationKey).getD ⟨0, 0, 0⟩
    let pages ← checkedAdd totals.pages 1
    let items ← checkedAdd totals.items itemCount
    let bytes ← checkedAdd totals.bytes byteLength
    refuse .bounds (maxConversationPages < pages ∨ maxConversationItems < items ∨
      maxConversationBytes < bytes)
    let totalItems ← checkedAdd tally.totalItems itemCount
    let totalBytes ← checkedAdd tally.totalBytes byteLength
    .ok
      { mappings := mappingSortKey entry.identity :: tally.mappings
        recencies := entry.recency :: tally.recencies
        conversations :=
          putTotals entry.identity.conversationKey ⟨pages, items, bytes⟩ tally.conversations
        totalItems
        totalBytes }

def validateIndex (index : CacheIndex) (pageFiles : PageFiles) : Except CacheFailure Unit := do
  refuse .incompatibleSchema (index.schemaId ≠ cacheSchemaId)
  refuse .bounds (maxCachePages < index.entries.length)
  let tally ← index.entries.foldlM (validateEntry pageFiles) {}
  refuse .bounds (maxCacheConversations < tally.conversations.length ∨
    maxCachePages < index.entries.length ∨ maxCacheItems < tally.totalItems ∨
    maxCacheBytes < tally.totalBytes)

def serializeIndex (host : CacheHost) (index : CacheIndex) : Except CacheFailure (List UInt8) :=
  let bytes := host.indexJson.toVec index
  if bytes.isEmpty ∨ maxIndexBytes < bytes.length then .error ⟨.bounds⟩ else .ok bytes

/-- `sha256_hex`. -/
def sha256Hex (host : CacheHost) (bytes : List UInt8) : String := (host.sha256 bytes).toHex

def pageBytesAndDigest (host : CacheHost) (page : ConversationHistoryPage host.Item) :
    Except CacheFailure (List UInt8 × String) :=
  let bytes := host.pageJson.toVec page
  if maxPageItems < page.items.length ∨ maxPageBytes < bytes.length then .error ⟨.bounds⟩
  else .ok (bytes, sha256Hex host bytes)

/-- The first recorded hit of an entry gives it its recency. -/
def mergeHitRecencies (index : CacheIndex) (hitRecencies : List (PageIdentity × UInt64)) :
    CacheIndex :=
  { index with
    entries := index.entries.map fun entry =>
      match hitRecencies.lookup entry.identity with
      | some recency => { entry with recency }
      | none => entry }

/-- `is_fresh_eligible`. An age that `i64` cannot hold is not below the bound either. -/
def isFreshEligible (freshReceivedAt now : Int64) : Bool :=
  freshReceivedAt.toInt ≤ now.toInt &&
    now.toInt - freshReceivedAt.toInt < freshEligibilitySeconds

/-- `Iterator::min_by` under a strict order: the first of the least. -/
def minBy {α : Type} (before : α → α → Bool) : List α → Option α
  | [] => none
  | first :: rest =>
    some (rest.foldl (fun least next => if before next least then next else least) first)

theorem minBy_mem {α : Type} {before : α → α → Bool} {items : List α} {least : α}
    (found : minBy before items = some least) : least ∈ items := by
  cases items with
  | nil => cases found
  | cons first rest =>
    cases found
    refine List.foldlRecOn rest _ (List.mem_cons_self) fun best held next member => ?_
    split
    · exact List.mem_cons_of_mem _ member
    · exact held

/-- `eviction_order` is `Less`. -/
def evictedBefore (left right : IndexEntry) : Bool :=
  left.recency < right.recency ||
    (left.recency = right.recency &&
      decide (pageIdentitySortKey left.identity < pageIdentitySortKey right.identity))

/-- `remove_oldest_entry`, by position. -/
def removeOldestEntry (index : CacheIndex) (selected : IndexEntry → Bool) :
    Except CacheFailure CacheIndex :=
  let candidates := index.entries.zipIdx.filter fun placed => selected placed.1
  match minBy (fun left right => evictedBefore left.1 right.1) candidates with
  | none => .error ⟨.integrity⟩
  | some (_, position) => .ok { index with entries := index.entries.eraseIdx position }

def conversationTotals (index : CacheIndex) (conversationKey : List UInt8) :
    Except CacheFailure ConversationTotals :=
  index.entries.foldlM (fun totals entry =>
    if entry.identity.conversationKey ≠ conversationKey then .ok totals
    else do
      let pages ← checkedAdd totals.pages 1
      let items ← checkedAdd totals.items entry.itemCount.toNat
      let bytes ← checkedAdd totals.bytes entry.byteLength.toNat
      .ok ⟨pages, items, bytes⟩) ⟨0, 0, 0⟩

/-- The `BTreeSet` of the conversation keys. -/
def conversationKeys (index : CacheIndex) : List (List UInt8) :=
  (index.entries.map (·.identity.conversationKey)).dedup.insertionSort (· ≤ ·)

def conversationCount (index : CacheIndex) : Nat := (conversationKeys index).length

def globalTotals (index : CacheIndex) : Except CacheFailure (Nat × Nat) :=
  index.entries.foldlM (fun totals entry => do
    let items ← checkedAdd totals.1 entry.itemCount.toNat
    let bytes ← checkedAdd totals.2 entry.byteLength.toNat
    .ok (items, bytes)) (0, 0)

theorem removeOldestEntry_length {index after : CacheIndex} {selected : IndexEntry → Bool}
    (removed : removeOldestEntry index selected = .ok after) :
    after.entries.length < index.entries.length := by
  unfold removeOldestEntry at removed
  dsimp only at removed
  split at removed
  · cases removed
  · rename_i entry position found
    cases removed
    obtain ⟨inside, _⟩ := List.getElem?_eq_some_iff.mp
      (List.mem_zipIdx_iff_getElem?.mp (List.mem_of_mem_filter (minBy_mem found)))
    rw [List.length_eraseIdx_of_lt inside]
    exact Nat.sub_one_lt_of_lt inside

/-- The loop over one conversation. -/
def evictConversation (conversationKey : List UInt8) (index : CacheIndex) :
    Except CacheFailure CacheIndex :=
  match conversationTotals index conversationKey with
  | .error failure => .error failure
  | .ok totals =>
    if totals.pages ≤ maxConversationPages ∧ totals.items ≤ maxConversationItems ∧
        totals.bytes ≤ maxConversationBytes then .ok index
    else
      match _removed : removeOldestEntry index
          fun entry => decide (entry.identity.conversationKey = conversationKey) with
      | .error failure => .error failure
      | .ok smaller => evictConversation conversationKey smaller
termination_by index.entries.length
decreasing_by exact removeOldestEntry_length ‹_›

def newestRecency (index : CacheIndex) (conversationKey : List UInt8) : UInt64 :=
  (index.entries.filter fun entry => entry.identity.conversationKey = conversationKey).foldl
    (fun newest entry => max newest entry.recency) 0

/-- The conversation that the `while` loop drops: its newest entry is the oldest. -/
def oldestConversation (index : CacheIndex) : Option (List UInt8) :=
  let newestByConversation :=
    (conversationKeys index).map fun key => (key, newestRecency index key)
  (minBy (fun left right =>
    left.2 < right.2 || (left.2 = right.2 && decide (left.1 < right.1)))
    newestByConversation).map (·.1)

def dropConversation (index : CacheIndex) (conversationKey : List UInt8) : CacheIndex :=
  { index with
    entries := index.entries.filter fun entry =>
      decide (entry.identity.conversationKey ≠ conversationKey) }

theorem dropConversation_length {index : CacheIndex} {conversationKey : List UInt8}
    (oldest : oldestConversation index = some conversationKey) :
    (dropConversation index conversationKey).entries.length < index.entries.length := by
  unfold oldestConversation at oldest
  obtain ⟨placed, found, rfl⟩ := Option.map_eq_some_iff.mp oldest
  obtain ⟨key, member, rfl⟩ := List.mem_map.mp (minBy_mem found)
  unfold conversationKeys at member
  rw [List.mem_insertionSort, List.mem_dedup] at member
  obtain ⟨entry, member, same⟩ := List.mem_map.mp member
  refine List.length_filter_lt_length_iff_exists.mpr ⟨entry, member, ?_⟩
  simpa using same

/-- The `while` loop over the number of conversations. -/
def evictConversations (index : CacheIndex) : Except CacheFailure CacheIndex :=
  if maxCacheConversations < conversationCount index then
    match _oldest : oldestConversation index with
    | none => .error ⟨.integrity⟩
    | some conversation => evictConversations (dropConversation index conversation)
  else .ok index
termination_by index.entries.length
decreasing_by exact dropConversation_length ‹_›

/-- The loop over the whole index. -/
def evictOverall (host : CacheHost) (index : CacheIndex) : Except CacheFailure CacheIndex :=
  match globalTotals index with
  | .error failure => .error failure
  | .ok (items, bytes) =>
    if index.entries.length ≤ maxCachePages ∧ items ≤ maxCacheItems ∧ bytes ≤ maxCacheBytes ∧
        (host.indexJson.toVec index).length ≤ maxIndexBytes then .ok index
    else
      match _removed : removeOldestEntry index fun _ => true with
      | .error failure => .error failure
      | .ok smaller => evictOverall host smaller
termination_by index.entries.length
decreasing_by exact removeOldestEntry_length ‹_›

def evictToBounds (host : CacheHost) (index : CacheIndex) (now : Int64) :
    Except CacheFailure CacheIndex := do
  let fresh :=
    { index with
      entries := index.entries.filter fun entry =>
        isFreshEligible entry.freshReceivedAtUnixSeconds now }
  let index ← (conversationKeys fresh).foldlM (fun index key => evictConversation key index) fresh
  let index ← evictConversations index
  let index ← evictOverall host index
  .ok
    { index with
      entries := index.entries.insertionSort fun left right =>
        pageIdentitySortKey left.identity ≤ pageIdentitySortKey right.identity }

end Decodex.Source.Gpui
