import Mathlib.Data.Countable.Basic
import Mathlib.Logic.Equiv.List
import Decodex.Library.Run
import Decodex.Library.TableCodec
import Decodex.Guarantees.Samples
import Decodex.Source.Gpui.CacheEntries
import Decodex.Source.Gpui.CachePublications

/-!
# What a stopped publication leaves of the history page cache

Over every run of a process that opens the cache, records hits and publishes pages, and that
may stop after any call, from the directory that is not there yet. A process that stops right
after the hard link of a page leaves the page with two links; the next open refuses it. After
every other call the cache opens again with the index before the publication or after it.
-/
namespace Decodex.Guarantees.CacheCrashes

open Decodex.Library
open Decodex.Source.Core Decodex.Source.Gpui
open Decodex.Guarantees.Samples (samplePageDigest)

/-- The disk, and the cache of the process that has it open. -/
structure CacheState where
  disk : CacheDirectory
  cache : Option HistoryPageCache

def CacheState.initial : CacheState := ⟨.absent, none⟩

inductive CacheEvent where
  | opened | hit | published | stopped | exited
  deriving DecidableEq, Repr

/-- One event in the life of the cache. A process whose publication reports a failure no longer
uses its cache (`PageCacheState::Disabled`). -/
inductive CacheStep (host : CacheHost) : CacheState → CacheEvent → CacheState → Prop where
  | opened (disk : CacheDirectory) (generation : UInt32) :
      CacheStep host ⟨disk, none⟩ .opened
        ⟨(openCache host generation disk).final, (openCache host generation disk).result.toOption⟩
  | stoppedOpening {disk : CacheDirectory} {generation : UInt32} {stop : Call × CacheDirectory}
      (passed : stop ∈ (openCache host generation disk).passed) :
      CacheStep host ⟨disk, none⟩ .stopped ⟨stop.2, none⟩
  | hit {disk : CacheDirectory} {cache after : HistoryPageCache} {identity : PageIdentity}
      (recorded : recordHitRecency cache identity = .ok after) :
      CacheStep host ⟨disk, some cache⟩ .hit ⟨disk, some after⟩
  | published {disk : CacheDirectory} {cache after : HistoryPageCache} {kernel : Kernel}
      {request : CacheRequest} {page : ConversationHistoryPage host.Item} {received : Int64}
      {stale : Bool} {failure : Option CacheFailure} (read : host.Received page)
      (done : (publishFreshPage host kernel cache request page received stale disk).result =
        .ok (after, failure)) :
      CacheStep host ⟨disk, some cache⟩ .published
        ⟨(publishFreshPage host kernel cache request page received stale disk).final,
          if failure.isSome then none else some after⟩
  | stoppedPublishing {disk : CacheDirectory} {cache : HistoryPageCache} {kernel : Kernel}
      {request : CacheRequest} {page : ConversationHistoryPage host.Item} {received : Int64}
      {stale : Bool} {stop : Call × CacheDirectory} (read : host.Received page)
      (passed : stop ∈
        (publishFreshPage host kernel cache request page received stale disk).passed) :
      CacheStep host ⟨disk, some cache⟩ .stopped ⟨stop.2, none⟩
  | exited (disk : CacheDirectory) (cache : HistoryPageCache) :
      CacheStep host ⟨disk, some cache⟩ .exited ⟨disk, none⟩

variable {host : CacheHost} {s t : CacheState} {events : List CacheEvent}

/-- An open cache has the index of its directory. -/
structure Consistent (host : CacheHost) (s : CacheState) : Prop where
  tidy : s.disk.Tidy
  sound : ∀ cache, s.cache = some cache → Sound host s.disk cache.index

theorem consistent_initial : Consistent host .initial := ⟨nofun, nofun⟩

theorem openCache_tidy (generation : UInt32) :
    (openCache host generation).Meets CacheDirectory.Tidy (fun _ t => t.Tidy) (fun _ t => t.Tidy)
      fun cache t => t.Tidy ∧ Sound host t cache.index := by
  refine meets_openCache generation (fun t shape tidy => ?_)
    (fun t number files tidy created => ?_) fun t state tidy loaded => ?_
  · cases shape with
    | root => exact tidy
    | pages => exact tidy
  · obtain ⟨_, _, stat⟩ := Volume.create_spec created
    intro member
    have listed := (stat_isSome (d := { t with files })).mpr member
    change (files.stat _).isSome = true at listed
    rw [stat, if_neg (by decide)] at listed
    exact tidy (stat_isSome.mp listed)
  · exact ⟨tidy, (loaded_sound tidy loaded).1⟩

theorem consistent_step (codecs : host.RoundTrips) {event : CacheEvent}
    (step : CacheStep host s event t) (consistent : Consistent host s) : Consistent host t := by
  cases step with
  | opened disk generation =>
    obtain ⟨_, ended⟩ := openCache_tidy generation disk consistent.tidy
    cases result : (openCache host generation disk).result with
    | error failure =>
      rw [result] at ended
      exact ⟨ended, nofun⟩
    | ok cache =>
      rw [result] at ended
      refine ⟨ended.1, fun held same => ?_⟩
      cases same
      exact ended.2
  | stoppedOpening passed =>
    exact ⟨(openCache_tidy _ _ consistent.tidy).1 _ passed, nofun⟩
  | hit recorded =>
    refine ⟨consistent.tidy, fun held same => ?_⟩
    cases same
    rw [recordHitRecency_index recorded]
    exact consistent.sound _ rfl
  | @published disk cache after kernel request page received stale failure read done =>
    obtain ⟨again, reported, ended, finished, _⟩ := publishFreshPage_spec codecs
      kernel request read received stale (consistent.sound cache rfl)
    rw [done] at ended
    cases ended
    refine ⟨finished.sound.tidy, fun held same => ?_⟩
    dsimp only at same
    split at same
    · cases same
    · cases same
      exact finished.sound
  | @stoppedPublishing disk cache kernel request page received stale stop read passed =>
    obtain ⟨_, _, _, _, stops⟩ := publishFreshPage_spec codecs kernel request read
      received stale (consistent.sound cache rfl)
    exact ⟨(stops stop passed).tidy, nofun⟩
  | exited => exact ⟨consistent.tidy, nofun⟩

theorem consistent_run (codecs : host.RoundTrips) (run : Run (CacheStep host) .initial events s) :
    Consistent host s :=
  run.invariant (fun _ _ _ step => consistent_step codecs step) consistent_initial

/-- The cache opens with one of two indexes, and each of its entries has its page. -/
def CrashAtomic (host : CacheHost) (before after : CacheIndex) (disk : CacheDirectory) : Prop :=
  ∃ cache, (openCache host cacheSchemaGeneration disk).result = .ok cache ∧
    (cache.index = before ∨ cache.index = after) ∧
    ∀ entry ∈ cache.index.entries, ∃ page metadata,
      readValidatedPage host (openCache host cacheSchemaGeneration disk).final
        entry.identity.pageSha256 = .ok (page, metadata) ∧
      metadata.itemCount = entry.itemCount.toNat ∧
      metadata.byteLength = entry.byteLength.toNat

theorem crashAtomic_of_sound {index before after : CacheIndex} {disk : CacheDirectory}
    (sound : Sound host disk index) (either : index = before ∨ index = after) :
    CrashAtomic host before after disk := by
  obtain ⟨opened, left⟩ := sound.opens
  refine ⟨_, opened, either, fun entry member => ?_⟩
  obtain ⟨pageFiles, validated, has⟩ := sound.valid
  obtain ⟨metadata, found, items, bytes⟩ := validateIndex_pages validated entry member
  obtain ⟨page, held⟩ := has _ _ found (List.mem_map.mpr ⟨entry, member, rfl⟩)
  rw [left]
  exact ⟨page, metadata, readValidatedPage_ok.mpr held, items, bytes⟩

theorem crashAtomic_iff_of_stopped {before after : CacheIndex} {call : Call} {disk : CacheDirectory}
    (stopped : Stopped host before after call disk) :
    CrashAtomic host before after disk ↔ call ≠ .link := by
  unfold Stopped at stopped
  split at stopped
  · rename_i link
    refine ⟨fun ⟨cache, opened, _⟩ => ?_, fun other => absurd link other⟩
    exact absurd opened (stopped.not_opens _ _)
  · rename_i other
    refine ⟨fun _ => other, fun _ => ?_⟩
    rcases stopped with sound | sound
    · exact crashAtomic_of_sound sound (.inl rfl)
    · exact crashAtomic_of_sound sound (.inr rfl)

/-- A publication is crash atomic before its first call and after each call but the link. -/
theorem publication_crashAtomic_iff (codecs : host.RoundTrips) {disk : CacheDirectory}
    {cache : HistoryPageCache}
    (run : Run (CacheStep host) .initial events ⟨disk, some cache⟩) (kernel : Kernel)
    (request : CacheRequest) {page : ConversationHistoryPage host.Item}
    (read : host.Received page) (received : Int64) (stale : Bool) : ∃ after failure,
      (publishFreshPage host kernel cache request page received stale disk).result =
        .ok (after, failure) ∧
      CrashAtomic host cache.index after.index disk ∧
      ∀ stop ∈ (publishFreshPage host kernel cache request page received stale disk).passed,
        CrashAtomic host cache.index after.index stop.2 ↔ stop.1 ≠ .link := by
  have sound := (consistent_run codecs run).sound cache rfl
  obtain ⟨after, failure, result, _, stops⟩ := publishFreshPage_spec codecs kernel
    request read received stale sound
  refine ⟨after, failure, result, crashAtomic_of_sound sound (.inl rfl), fun stop passed => ?_⟩
  exact crashAtomic_iff_of_stopped (stops stop passed)

instance countableString : Countable String :=
  Function.Injective.countable (f := fun text : String => text.toList.map Char.toNat)
    fun _ _ same => String.toList_injective (List.map_injective_iff.mpr
      (fun _ _ same => Char.toNat_inj.mp same) same)

instance countableWireText : Countable WireText :=
  Function.Injective.countable (f := WireText.text) fun left right same => by
    cases left
    cases right
    cases same
    rfl

instance countableHistoryCursorToken : Countable HistoryCursorToken :=
  Function.Injective.countable (f := HistoryCursorToken.text) fun left right same => by
    cases left
    cases right
    cases same
    rfl

instance countableCacheRequestKey : Countable CacheRequestKey :=
  Function.Injective.countable (f := fun key => match key with
    | .head => none
    | .after cursor => some cursor) fun left right same => by
    cases left <;> cases right <;> simp_all

instance countablePageIdentity : Countable PageIdentity :=
  Function.Injective.countable (f := fun identity => (identity.authority.stableServerId,
    identity.authority.protocolMajor.toNat, identity.authority.protocolMinor.toNat,
    identity.authority.cacheSchemaGeneration.toNat, identity.conversationId, identity.requestKey,
    identity.pageSha256)) fun left right same => by
    obtain ⟨⟨_, _, _, _⟩, _, _, _⟩ := left
    obtain ⟨⟨_, _, _, _⟩, _, _, _⟩ := right
    simpa [UInt16.toNat_inj, UInt32.toNat_inj, and_assoc] using same

instance countableCacheIndex : Countable CacheIndex :=
  Function.Injective.countable (f := fun index => (index.schemaId, index.entries.map fun entry =>
    (entry.identity, entry.freshReceivedAtUnixSeconds.toInt, entry.recency.toNat,
      entry.itemCount.toNat, entry.byteLength.toNat))) fun left right same => by
    obtain ⟨_, _⟩ := left
    obtain ⟨_, _⟩ := right
    simp only [Prod.mk.injEq, CacheIndex.mk.injEq] at same ⊢
    refine ⟨same.1, List.map_injective_iff.mpr (fun first second same => ?_) same.2⟩
    obtain ⟨_, _, _, _, _⟩ := first
    obtain ⟨_, _, _, _, _⟩ := second
    simpa [UInt64.toNat_inj, UInt8.toNat_inj, UInt32.toNat_inj, Int64.toInt_inj] using same

instance countablePage : Countable (ConversationHistoryPage Empty) :=
  Function.Injective.countable (f := fun page => (page.items, page.nextCursor))
    fun left right same => by
    cases left
    cases right
    simpa using same

noncomputable def tableCodec {α : Type} [Countable α] [DecidableEq α]
    (table : List (α × List UInt8)) : JsonCodec α :=
  ⟨TableCodec.encode table, TableCodec.decode table⟩

theorem tableCodec_roundTrips {α : Type} [Countable α] [DecidableEq α]
    {table : List (α × List UInt8)} (texts : (table.map Prod.snd).Nodup)
    (objects : ∀ row ∈ table, row.2.head? = some 123) (written : α → Prop) :
    (tableCodec table).RoundTrips written := by
  have apart (row : α × List UInt8) (listed : row ∈ table) :
      row.2 ≠ [] ∧ row.2.head? ≠ some 0 := by
    rw [objects row listed]
    refine ⟨?_, by decide⟩
    intro empty
    have object := objects row listed
    rw [empty] at object
    cases object
  exact ⟨TableCodec.encode_ne_nil apart, fun value _ => TableCodec.decode_encode apart texts value⟩

def sampleCursor : HistoryCursorToken := ⟨"cached-next", by decide⟩

/-- A page without items. -/
def samplePage : ConversationHistoryPage Empty := ⟨[], some sampleCursor⟩

def samplePageText : String := "\x7b\"items\":[],\"next_cursor\":\"cached-next\"\x7d"

def sampleRequest : CacheRequest where
  authority := ⟨⟨"history-cache-server", by decide⟩, 1, 0, 1⟩
  conversationId := ⟨"history-cache-conversation", by decide⟩
  requestKey := .head

/-- The index with the page of the sample request, received at second 10000. -/
def sampleIndex : CacheIndex where
  schemaId := cacheSchemaId
  entries := [{
    identity := ⟨sampleRequest.authority, sampleRequest.conversationId, .head, samplePageDigest⟩
    freshReceivedAtUnixSeconds := 10000
    recency := 1
    itemCount := 0
    byteLength := 40 }]

def sampleIndexText : String :=
  "\x7b\"schema_id\":\"decodex.gpui.history-page-cache/1\",\"entries\":[\x7b\"identity\":" ++
  "\x7b\"authority\":\x7b\"stable_server_id\":\"history-cache-server\",\"protocol_major\":1," ++
  "\"protocol_minor\":0,\"cache_schema_generation\":1\x7d," ++
  "\"conversation_id\":\"history-cache-conversation\",\"request_key\":\"head\"," ++
  "\"page_sha256\":\"72908abdf71e80cf521b7dd94147f08d64e73d9d5a81544fea93391fed46fbcf\"\x7d," ++
  "\"fresh_received_at_unix_seconds\":10000,\"recency\":1,\"item_count\":0," ++
  "\"byte_length\":40\x7d]\x7d"

instance decidableEqPage : DecidableEq (ConversationHistoryPage Empty) := fun left right =>
  decidable_of_iff (left.nextCursor = right.nextCursor) (by
    obtain ⟨items, _⟩ := left
    obtain ⟨others, _⟩ := right
    cases items with
    | cons item => exact item.elim
    | nil =>
      cases others with
      | cons item => exact item.elim
      | nil => simp)

noncomputable def sampleCacheHost : CacheHost where
  Item := Empty
  effectiveUid := 501
  sha256 bytes :=
    if bytes = utf8 samplePageText then
      (BlobHash.parse samplePageDigest).getD ⟨List.replicate 32 0, rfl⟩
    else ⟨List.replicate 32 0, rfl⟩
  pageJson := tableCodec [(samplePage, utf8 samplePageText)]
  indexJson := tableCodec [(sampleIndex, utf8 sampleIndexText)]

theorem sampleCacheHost_roundTrips : sampleCacheHost.RoundTrips := by
  have page : (tableCodec [(samplePage, utf8 samplePageText)]).RoundTrips sampleCacheHost.Received :=
    tableCodec_roundTrips (by simp) (by decide +kernel) _
  exact ⟨page, tableCodec_roundTrips (by simp) (by decide +kernel) _⟩

theorem samplePage_received : sampleCacheHost.Received samplePage :=
  ⟨utf8 samplePageText, by simp [sampleCacheHost, tableCodec, TableCodec.decode]⟩

/-- The directory of a first open. -/
noncomputable def sampleDisk : CacheDirectory :=
  (openCache sampleCacheHost cacheSchemaGeneration .absent).final

theorem sampleDisk_opened : (openCache sampleCacheHost cacheSchemaGeneration .absent).result =
    .ok (openedCache .empty) := by decide +kernel

theorem sample_run : Run (CacheStep sampleCacheHost) .initial [.opened]
    ⟨sampleDisk, some (openedCache .empty)⟩ := by
  have step : CacheStep sampleCacheHost .initial .opened ⟨sampleDisk, _⟩ :=
    .opened .absent cacheSchemaGeneration
  rw [sampleDisk_opened] at step
  exact .single step

/-- After the link the stage is a second name of the page: opening is refused. -/
theorem linked_page_not_crashAtomic : ∃ disk cache stop,
    Run (CacheStep sampleCacheHost) .initial [.opened] ⟨disk, some cache⟩ ∧
      stop ∈ (publishFreshPage sampleCacheHost noFaults cache sampleRequest samplePage 10000 false
        disk).passed ∧
      ∀ before after, ¬CrashAtomic sampleCacheHost before after stop.2 := by
  have linked : (publishFreshPage sampleCacheHost noFaults (openedCache .empty) sampleRequest
      samplePage 10000 false sampleDisk).passed.any (fun stop => decide (stop.1 = .link)) =
        true := by decide +kernel
  obtain ⟨stop, passed, link⟩ := List.any_eq_true.mp linked
  have consistent := consistent_run sampleCacheHost_roundTrips sample_run
  obtain ⟨_, _, _, _, stops⟩ := publishFreshPage_spec sampleCacheHost_roundTrips noFaults sampleRequest
    samplePage_received 10000 false (consistent.sound _ rfl)
  have doubled := stops stop passed
  unfold Stopped at doubled
  rw [if_pos (of_decide_eq_true link)] at doubled
  refine ⟨sampleDisk, openedCache .empty, stop, sample_run, passed, fun before after atomic => ?_⟩
  obtain ⟨cache, opened, _⟩ := atomic
  exact doubled.not_opens _ _ opened

/-- The sample publication commits, and is crash atomic but for its link. -/
theorem sample_publication_crashAtomic_iff : ∃ after failure,
    (publishFreshPage sampleCacheHost noFaults (openedCache .empty) sampleRequest samplePage 10000
      false sampleDisk).result = .ok (after, failure) ∧
    CrashAtomic sampleCacheHost .empty after.index sampleDisk ∧
    ∀ stop ∈ (publishFreshPage sampleCacheHost noFaults (openedCache .empty) sampleRequest samplePage
      10000 false sampleDisk).passed,
      CrashAtomic sampleCacheHost .empty after.index stop.2 ↔ stop.1 ≠ .link :=
  publication_crashAtomic_iff sampleCacheHost_roundTrips sample_run noFaults sampleRequest
    samplePage_received 10000 false

end Decodex.Guarantees.CacheCrashes
