import Decodex.Guarantees.CacheCrashes

/-!
# The history page cache is a bounded map of fresh pages

Over every run of one handle after another that opens the cache, records hits, and prepares
publications that are committed and finished, or discarded, with any faults, from the directory
that is not there yet. A lookup sees the index and the page last committed for each request,
and nothing else.
-/
namespace Decodex.Guarantees.CacheLookups

open Decodex.Library
open Decodex.Source.Core Decodex.Source.Gpui

/-- A publication in the hands of its caller. -/
inductive Phase (host : CacheHost) where
  | idle
  | prepared (prepared : PreparedCachePublication) (request : CacheRequest)
      (page : ConversationHistoryPage host.Item)
  | committed (committed : CommittedCachePublication)

/-- The disk, the open handle, its publication, and the page last committed for each request. -/
structure HandleState (host : CacheHost) where
  disk : CacheDirectory
  cache : Option HistoryPageCache
  phase : Phase host
  last : CacheRequest → Option (ConversationHistoryPage host.Item)

def HandleState.initial (host : CacheHost) : HandleState host :=
  ⟨.absent, none, .idle, fun _ => none⟩

inductive HandleEvent where
  | opened | closed | hit | prepared | prepareFailed | committed | commitFailed | finished
  | discarded
  deriving DecidableEq, Repr

variable {host : CacheHost}

/-- One call on a handle. A commit that fails hands the prepared publication back. -/
inductive HandleStep (host : CacheHost) : HandleState host → HandleEvent → HandleState host → Prop
    where
  | opened (disk : CacheDirectory) (generation : UInt32)
      (last : CacheRequest → Option (ConversationHistoryPage host.Item)) :
      HandleStep host ⟨disk, none, .idle, last⟩ .opened
        ⟨(openCache host generation disk).final,
          (openCache host generation disk).result.toOption, .idle, last⟩
  | closed (s : HandleState host) :
      HandleStep host s .closed { s with cache := none, phase := .idle }
  | hit {s : HandleState host} {cache after : HistoryPageCache} {identity : PageIdentity}
      (handle : s.cache = some cache) (recorded : recordHitRecency cache identity = .ok after) :
      HandleStep host s .hit { s with cache := some after }
  | prepared {s : HandleState host} {cache : HistoryPageCache} {kernel : Kernel}
      {request : CacheRequest} {page : ConversationHistoryPage host.Item} {received : Int64}
      {prepared : PreparedCachePublication} (handle : s.cache = some cache)
      (idle : s.phase = .idle) (read : host.Received page)
      (done : (preparePublication host kernel cache request page received s.disk).result =
        .ok prepared) :
      HandleStep host s .prepared
        { s with
          disk := (preparePublication host kernel cache request page received s.disk).final
          phase := .prepared prepared request page }
  | prepareFailed {s : HandleState host} {cache : HistoryPageCache} {kernel : Kernel}
      {request : CacheRequest} {page : ConversationHistoryPage host.Item} {received : Int64}
      {failure : CacheFailure} (handle : s.cache = some cache) (idle : s.phase = .idle)
      (read : host.Received page)
      (done : (preparePublication host kernel cache request page received s.disk).result =
        .error failure) :
      HandleStep host s .prepareFailed
        { s with
          disk := (preparePublication host kernel cache request page received s.disk).final }
  | committed {s : HandleState host} {cache after : HistoryPageCache} {kernel : Kernel}
      {prepared : PreparedCachePublication} {request : CacheRequest}
      {page : ConversationHistoryPage host.Item} {committed : CommittedCachePublication}
      (handle : s.cache = some cache) (ready : s.phase = .prepared prepared request page)
      (done : (commitPublication kernel prepared s.disk).result = .ok (after, committed)) :
      HandleStep host s .committed
        ⟨(commitPublication kernel prepared s.disk).final, some after, .committed committed,
          Function.update s.last request (some page)⟩
  | commitFailed {s : HandleState host} {cache : HistoryPageCache} {kernel : Kernel}
      {prepared kept : PreparedCachePublication} {request : CacheRequest}
      {page : ConversationHistoryPage host.Item} {failure : CacheFailure}
      (handle : s.cache = some cache) (ready : s.phase = .prepared prepared request page)
      (done : (commitPublication kernel prepared s.disk).result = .error (kept, failure)) :
      HandleStep host s .commitFailed
        { s with
          disk := (commitPublication kernel prepared s.disk).final
          phase := .prepared kept request page }
  | finished {s : HandleState host} {cache : HistoryPageCache} {kernel : Kernel}
      {committed : CommittedCachePublication} (handle : s.cache = some cache)
      (ready : s.phase = .committed committed) :
      HandleStep host s .finished
        { s with
          disk := (finishPublication host kernel cache committed s.disk).final
          phase := .idle }
  | discarded {s : HandleState host} {cache : HistoryPageCache} {kernel : Kernel}
      {prepared : PreparedCachePublication} {request : CacheRequest}
      {page : ConversationHistoryPage host.Item} (handle : s.cache = some cache)
      (ready : s.phase = .prepared prepared request page) :
      HandleStep host s .discarded
        { s with
          disk := (discardPreparedPublication host kernel cache prepared s.disk).final
          phase := .idle }

/-- What an index on disk says: no recency is the last one, and each entry has the page last
committed for its request. -/
structure Recorded (host : CacheHost) (disk : CacheDirectory)
    (last : CacheRequest → Option (ConversationHistoryPage host.Item)) (index : CacheIndex) :
    Prop where
  below : ∀ entry ∈ index.entries, entry.recency.toNat + 1 < 2 ^ 64
  pages : ∀ entry ∈ index.entries, ∃ page metadata,
    last entry.identity.request = some page ∧
      HasPage host disk entry.identity.pageSha256 page metadata

/-- A prepared publication is still the one that was planned, for the index of the handle. -/
structure Ready (host : CacheHost) (disk : CacheDirectory) (cache : HistoryPageCache)
    (prepared : PreparedCachePublication) (request : CacheRequest)
    (page : ConversationHistoryPage host.Item) : Prop where
  planned : ∃ base planner received, planner.index = cache.index ∧
    Prepared host base planner request page received prepared disk
  ordered : Ordered ⟨prepared.candidate, [], some prepared.followingRecency⟩

structure HandleInv (host : CacheHost) (s : HandleState host) : Prop where
  tidy : s.disk.Tidy
  recorded : ∀ index, ReadsIndex host index (s.disk.files.stat indexPlace) →
    Recorded host s.disk s.last index
  sound : ∀ cache, s.cache = some cache → Sound host s.disk cache.index
  ordered : ∀ cache, s.cache = some cache → Ordered cache
  ready : ∀ cache prepared request page, s.cache = some cache →
    s.phase = .prepared prepared request page →
    Ready host s.disk cache prepared request page

/-- Without a handle only the disk counts. -/
theorem HandleInv.withoutHandle {s : HandleState host} (tidy : s.disk.Tidy)
    (recorded : ∀ index, ReadsIndex host index (s.disk.files.stat indexPlace) →
      Recorded host s.disk s.last index) (absent : s.cache = none) : HandleInv host s where
  tidy := tidy
  recorded := recorded
  sound cache held := by
    rw [absent] at held
    cases held
  ordered cache held := by
    rw [absent] at held
    cases held
  ready cache _ _ _ held := by
    rw [absent] at held
    cases held

theorem handleInv_initial : HandleInv host (.initial host) := by
  refine .withoutHandle nofun (fun index reads => ?_) rfl
  cases show index = .empty from reads
  constructor
  · intro entry member
    exact absurd member List.not_mem_nil
  · intro entry member
    exact absurd member List.not_mem_nil

theorem readsIndex_unique {index other : CacheIndex} {found : Option FileStatus}
    (first : ReadsIndex host index found) (second : ReadsIndex host other found) :
    index = other := by
  cases found with
  | none => exact Eq.trans first (Eq.symm second)
  | some file =>
    obtain ⟨_, reads, _⟩ := first
    obtain ⟨_, again, _⟩ := second
    rw [reads] at again
    cases again
    rfl

/-- A steady directory holds what was recorded. -/
theorem recorded_steady {base disk : CacheDirectory} {index : CacheIndex}
    {last : CacheRequest → Option (ConversationHistoryPage host.Item)}
    (recorded : Recorded host base last index) (steady : Steady host base index disk) (other)
    (reads : ReadsIndex host other (disk.files.stat indexPlace)) :
    Recorded host disk last other := by
  cases readsIndex_unique reads steady.sound.readsIndex
  refine ⟨recorded.below, fun entry member => ?_⟩
  obtain ⟨page, metadata, committed, has⟩ := recorded.pages entry member
  exact ⟨page, metadata, committed,
    has.congr (steady.pages _ (List.mem_map.mpr ⟨entry, member, rfl⟩))⟩

theorem openCache_keeps (host : CacheHost) (base : CacheDirectory) (generation : UInt32) :
    (openCache host generation).Meets
      (fun t => t.Tidy ∧ ∀ place, place ≠ lockPlace → t.files.stat place = base.files.stat place)
      (fun _ t => t.Tidy ∧ ∀ place, place ≠ lockPlace →
        t.files.stat place = base.files.stat place)
      (fun _ t => t.Tidy ∧ ∀ place, place ≠ lockPlace →
        t.files.stat place = base.files.stat place)
      fun cache t => (t.Tidy ∧ ∀ place, place ≠ lockPlace →
        t.files.stat place = base.files.stat place) ∧
        cache = openedCache cache.index ∧ Sound host t cache.index := by
  refine meets_openCache generation (fun t shape held => ?_)
    (fun t number files held created => ?_) fun t state held loaded => ?_
  · cases shape with
    | root => exact held
    | pages => exact held
  · obtain ⟨_, _, stat⟩ := Volume.create_spec created
    refine ⟨fun member => ?_, fun place other => ?_⟩
    · have listed := (stat_isSome (d := { t with files })).mpr member
      change (files.stat _).isSome = true at listed
      rw [stat, if_neg (by decide)] at listed
      exact held.1 (stat_isSome.mp listed)
    · exact ((stat place).trans (if_neg other)).trans (held.2 place other)
  · exact ⟨held, rfl, (loaded_sound held.1 loaded).1⟩

theorem maxRecency_le (entries : List IndexEntry) (start : UInt64) :
    start.toNat ≤ (entries.foldl (fun most entry => max most entry.recency) start).toNat ∧
    (∀ entry ∈ entries, entry.recency.toNat ≤
      (entries.foldl (fun most entry => max most entry.recency) start).toNat) ∧
    ∀ bound, start.toNat < bound → (∀ entry ∈ entries, entry.recency.toNat < bound) →
      (entries.foldl (fun most entry => max most entry.recency) start).toNat < bound := by
  induction entries generalizing start with
  | nil => exact ⟨Nat.le_refl _, nofun, fun bound low _ => low⟩
  | cons first rest ih =>
    rw [List.foldl_cons]
    obtain ⟨most, each, bounded⟩ := ih (max start first.recency)
    have larger : (max start first.recency).toNat = max start.toNat first.recency.toNat := by
      change (if start ≤ first.recency then first.recency else start).toNat = _
      split
      · rename_i above
        rw [UInt64.le_iff_toNat_le] at above
        omega
      · rename_i above
        rw [UInt64.le_iff_toNat_le] at above
        omega
    refine ⟨by omega, fun entry member => ?_, fun bound low all => ?_⟩
    · rcases List.mem_cons.mp member with rfl | member
      · omega
      · exact each entry member
    · refine bounded bound ?_ fun entry member => all entry (List.mem_cons_of_mem _ member)
      have := all first List.mem_cons_self
      omega

theorem openedCache_ordered {index : CacheIndex} (valid : ValidEntries index.entries)
    (below : ∀ entry ∈ index.entries, entry.recency.toNat + 1 < 2 ^ 64) :
    Ordered (openedCache index) := by
  obtain ⟨_, each, bounded⟩ := maxRecency_le index.entries 0
  have small := bounded (2 ^ 64 - 1) (by decide) fun entry member => by
    have := below entry member
    omega
  unfold openedCache
  cases succ : checkedSucc
      (index.entries.foldl (fun most entry => max most entry.recency) 0) with
  | none =>
    unfold checkedSucc at succ
    rw [if_pos (by omega)] at succ
    cases succ
  | some next =>
    have grown := checkedSucc_eq_some succ
    refine .of_entries valid fun entry member => ?_
    have := each entry member
    rw [UInt64.lt_iff_toNat_lt]
    omega

theorem validEntries_of_sound {disk : CacheDirectory} {index : CacheIndex}
    (sound : Sound host disk index) : ValidEntries index.entries := by
  obtain ⟨pageFiles, validated, _⟩ := sound.valid
  exact validateIndex_entries validated

theorem handleInv_opened {s : HandleState host} (inv : HandleInv host s) (generation : UInt32) :
    HandleInv host ⟨(openCache host generation s.disk).final,
      (openCache host generation s.disk).result.toOption, .idle, s.last⟩ := by
  obtain ⟨_, ended⟩ := openCache_keeps host s.disk generation s.disk ⟨inv.tidy, fun _ _ => rfl⟩
  have recordedAfter {after : CacheDirectory}
      (kept : ∀ place, place ≠ lockPlace → after.files.stat place = s.disk.files.stat place)
      (index) (reads : ReadsIndex host index (after.files.stat indexPlace)) :
      Recorded host after s.last index := by
    rw [kept indexPlace (by decide)] at reads
    obtain ⟨below, pages⟩ := inv.recorded index reads
    refine ⟨below, fun entry member => ?_⟩
    obtain ⟨page, metadata, committed, has⟩ := pages entry member
    exact ⟨page, metadata, committed, has.congr (kept _ nofun)⟩
  cases result : (openCache host generation s.disk).result with
  | error failure =>
    rw [result] at ended
    exact .withoutHandle ended.1 (recordedAfter ended.2) rfl
  | ok cache =>
    rw [result] at ended
    obtain ⟨⟨tidy, kept⟩, opened, sound⟩ := ended
    refine ⟨tidy, recordedAfter kept, fun held same => ?_, fun held same => ?_,
      fun _ _ _ _ _ entered => by cases entered⟩
    · cases same
      exact sound
    · cases same
      rw [opened]
      exact openedCache_ordered (validEntries_of_sound sound)
        (recordedAfter kept _ sound.readsIndex).below

theorem handleInv_hit {s : HandleState host} {cache after : HistoryPageCache}
    {identity : PageIdentity} (inv : HandleInv host s) (handle : s.cache = some cache)
    (recorded : recordHitRecency cache identity = .ok after) :
    HandleInv host { s with cache := some after } := by
  have index := recordHitRecency_index recorded
  have sound := inv.sound cache handle
  refine ⟨inv.tidy, inv.recorded, fun held same => ?_, fun held same => ?_,
    fun held prepared request page same ready => ?_⟩
  · cases same
    exact index ▸ sound
  · cases same
    exact (inv.ordered cache handle).recorded (validEntries_of_sound sound) recorded
  · cases same
    obtain ⟨⟨base, planner, received, planned, staged⟩, ordered⟩ :=
      inv.ready cache prepared request page handle ready
    exact ⟨⟨base, planner, received, planned.trans index.symm, staged⟩, ordered⟩

/-- A call that keeps the index leaves the handle as it was, beside its publication. -/
theorem handleInv_steady {s : HandleState host} {cache : HistoryPageCache}
    {disk : CacheDirectory} (inv : HandleInv host s) (handle : s.cache = some cache)
    (steady : Steady host s.disk cache.index disk) (phase : Phase host)
    (ready : ∀ prepared request page, phase = .prepared prepared request page →
      Ready host disk cache prepared request page) :
    HandleInv host { s with disk, phase } := by
  have recorded := inv.recorded _ (inv.sound cache handle).readsIndex
  refine ⟨steady.sound.tidy, recorded_steady recorded steady, fun held same => ?_, inv.ordered,
    fun held prepared request page same entered => ?_⟩
  · cases handle.symm.trans same
    exact steady.sound
  · cases handle.symm.trans same
    exact ready prepared request page entered

theorem ready_of_prepared {disk base : CacheDirectory} {cache : HistoryPageCache}
    {prepared : PreparedCachePublication} {request : CacheRequest}
    {page : ConversationHistoryPage host.Item} {received : Int64} (ordered : Ordered cache)
    (staged : Prepared host base cache request page received prepared disk) :
    Ready host disk cache prepared request page := by
  obtain ⟨state, digest, indexBytes, pageExists, same, planned, _⟩ := staged.planned
  exact ⟨⟨base, cache, received, rfl, staged⟩, planned.ordered same ordered⟩

/-- After a commit the index is the candidate, and the page is the last one of its request. -/
theorem handleInv_committed (codecs : host.RoundTrips) {s : HandleState host}
    {cache : HistoryPageCache} {prepared : PreparedCachePublication} {request : CacheRequest}
    {page : ConversationHistoryPage host.Item} {files : Volume Place} (inv : HandleInv host s)
    (handle : s.cache = some cache) (entered : s.phase = .prepared prepared request page)
    (renamed : s.disk.files.rename indexStagePlace indexPlace = .ok files)
    (committed : CommittedCachePublication) :
    HandleInv host ⟨{ s.disk with files },
      some ⟨prepared.candidate, [], some prepared.followingRecency⟩, .committed committed,
      Function.update s.last request (some page)⟩ := by
  obtain ⟨⟨base, planner, received, same, staged⟩, ordered⟩ :=
    inv.ready cache prepared request page handle entered
  obtain ⟨sound, kept⟩ := staged.renamed codecs renamed
  obtain ⟨state, digest, indexBytes, pageExists, loaded, planned, has⟩ := staged.planned
  have recorded := inv.recorded _ (inv.sound cache handle).readsIndex
  refine ⟨sound.tidy, fun index reads => ?_, fun held again => ?_, fun held again => ?_,
    fun _ _ _ _ _ entered => by cases entered⟩
  · cases readsIndex_unique reads sound.readsIndex
    refine ⟨fun entry member => ?_, fun entry member => ?_⟩
    · obtain ⟨_, _, next, counted, below⟩ := ordered
      cases counted
      rw [mergeHitRecencies_nil] at below
      have low := below entry member
      rw [UInt64.lt_iff_toNat_lt] at low
      have := prepared.followingRecency.toNat_lt
      omega
    · rcases planned.entry_origin member with ⟨own, named⟩ | ⟨other, old, inside, identity⟩
      · refine ⟨page, _, ?_, (named ▸ has).congr (kept _)⟩
        rw [own]
        exact Function.update_self ..
      · rw [loaded, same] at inside
        obtain ⟨oldPage, metadata, last, held⟩ := recorded.pages old inside
        rw [identity] at last held
        refine ⟨oldPage, metadata, ?_, held.congr (kept _)⟩
        exact (Function.update_of_ne other ..).trans last
  · cases again
    exact sound
  · cases again
    exact ordered

theorem handleInv_step (codecs : host.RoundTrips) {s t : HandleState host} {event : HandleEvent}
    (step : HandleStep host s event t) (inv : HandleInv host s) : HandleInv host t := by
  cases step with
  | opened disk generation last => exact handleInv_opened inv generation
  | closed => exact .withoutHandle inv.tidy inv.recorded rfl
  | hit handle recorded => exact handleInv_hit inv handle recorded
  | @prepared _ cache kernel request page received prepared handle idle read done =>
    obtain ⟨_, ended⟩ := meets_preparePublication codecs kernel request read received s.disk
      (Steady.self (inv.sound cache handle))
    rw [done] at ended
    refine handleInv_steady inv handle ended.steady _ fun held named same entered => ?_
    cases entered
    exact ready_of_prepared (inv.ordered cache handle) ended
  | @prepareFailed _ cache kernel request page received failure handle idle read done =>
    obtain ⟨_, ended⟩ := meets_preparePublication codecs kernel request read received s.disk
      (Steady.self (inv.sound cache handle))
    rw [done] at ended
    refine handleInv_steady inv handle ended s.phase fun held named same entered => ?_
    rw [idle] at entered
    cases entered
  | @committed _ cache after kernel prepared request page committed handle ready done =>
    rcases commitPublication_cases kernel prepared s.disk with ⟨failure, failed⟩ |
      ⟨files, renamed, moved⟩
    · rw [failed] at done
      cases done
    · rw [moved] at done ⊢
      cases done
      exact handleInv_committed codecs inv handle ready renamed _
  | @commitFailed _ cache kernel prepared kept request page failure handle ready done =>
    rcases commitPublication_cases kernel prepared s.disk with ⟨other, failed⟩ |
      ⟨files, renamed, moved⟩
    · rw [failed] at done ⊢
      cases done
      refine handleInv_steady inv handle (Steady.self (inv.sound cache handle)) _
        fun held named same entered => ?_
      cases entered
      exact inv.ready cache _ _ _ handle ready
    · rw [moved] at done
      cases done
  | @finished _ cache kernel committed handle ready =>
    exact handleInv_steady inv handle ((meets_finishPublication kernel cache committed).final
      (Steady.self (inv.sound cache handle))) _ fun _ _ _ entered => by cases entered
  | @discarded _ cache kernel prepared request page handle ready =>
    exact handleInv_steady inv handle ((meets_discardPreparedPublication kernel prepared).final
      (Steady.self (inv.sound cache handle))) _ fun _ _ _ entered => by cases entered

theorem handleInv_run (codecs : host.RoundTrips) {s : HandleState host}
    {events : List HandleEvent} (run : Run (HandleStep host) (.initial host) events s) :
    HandleInv host s :=
  run.invariant (fun _ _ _ step => handleInv_step codecs step) handleInv_initial

/-- The bounded map: what a lookup says of an index and the pages last committed. -/
def lookupIn (index : CacheIndex)
    (last : CacheRequest → Option (ConversationHistoryPage host.Item)) (request : CacheRequest)
    (now : Int64) : CacheLookup host :=
  match validateRequest request with
  | .error failure => .failure failure
  | .ok () =>
    if now.toInt < 0 then .failure ⟨.invalidInput⟩
    else
      match index.entries.find? (entryMatchesRequest · request) with
      | none => .miss .notFound
      | some entry =>
        if isFreshEligible entry.freshReceivedAtUnixSeconds now = false then .miss .ineligible
        else
          match last request with
          | none => .miss .notFound
          | some page => .hit ⟨entry.identity, page, entry.freshReceivedAtUnixSeconds⟩

theorem find_matches {entries : List IndexEntry} {request : CacheRequest} {entry : IndexEntry}
    (found : entries.find? (entryMatchesRequest · request) = some entry) :
    entry.identity.request = request :=
  entryMatchesRequest_iff.mp
    (List.find?_some (p := fun held => entryMatchesRequest held request) found)

theorem lookupPage_eq {disk : CacheDirectory} {cache : HistoryPageCache}
    {last : CacheRequest → Option (ConversationHistoryPage host.Item)}
    (sound : Sound host disk cache.index) (recorded : Recorded host disk last cache.index)
    (request : CacheRequest) (now : Int64) :
    lookupPage host disk cache request now = lookupIn cache.index last request now := by
  have entriesValid (shape : DirectoryShape) : validateDirectoryEntries disk shape = .ok () := by
    obtain ⟨names, listed⟩ := sound.namesValid shape
    unfold validateDirectoryEntries
    rw [listed, ok_bind]
  unfold lookupPage lookupIn
  cases validateRequest request with
  | error failure => rfl
  | ok =>
    dsimp only
    split
    · rfl
    · unfold lookupInner
      rw [sound.lockValid none, ok_bind, sound.directory .root, ok_bind, sound.directory .pages,
        ok_bind, entriesValid .root, ok_bind, entriesValid .pages, ok_bind]
      cases found : cache.index.entries.find? (entryMatchesRequest · request) with
      | none => rfl
      | some entry =>
        dsimp only
        by_cases stale : isFreshEligible entry.freshReceivedAtUnixSeconds now = false
        · rw [if_pos stale, if_pos stale]
        · rw [if_neg stale, if_neg stale]
          have member := List.mem_of_find?_eq_some found
          obtain ⟨page, metadata, committed, has⟩ := recorded.pages entry member
          have matched := find_matches found
          obtain ⟨pageFiles, validated, held⟩ := sound.valid
          obtain ⟨counted, named, items, bytes⟩ := validateIndex_pages validated entry member
          obtain ⟨other, again⟩ := held _ _ named (List.mem_map.mpr ⟨entry, member, rfl⟩)
          obtain ⟨_, same⟩ := has.unique again
          rw [readValidatedPage_ok.mpr has, ok_bind]
          dsimp only
          rw [refuse_eq_ok.mpr (by rw [same, items, bytes]; simp), ok_bind, ← matched, committed]

theorem isFreshEligible_iff {received now : Int64} : isFreshEligible received now = true ↔
    0 ≤ now.toInt - received.toInt ∧ now.toInt - received.toInt < 900 := by
  unfold isFreshEligible freshEligibilitySeconds
  rw [Bool.and_eq_true, decide_eq_true_eq, decide_eq_true_eq]
  omega

/-- A lookup hits exactly when the index holds a fresh entry of the request. -/
theorem lookupIn_hit_iff {disk : CacheDirectory} {index : CacheIndex}
    {last : CacheRequest → Option (ConversationHistoryPage host.Item)}
    (sound : Sound host disk index) (recorded : Recorded host disk last index)
    (request : CacheRequest) (now : Int64) :
    (∃ hit, lookupIn index last request now = .hit hit) ↔
      ∃ entry ∈ index.entries, entryMatchesRequest entry request = true ∧
        0 ≤ now.toInt - entry.freshReceivedAtUnixSeconds.toInt ∧
        now.toInt - entry.freshReceivedAtUnixSeconds.toInt < 900 := by
  have valid := validEntries_of_sound sound
  constructor
  · rintro ⟨hit, looked⟩
    unfold lookupIn at looked
    split at looked
    · cases looked
    · split at looked
      · cases looked
      · split at looked
        · cases looked
        · rename_i entry found
          split at looked
          · cases looked
          · rename_i fresh
            rw [Bool.not_eq_false, isFreshEligible_iff] at fresh
            exact ⟨entry, List.mem_of_find?_eq_some found,
              entryMatchesRequest_iff.mpr (find_matches found), fresh⟩
  · rintro ⟨entry, member, matched, fresh⟩
    have asked := entryMatchesRequest_iff.mp matched
    obtain ⟨other, found⟩ := Option.isSome_iff_exists.mp
      (List.find?_isSome.mpr ⟨entry, member, matched⟩ :
        (index.entries.find? (entryMatchesRequest · request)).isSome = true)
    have same : other = entry := by
      refine valid.unique (List.mem_of_find?_eq_some found) member ?_
      exact (find_matches found).trans asked.symm
    subst same
    obtain ⟨page, _, committed, _⟩ := recorded.pages other member
    have received := valid.received other member
    refine ⟨⟨other.identity, page, other.freshReceivedAtUnixSeconds⟩, ?_⟩
    unfold lookupIn
    rw [← asked] at found ⊢
    rw [validateRequest_of_identity (valid.identities other member)]
    dsimp only
    rw [if_neg (by omega), found]
    dsimp only
    rw [if_neg (by rw [isFreshEligible_iff.mpr fresh]; simp), committed]

theorem lookupIn_page {index : CacheIndex}
    {last : CacheRequest → Option (ConversationHistoryPage host.Item)} {request : CacheRequest}
    {now : Int64} {hit : CacheHit host} (looked : lookupIn index last request now = .hit hit) :
    last request = some hit.page := by
  unfold lookupIn at looked
  split at looked
  · cases looked
  · split at looked
    · cases looked
    · split at looked
      · cases looked
      · split at looked
        · cases looked
        · split at looked
          · cases looked
          · rename_i page committed
            cases looked
            exact committed

/-- Preparing, discarding and finishing a publication, and recording a hit. -/
def Uncommitted : HandleEvent → Prop
  | .hit | .prepared | .prepareFailed | .commitFailed | .finished | .discarded => True
  | .opened | .closed | .committed => False

theorem handleStep_uncommitted {s t : HandleState host} {event : HandleEvent}
    (step : HandleStep host s event t) (uncommitted : Uncommitted event) :
    t.last = s.last ∧ t.cache.map (·.index) = s.cache.map (·.index) := by
  cases step with
  | opened => exact uncommitted.elim
  | closed => exact uncommitted.elim
  | committed => exact uncommitted.elim
  | hit handle recorded =>
    refine ⟨rfl, ?_⟩
    rw [handle, Option.map_some, Option.map_some, recordHitRecency_index recorded]
  | prepared => exact ⟨rfl, rfl⟩
  | prepareFailed => exact ⟨rfl, rfl⟩
  | commitFailed => exact ⟨rfl, rfl⟩
  | finished => exact ⟨rfl, rfl⟩
  | discarded => exact ⟨rfl, rfl⟩

theorem run_uncommitted {s t : HandleState host} {events : List HandleEvent}
    (run : Run (HandleStep host) s events t) (uncommitted : ∀ event ∈ events, Uncommitted event) :
    t.last = s.last ∧ t.cache.map (·.index) = s.cache.map (·.index) := by
  refine (run.restrict uncommitted).relates
    (R := fun s t => t.last = s.last ∧ t.cache.map (·.index) = s.cache.map (·.index))
    (fun _ => ⟨rfl, rfl⟩) (fun s m t first second => ?_) fun s event t step =>
      handleStep_uncommitted step.1 step.2
  exact ⟨second.1.trans first.1, second.2.trans first.2⟩

/-- In every reachable state the index is valid, the recencies are ordered, a lookup hits
exactly on the fresh entries with the page last committed, and publications that are not
committed change no lookup. -/
theorem cache_refines_map (codecs : host.RoundTrips) {s : HandleState host}
    {events : List HandleEvent} {cache : HistoryPageCache}
    (run : Run (HandleStep host) (.initial host) events s) (handle : s.cache = some cache) :
    (∃ inventory, loadValidatedCacheState host s.disk = .ok ⟨cache.index, inventory⟩ ∧
      validateIndex cache.index inventory.pageFiles = .ok ()) ∧
    Ordered cache ∧
    (∀ request now, (∃ hit, lookupPage host s.disk cache request now = .hit hit) ↔
      ∃ entry ∈ cache.index.entries, entryMatchesRequest entry request = true ∧
        0 ≤ now.toInt - entry.freshReceivedAtUnixSeconds.toInt ∧
        now.toInt - entry.freshReceivedAtUnixSeconds.toInt < 900) ∧
    (∀ request now hit, lookupPage host s.disk cache request now = .hit hit →
      s.last request = some hit.page) ∧
    ∀ t later after, Run (HandleStep host) s later t → (∀ event ∈ later, Uncommitted event) →
      t.cache = some after → ∀ request now,
        lookupPage host t.disk after request now = lookupPage host s.disk cache request now := by
  have inv := handleInv_run codecs run
  have sound := inv.sound cache handle
  have recorded := inv.recorded _ sound.readsIndex
  refine ⟨?_, inv.ordered cache handle, fun request now => ?_, fun request now hit looked => ?_,
    fun t later after next uncommitted opened request now => ?_⟩
  · obtain ⟨inventory, loaded⟩ := sound.load
    exact ⟨inventory, loaded, loaded_valid loaded⟩
  · rw [lookupPage_eq sound recorded]
    exact lookupIn_hit_iff sound recorded request now
  · rw [lookupPage_eq sound recorded] at looked
    exact lookupIn_page looked
  · have invAfter := handleInv_run codecs (run.append next)
    have soundAfter := invAfter.sound after opened
    obtain ⟨last, index⟩ := run_uncommitted next uncommitted
    rw [opened, handle, Option.map_some, Option.map_some, Option.some.injEq] at index
    rw [lookupPage_eq soundAfter (invAfter.recorded _ soundAfter.readsIndex),
      lookupPage_eq sound recorded, last, index]

section Sample

open CacheCrashes Samples

def samplePrepared : PreparedCachePublication where
  candidate := sampleIndex
  followingRecency := 2
  createdPageDigest := some samplePageDigest
  reinitialized := false

def sampleCommitted : HistoryPageCache := ⟨sampleIndex, [], some 2⟩

noncomputable def sampleStagedDisk : CacheDirectory :=
  (preparePublication sampleCacheHost noFaults (openedCache .empty) sampleRequest samplePage 10000
    sampleDisk).final

noncomputable def samplePublishedDisk : CacheDirectory :=
  (commitPublication noFaults samplePrepared sampleStagedDisk).final

theorem samplePrepared_done : (preparePublication sampleCacheHost noFaults (openedCache .empty)
    sampleRequest samplePage 10000 sampleDisk).result = .ok samplePrepared := by decide +kernel

theorem sampleCommitted_done : (commitPublication noFaults samplePrepared
    sampleStagedDisk).result = .ok (sampleCommitted, ⟨false⟩) := by decide +kernel

/-- The published page of the sample request is a hit until second 10900. -/
theorem sample_lookup_hits : ∃ s : HandleState sampleCacheHost,
    Run (HandleStep sampleCacheHost) (.initial sampleCacheHost) [.opened, .prepared, .committed] s ∧
      s.cache = some sampleCommitted ∧ Ordered sampleCommitted ∧
      ∃ hit, lookupPage sampleCacheHost s.disk sampleCommitted sampleRequest 10899 = .hit hit ∧
        s.last sampleRequest = some hit.page := by
  have opened : HandleStep sampleCacheHost (.initial sampleCacheHost) .opened
      ⟨sampleDisk, _, .idle, fun _ => none⟩ := .opened .absent cacheSchemaGeneration _
  rw [sampleDisk_opened] at opened
  have prepared : HandleStep sampleCacheHost _ .prepared ⟨sampleStagedDisk, _, _, _⟩ :=
    .prepared (s := ⟨sampleDisk, some (openedCache .empty), .idle, fun _ => none⟩) rfl rfl
      samplePage_received samplePrepared_done
  have committed : HandleStep sampleCacheHost _ .committed ⟨samplePublishedDisk, _, _, _⟩ :=
    .committed (s := ⟨sampleStagedDisk, some (openedCache .empty),
      .prepared samplePrepared sampleRequest samplePage, fun _ => none⟩) rfl rfl
      sampleCommitted_done
  have run := Run.cons opened (.cons prepared (.single committed))
  obtain ⟨_, ordered, hits, pages, _⟩ := cache_refines_map sampleCacheHost_roundTrips run rfl
  obtain ⟨hit, looked⟩ := (hits sampleRequest 10899).mpr
    ⟨sampleIndex.entries.head nofun, by decide, by decide, by decide, by decide⟩
  exact ⟨_, run, rfl, ordered, hit, looked, pages _ _ _ looked⟩

end Sample

end Decodex.Guarantees.CacheLookups
