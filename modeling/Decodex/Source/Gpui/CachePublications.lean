import Decodex.Source.Gpui.CacheChanges

/-!
# History page cache: what opening and a whole publication leave

The crash triples of `HistoryPageCache::open`, `prepare_publication`, `commit_publication`,
`finish_publication` and `discard_prepared_publication`, from the triples of their parts.
-/
namespace Decodex.Source.Gpui

open Decodex.Library Decodex.Source.Core

variable {host : CacheHost} {base d t : CacheDirectory} {index : CacheIndex} {kernel : Kernel}
  {cache : HistoryPageCache} {request : CacheRequest} {page : ConversationHistoryPage host.Item}
  {freshReceivedAt : Int64} {prepared : PreparedCachePublication}

theorem meets_preparePublication (codecs : host.RoundTrips) (kernel : Kernel)
    (request : CacheRequest) {page : ConversationHistoryPage host.Item}
    (received : host.Received page) (freshReceivedAt : Int64) :
    CrashTriple host base cache.index (Steady host base cache.index)
      (preparePublication host kernel cache request page freshReceivedAt)
      (Prepared host base cache request page freshReceivedAt) := by
  unfold preparePublication
  refine .bind (fun hashed t => (validateRequest request = .ok () ∧ 0 ≤ freshReceivedAt.toInt ∧
    pageBytesAndDigest host page = .ok hashed) ∧ Steady host base cache.index t)
    (meets_reading (fun _ held => held) fun t hashed held read => ?_) fun hashed => ?_
  · obtain ⟨_, validated, read⟩ := bind_ok read
    obtain ⟨_, known, read⟩ := bind_ok read
    exact ⟨⟨validated, Int.not_lt.mp (refuse_eq_ok.mp known), read⟩, held⟩
  · refine .assuming fun checked => ?_
    obtain ⟨bytes, digest⟩ := hashed
    obtain ⟨same, content⟩ := pageContent_of_bytes codecs received checked.2.2
    subst same
    exact meets_preparePublicationWithFaults codecs request received freshReceivedAt content

/-- The index stage becomes the index; the pages stay. -/
theorem Prepared.renamed (codecs : host.RoundTrips) {files : Volume Place}
    (staged : Prepared host base cache request page freshReceivedAt prepared t)
    (renamed : t.files.rename indexStagePlace indexPlace = .ok files) :
    Sound host { t with files } prepared.candidate ∧
      ∀ digest, files.stat (pagePlace digest) = t.files.stat (pagePlace digest) := by
  have sound := staged.steady.sound
  have stat := Volume.rename_stat sound.unshared (by decide) renamed
  obtain ⟨file, found, serialized⟩ := staged.staged
  obtain ⟨isPrivate, _⟩ := sound.files _ _ found
  obtain ⟨written, _, short⟩ := serializeIndex_ok.mp serialized
  have pages : ∀ digest, files.stat (pagePlace digest) = t.files.stat (pagePlace digest) := by
    intro digest
    rw [stat, if_neg nofun, if_neg nofun]
  have schema : prepared.candidate.schemaId = cacheSchemaId := by
    obtain ⟨pageFiles, validated, _⟩ := staged.valid
    unfold validateIndex at validated
    obtain ⟨_, schema, _⟩ := bind_ok validated
    exact Classical.not_not.mp (refuse_eq_ok.mp schema)
  have sub : ∀ place, place ∈ files.names → place = indexPlace ∨ place ∈ t.files.names := by
    intro place member
    have held := (stat_isSome (d := { t with files })).mpr member
    change (files.stat place).isSome = true at held
    rw [stat] at held
    split at held
    · rename_i same
      exact .inl same
    · split at held
      · cases held
      · exact .inr (stat_isSome.mp held)
  have still : ({ t with files } : CacheDirectory).Tidy := by
    intro member
    rcases sub _ member with same | old
    · exact absurd same (by decide)
    · exact sound.tidy old
  refine ⟨⟨sound.root, sound.pages, ?_, fun place reached named => ?_, ?_, ?_, ?_, ?_⟩, pages⟩
  · have held := stat_isSome.mpr sound.lock
    have kept : files.stat lockPlace = t.files.stat lockPlace := by
      rw [stat, if_neg (by decide), if_neg (by decide)]
    rw [← kept] at held
    exact (stat_isSome (d := { t with files })).mp held
  · change files.stat place = _ at named
    rw [stat] at named
    split at named
    · rename_i same
      rw [found] at named
      cases named
      rw [same]
      refine ⟨isPrivate, .inr (.inl ⟨rfl, ?_⟩)⟩
      rw [written]
      exact written ▸ short
    · split at named
      · cases named
      · exact sound.files place reached named
  · change ReadsIndex host prepared.candidate (files.stat indexPlace)
    rw [stat, if_pos rfl, found]
    exact ⟨short, written ▸ codecs.index.reads _ trivial, schema, serialized⟩
  · refine Nat.le_trans (pageNames_le [] (fun name member => ?_) still) ?_
    · rcases sub _ member with same | old
      · cases same
      · exact .inr old
    · simpa using sound.fewPages
  · exact Nat.le_trans (Volume.rename_used_le renamed) sound.bounded
  · exact staged.valid.congr fun digest _ => pages digest

/-- The candidate is the index of the directory; its pages are where they were prepared. -/
structure Committed (host : CacheHost) (base : CacheDirectory) (cache : HistoryPageCache)
    (request : CacheRequest) (page : ConversationHistoryPage host.Item) (freshReceivedAt : Int64)
    (prepared : PreparedCachePublication) (t : CacheDirectory) : Prop where
  sound : Sound host t prepared.candidate
  pages : ∀ digest ∈ referencedDigests cache.index,
    t.files.stat (pagePlace digest) = base.files.stat (pagePlace digest)
  planned : ∃ state digest indexBytes pageExists, state.index = cache.index ∧
    Planned host cache state request page freshReceivedAt (host.pageJson.toVec page) digest
      prepared.candidate indexBytes prepared.followingRecency prepared.reinitialized pageExists ∧
    HasPage host t digest page ⟨(host.pageJson.toVec page).length, page.items.length⟩

theorem Prepared.committed (codecs : host.RoundTrips) {files : Volume Place}
    (staged : Prepared host base cache request page freshReceivedAt prepared t)
    (renamed : t.files.rename indexStagePlace indexPlace = .ok files) :
    Committed host base cache request page freshReceivedAt prepared { t with files } := by
  obtain ⟨sound, pages⟩ := staged.renamed codecs renamed
  obtain ⟨state, digest, indexBytes, pageExists, same, planned, has⟩ := staged.planned
  refine ⟨sound, fun digest referenced => ?_, state, digest, indexBytes, pageExists, same, planned,
    has.congr (pages digest)⟩
  exact (pages digest).trans (staged.steady.pages digest referenced)

/-- A commit fails before its one step, or takes it. -/
theorem commitPublication_cases (kernel : Kernel) (prepared : PreparedCachePublication)
    (t : CacheDirectory) :
    (∃ failure, commitPublication kernel prepared t = ⟨[], .error (prepared, failure), t⟩) ∨
    ∃ files, t.files.rename indexStagePlace indexPlace = .ok files ∧
      commitPublication kernel prepared t = ⟨[(.rename, { t with files })],
        .ok (⟨prepared.candidate, [], some prepared.followingRecency⟩, ⟨prepared.reinitialized⟩),
        { t with files }⟩ := by
  unfold commitPublication
  rw [Script.attempt_bind]
  cases faulted : kernel.faults .indexPublish with
  | error failure =>
    have checked : (check kernel .indexPublish t).result = .error failure := faulted
    rw [Script.bind_of_error checked]
    exact .inl ⟨failure, rfl⟩
  | ok =>
    have checked : (check kernel .indexPublish t).result = .ok () := faulted
    rw [Script.bind_of_ok checked]
    cases renamed : t.files.rename indexStagePlace indexPlace with
    | error errno =>
      have kept : renameAt indexStagePlace indexPlace t = ⟨[], .error ioFailure, t⟩ := by
        unfold renameAt Script.step
        simp only [renamed]
      rw [show (check kernel .indexPublish t).final = t from rfl, kept]
      exact .inl ⟨ioFailure, rfl⟩
    | ok files =>
      have moved : renameAt indexStagePlace indexPlace t =
          ⟨[(.rename, { t with files })], .ok (), { t with files }⟩ := by
        unfold renameAt Script.step
        simp only [renamed]
      rw [show (check kernel .indexPublish t).final = t from rfl, moved]
      exact .inr ⟨files, rfl, rfl⟩

theorem meets_cleanNewlyUnreferencedPages (state : ValidatedCacheState) :
    CrashTriple host base state.index (Steady host base state.index)
      (cleanNewlyUnreferencedPages host kernel state)
      fun _ t => Steady host base state.index t := by
  have own : ∀ t, Steady host base state.index t → Steady host base state.index t :=
    fun _ steady => steady
  unfold cleanNewlyUnreferencedPages
  refine .bind _ (meets_unlinkUnreferenced state) fun _ => ?_
  refine .bind _ (meets_syncChanged own _) fun _ => ?_
  refine .bind _ (meets_reading own fun _ _ held _ => held) fun _ => ?_
  exact .bind _ (meets_reading own fun _ _ held _ => held) fun _ => .ret own

theorem meets_finishPublication (kernel : Kernel) (cache : HistoryPageCache)
    (committed : CommittedCachePublication) :
    CrashTriple host base cache.index (Steady host base cache.index)
      (finishPublication host kernel cache committed)
      fun _ t => Steady host base cache.index t := by
  have own : ∀ t, Steady host base cache.index t → Steady host base cache.index t :=
    fun _ steady => steady
  unfold finishPublication
  refine .bind _ (meets_check own _) fun _ => ?_
  refine .bind _ (meets_sync own) fun _ => ?_
  refine .bind _ (meets_reading own fun _ _ held _ => held) fun published => ?_
  refine .bind (fun _ t => published.index = cache.index ∧ Steady host base cache.index t)
    (meets_reading own fun t _ held checked => ⟨?_, held⟩) fun _ => .assuming fun same => ?_
  · exact Classical.not_not.mp (refuse_eq_ok.mp checked)
  rw [← same] at own ⊢
  refine .bind _ (meets_cleanNewlyUnreferencedPages published) fun _ => ?_
  exact .bind _ (meets_reading own fun _ _ held _ => held) fun _ => .ret own

theorem meets_discardPage (created : Option String) :
    CrashTriple host base cache.index (Steady host base cache.index) (discardPage cache created)
      fun _ t => Steady host base cache.index t := by
  cases created with
  | none => exact .ret fun _ held => held
  | some digest =>
    unfold discardPage
    refine .bind (fun _ t => digest ∉ referencedDigests cache.index ∧
      Steady host base cache.index t)
      (meets_reading (fun _ held => held) fun t _ held checked => ⟨?_, held⟩)
      fun _ => .assuming fun unreferenced => ?_
    · exact refuse_eq_ok.mp checked
    · have spare : ¬Needed cache.index (pagePlace digest) := by
        rintro (same | same | ⟨other, referenced, same⟩)
        · cases same
        · cases same
        · rw [← show digest = other from congrArg Place.name same] at referenced
          exact unreferenced referenced
      refine .bind _ (meets_unlink (fun _ held => held) (fun _ _ => spare)
        fun _ held => held.remove spare) fun _ => .ret fun _ held => held

theorem meets_discardPreparedPublication (kernel : Kernel)
    (prepared : PreparedCachePublication) :
    CrashTriple host base cache.index (Steady host base cache.index)
      (discardPreparedPublication host kernel cache prepared)
      fun _ t => Steady host base cache.index t := by
  have own : ∀ t, Steady host base cache.index t → Steady host base cache.index t :=
    fun _ steady => steady
  unfold discardPreparedPublication
  refine .bind _ (meets_unlinkStage .root true) fun _ => ?_
  refine .bind _ (meets_discardPage _) fun _ => ?_
  refine .bind _ (meets_check own _) fun _ => ?_
  refine .bind _ (meets_sync own) fun _ => ?_
  refine .bind _ (meets_syncChanged own _) fun _ => ?_
  refine .bind _ (meets_reading own fun _ _ held _ => held) fun _ => ?_
  exact meets_reading own fun _ _ held _ => held

/-- What a stop in a publication leaves, by the call that it follows: the index that was there
before or the one that is there after it, but for the link of its page. -/
def Stopped (host : CacheHost) (before after : CacheIndex) (call : Call) (t : CacheDirectory) :
    Prop :=
  if call = .link then Doubled t else Sound host t before ∨ Sound host t after

theorem Crashed.stopped {call : Call} (after : CacheIndex)
    (crashed : Crashed host base index call t) : Stopped host index after call t := by
  unfold Crashed at crashed
  unfold Stopped
  split
  · rename_i link
    rwa [if_pos link] at crashed
  · rename_i other
    rw [if_neg other] at crashed
    exact .inl crashed.sound

theorem Crashed.stoppedAfter {call : Call} (before : CacheIndex)
    (crashed : Crashed host base index call t) : Stopped host before index call t := by
  unfold Crashed at crashed
  unfold Stopped
  split
  · rename_i link
    rwa [if_pos link] at crashed
  · rename_i other
    rw [if_neg other] at crashed
    exact .inr crashed.sound

theorem Stopped.tidy {before after : CacheIndex} {call : Call}
    (stopped : Stopped host before after call t) : t.Tidy := by
  unfold Stopped at stopped
  split at stopped
  · exact stopped.tidy
  · rcases stopped with sound | sound
    · exact sound.tidy
    · exact sound.tidy

/-- How a publication from `base` ends: with the cache as it was, or with its candidate. -/
inductive PublicationEnd (host : CacheHost) (base : CacheDirectory) (cache : HistoryPageCache)
    (request : CacheRequest) (page : ConversationHistoryPage host.Item)
    (freshReceivedAt : Int64) : HistoryPageCache → CacheDirectory → Prop where
  | kept {t : CacheDirectory} (steady : Steady host base cache.index t) :
      PublicationEnd host base cache request page freshReceivedAt cache t
  | published {prepared : PreparedCachePublication} {installed t : CacheDirectory}
      (committed : Committed host base cache request page freshReceivedAt prepared installed)
      (steady : Steady host installed prepared.candidate t) :
      PublicationEnd host base cache request page freshReceivedAt
        ⟨prepared.candidate, [], some prepared.followingRecency⟩ t

theorem PublicationEnd.sound {after : HistoryPageCache}
    (ended : PublicationEnd host base cache request page freshReceivedAt after t) :
    Sound host t after.index := by
  cases ended with
  | kept steady => exact steady.sound
  | published _ steady => exact steady.sound

/-- A publication on a sound directory, from its first step to its end. -/
theorem publishFreshPage_spec (codecs : host.RoundTrips) (kernel : Kernel)
    (request : CacheRequest) {page : ConversationHistoryPage host.Item}
    (received : host.Received page) (freshReceivedAt : Int64) (stale : Bool)
    (sound : Sound host d cache.index) : ∃ after failure,
      (publishFreshPage host kernel cache request page freshReceivedAt stale d).result =
        .ok (after, failure) ∧
      PublicationEnd host d cache request page freshReceivedAt after
        (publishFreshPage host kernel cache request page freshReceivedAt stale d).final ∧
      ∀ stop ∈ (publishFreshPage host kernel cache request page freshReceivedAt stale d).passed,
        Stopped host cache.index after.index stop.1 stop.2 := by
  obtain ⟨stops, ended⟩ := meets_preparePublication codecs kernel request received
    freshReceivedAt d (Steady.self sound)
  unfold publishFreshPage
  rw [Script.attempt_bind]
  cases result : (preparePublication host kernel cache request page freshReceivedAt d).result with
  | error failure =>
    rw [result] at ended
    refine ⟨cache, some failure, rfl, .kept ended, fun stop member => ?_⟩
    rcases List.mem_append.mp member with member | member
    · exact (stops stop member).stopped _
    · cases member
  | ok prepared =>
    rw [result] at ended
    have discards := meets_discardPreparedPublication kernel prepared
      (preparePublication host kernel cache request page freshReceivedAt d).final ended.steady
    have discarded := (meets_discardPreparedPublication kernel prepared).final ended.steady
    generalize (preparePublication host kernel cache request page freshReceivedAt d).passed =
      before at stops
    generalize (preparePublication host kernel cache request page freshReceivedAt d).final =
      staged at ended discards discarded
    dsimp only
    cases stale with
    | true =>
      rw [if_pos rfl, Script.attempt_bind]
      refine ⟨cache, _, rfl, .kept discarded, fun stop member => ?_⟩
      rcases List.mem_append.mp member with member | member
      · exact (stops stop member).stopped _
      rcases List.mem_append.mp member with member | member
      · exact (discards.1 stop member).stopped _
      · cases member
    | false =>
      rw [if_neg Bool.false_ne_true, Script.attempt_bind]
      rcases commitPublication_cases kernel prepared staged with ⟨failure, failed⟩ |
        ⟨files, renamed, done⟩
      · rw [failed]
        dsimp only
        rw [Script.attempt_bind]
        refine ⟨cache, _, rfl, .kept discarded, fun stop member => ?_⟩
        rcases List.mem_append.mp member with member | member
        · exact (stops stop member).stopped _
        rcases List.mem_append.mp member with member | member
        · cases member
        rcases List.mem_append.mp member with member | member
        · exact (discards.1 stop member).stopped _
        · cases member
      · have committed := ended.committed codecs renamed
        rw [done]
        dsimp only
        rw [Script.attempt_bind]
        have finishes : CrashTriple host { staged with files } prepared.candidate _ _ _ :=
          meets_finishPublication kernel
            ⟨prepared.candidate, [], some prepared.followingRecency⟩ ⟨prepared.reinitialized⟩
        refine ⟨_, _, rfl, .published committed (finishes.final (Steady.self committed.sound)),
          fun stop member => ?_⟩
        rcases List.mem_append.mp member with member | member
        · exact (stops stop member).stopped _
        rcases List.mem_append.mp member with member | member
        · rw [List.mem_singleton.mp member]
          unfold Stopped
          rw [if_neg nofun]
          exact .inr committed.sound
        rcases List.mem_append.mp member with member | member
        · exact ((finishes _ (Steady.self committed.sound)).1 stop member).stoppedAfter _
        · cases member

/-- The handle of a directory with this index. -/
def openedCache (index : CacheIndex) : HistoryPageCache where
  index
  hitRecency := []
  nextRecency := checkedSucc (index.entries.foldl (fun most entry => max most entry.recency) 0)

section Opening

variable {inv : CacheDirectory → Prop} {post : HistoryPageCache → CacheDirectory → Prop}

theorem meets_openOrCreateDirectoryAt {shape : DirectoryShape}
    (made : ∀ t, inv t →
      inv (t.makeDirectory ⟨host.effectiveUid, privateDirectoryMode⟩ shape)) :
    (openOrCreateDirectoryAt host shape).Meets inv (fun _ t => inv t) (fun _ t => inv t)
      fun _ t => inv t := by
  unfold openOrCreateDirectoryAt
  refine .bind (fun _ t => inv t) (.observe (fun _ _ held _ => held) fun _ _ held _ => held)
    fun created => ?_
  refine .bind (fun _ t => inv t) (.provided (fun _ => .step (fun _ _ _ failed => by cases failed)
    fun t _ after held done => ?_)
    fun _ _ held => held) fun _ => ?_
  · cases done
    exact ⟨made t held, made t held⟩
  refine .bind (fun _ t => inv t) (.observe (fun _ _ held _ => held) fun _ _ held _ => held)
    fun _ => ?_
  refine .provided (fun _ => .step (fun _ _ _ failed => by cases failed)
    fun t _ after held done => ?_) fun _ _ held => held
  cases done
  exact ⟨held, held⟩

theorem meets_openOrCreateLock
    (locked : ∀ t number files, inv t → t.files.create lockPlace host.effectiveUid
      privateFileMode = .ok (number, files) → inv { t with files }) :
    (openOrCreateLock host).Meets inv (fun _ t => inv t) (fun _ t => inv t) fun _ t => inv t := by
  unfold openOrCreateLock
  refine .bind (fun _ t => inv t) (.observe (fun _ _ held _ => held) fun _ _ held _ => held)
    fun taken => ?_
  refine .bind (fun _ t => inv t) (.provided (fun _ => .step (fun _ _ held _ => held)
    fun t _ after held done => ?_) fun _ _ held => held) fun _ => ?_
  · split at done
    · rename_i created
      cases done
      have kept := locked t _ _ held created
      exact ⟨kept, kept⟩
    · cases done
  refine .bind (fun _ t => inv t) (.observe (fun _ _ held _ => held) fun _ _ held _ => held)
    fun _ => ?_
  refine .step (fun _ _ _ failed => by cases failed) fun t _ after held done => ?_
  cases done
  exact ⟨held, held⟩

/-- Opening keeps what making the directories and the lock keeps, and loads the index. -/
theorem meets_openCache (schemaGeneration : UInt32)
    (made : ∀ t shape, inv t →
      inv (t.makeDirectory ⟨host.effectiveUid, privateDirectoryMode⟩ shape))
    (locked : ∀ t number files, inv t → t.files.create lockPlace host.effectiveUid
      privateFileMode = .ok (number, files) → inv { t with files })
    (loaded : ∀ t state, inv t → loadValidatedCacheState host t = .ok state →
      post (openedCache state.index) t) :
    (openCache host schemaGeneration).Meets inv (fun _ t => inv t) (fun _ t => inv t) post := by
  unfold openCache
  refine .bind (fun _ t => inv t) (.observe (fun _ _ held _ => held) fun _ _ held _ => held)
    fun _ => ?_
  refine .bind _ (meets_openOrCreateDirectoryAt fun t held => made t .root held) fun _ => ?_
  refine .bind _ (meets_openOrCreateLock locked) fun _ => ?_
  refine .bind (fun _ t => inv t) (.observe (fun _ _ held _ => held) fun _ _ held _ => held)
    fun _ => ?_
  refine .bind _ (meets_openOrCreateDirectoryAt fun t held => made t .pages held) fun _ => ?_
  refine .bind (fun _ t => inv t) (.observe (fun _ _ held _ => held) fun _ _ held _ => held)
    fun _ => ?_
  refine .bind (fun state t => inv t ∧ loadValidatedCacheState host t = .ok state)
    (.observe (fun _ _ held _ => held) fun _ _ held read => ⟨held, read⟩) fun state => ?_
  exact .ret fun t held => loaded t state held.1 held.2

end Opening

/-- A directory that exists is opened as it is. -/
theorem meets_openOrCreateDirectoryAt_present {shape : DirectoryShape}
    (sound : Sound host d index) :
    (openOrCreateDirectoryAt host shape).Meets (· = d) (fun _ t => t = d) (fun _ _ => False)
      fun _ t => t = d := by
  have present : (d.status shape).isNone = false := by
    rw [validateDirectory_ok.mp (sound.directory shape)]
    rfl
  unfold openOrCreateDirectoryAt
  refine .bind (fun created t => created = false ∧ t = d) (.observe
    (fun _ _ _ failed => by cases failed) fun t created same read => ?_)
    fun created => .assuming fun absent => ?_
  · cases read
    exact ⟨same ▸ present, same⟩
  refine .bind (fun _ t => t = d) (.provided (fun made => ?_) fun _ _ same => same) fun _ => ?_
  · rw [absent] at made
    cases made
  refine .bind (fun _ t => t = d) (.observe (fun t _ same failed => ?_) fun _ _ same _ => same)
    fun _ => ?_
  · rw [same, sound.directory shape] at failed
    cases failed
  refine .provided (fun made => ?_) fun _ _ same => same
  rw [absent] at made
  cases made

theorem meets_openOrCreateLock_present (sound : Sound host d index) :
    (openOrCreateLock host).Meets (· = d) (fun _ t => t = d) (fun _ _ => False)
      fun _ t => t = d := by
  unfold openOrCreateLock
  refine .bind (fun taken t => taken = true ∧ t = d) (.observe
    (fun _ _ _ failed => by cases failed) fun t taken same read => ?_)
    fun taken => .assuming fun present => ?_
  · cases read
    exact ⟨decide_eq_true (same ▸ sound.lock), same⟩
  refine .bind (fun _ t => t = d) (.provided (fun made => ?_) fun _ _ same => same) fun _ => ?_
  · rw [present] at made
    cases made
  refine .bind (fun _ t => t = d) (.observe (fun t _ same failed => ?_) fun _ _ same _ => same)
    fun _ => ?_
  · rw [same, sound.lockValid (some 0)] at failed
    cases failed
  refine .step (fun _ _ _ failed => by cases failed) fun t _ after same done => ?_
  cases done
  exact ⟨same, same⟩

/-- A sound directory opens with its index, and is left as it is. -/
theorem meets_openCache_sound (sound : Sound host d index) :
    (openCache host cacheSchemaGeneration).Meets (· = d) (fun _ t => t = d) (fun _ _ => False)
      fun cache t => cache = openedCache index ∧ t = d := by
  have entriesValid (shape : DirectoryShape) : validateDirectoryEntries d shape = .ok () := by
    obtain ⟨names, listed⟩ := sound.namesValid shape
    unfold validateDirectoryEntries
    rw [listed, ok_bind]
  have rootChecked : (do
      validateDirectory host d .root
      validateLock host d none
      validateDirectoryEntries d .root) = .ok () := by
    rw [sound.directory .root, ok_bind, sound.lockValid none, ok_bind, entriesValid .root]
  have pagesChecked : (do
      validateDirectory host d .root
      validateDirectory host d .pages
      validateLock host d none
      validateDirectoryEntries d .root
      validateDirectoryEntries d .pages) = .ok () := by
    rw [sound.directory .root, ok_bind, sound.directory .pages, ok_bind, sound.lockValid none,
      ok_bind, entriesValid .root, ok_bind, entriesValid .pages]
  obtain ⟨inventory, loaded⟩ := sound.load
  unfold openCache
  refine .bind (fun _ t => t = d) (.observe (fun t _ _ failed => ?_) fun _ _ same _ => same)
    fun _ => ?_
  · rw [refuse_eq_ok.mpr (not_not_intro rfl)] at failed
    cases failed
  refine .bind _ (meets_openOrCreateDirectoryAt_present sound) fun _ => ?_
  refine .bind _ (meets_openOrCreateLock_present sound) fun _ => ?_
  refine .bind (fun _ t => t = d) (.observe (fun t _ same failed => ?_) fun _ _ same _ => same)
    fun _ => ?_
  · rw [same, rootChecked] at failed
    cases failed
  refine .bind _ (meets_openOrCreateDirectoryAt_present sound) fun _ => ?_
  refine .bind (fun _ t => t = d) (.observe (fun t _ same failed => ?_) fun _ _ same _ => same)
    fun _ => ?_
  · rw [same, pagesChecked] at failed
    cases failed
  refine .bind (fun state t => state.index = index ∧ t = d) (.observe (fun t _ same failed => ?_)
    fun t state same read => ?_) fun state => .ret fun t held => ?_
  · rw [same, loaded] at failed
    cases failed
  · rw [same, loaded] at read
    cases read
    exact ⟨rfl, same⟩
  · obtain ⟨rfl, same⟩ := held
    exact ⟨rfl, same⟩

theorem Sound.opens (sound : Sound host d index) :
    (openCache host cacheSchemaGeneration d).result = .ok (openedCache index) ∧
      (openCache host cacheSchemaGeneration d).final = d := by
  obtain ⟨_, ended⟩ := meets_openCache_sound sound d rfl
  split at ended
  · exact ended.elim
  · rename_i result
    exact ⟨ended.1 ▸ result, ended.2⟩

/-- A directory with a doubled page is not opened. -/
theorem Doubled.not_opens (doubled : Doubled d) (schemaGeneration : UInt32)
    (cache : HistoryPageCache) : (openCache host schemaGeneration d).result ≠ .ok cache := by
  have meets : (openCache host schemaGeneration).Meets Doubled (fun _ t => Doubled t)
      (fun _ t => Doubled t) fun _ _ => False := by
    refine meets_openCache schemaGeneration (fun t shape held => ?_)
      (fun t number files held created => ?_) fun t state held loaded => ?_
    · cases shape with
      | root => exact ⟨held.tidy, held.stage⟩
      | pages => exact ⟨held.tidy, held.stage⟩
    · obtain ⟨file, found, links⟩ := held.stage
      obtain ⟨_, _, stat⟩ := Volume.create_spec created
      refine ⟨fun member => ?_, file, ?_, links⟩
      · have listed := (stat_isSome (d := { t with files })).mpr member
        change (files.stat _).isSome = true at listed
        rw [stat, if_neg (by decide)] at listed
        exact held.tidy (stat_isSome.mp listed)
      · change files.stat pageStagePlace = _
        rw [stat, if_neg (by decide)]
        exact found
    · obtain ⟨file, found, links⟩ := held.stage
      obtain ⟨isPrivate, _⟩ := (loaded_sound held.tidy loaded).1.files _ _ found
      rw [isPrivate.links] at links
      cases links
  intro opened
  obtain ⟨_, ended⟩ := meets d doubled
  rw [opened] at ended
  exact ended

end Decodex.Source.Gpui
