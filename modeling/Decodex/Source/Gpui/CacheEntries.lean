import Decodex.Source.Gpui.CacheChanges

/-!
# History page cache: the entries of an index

What validation says of the entries of an index, and where the entries of a planned candidate
come from: the merged base or the publication.
-/
namespace Decodex.Source.Gpui

open Decodex.Library Decodex.Source.Core

variable {host : CacheHost} {index after : CacheIndex} {entry other : IndexEntry}

/-- The request that an entry answers. -/
def PageIdentity.request (identity : PageIdentity) : CacheRequest :=
  ⟨identity.authority, identity.conversationId, identity.requestKey⟩

theorem entryMatchesRequest_iff {request : CacheRequest} :
    entryMatchesRequest entry request = true ↔ entry.identity.request = request := by
  unfold entryMatchesRequest PageIdentity.request
  obtain ⟨authority, conversation, key⟩ := request
  simp [and_assoc]

theorem validateRequest_of_identity {identity : PageIdentity}
    (valid : validatePageIdentity identity = .ok ()) :
    validateRequest identity.request = .ok () := by
  unfold validatePageIdentity at valid
  obtain ⟨_, authority, valid⟩ := bind_ok valid
  have checked := refuse_eq_ok.mp valid
  rw [not_or, not_or] at checked
  unfold validateRequest
  change (do
    validateAuthority identity.authority
    refuse .invalidInput
      (boundedIdentity identity.conversationId.text maxIdentityBytes = false)
    validateRequestKey identity.requestKey) = _
  rw [mapError_ok.mp authority, ok_bind, refuse_eq_ok.mpr checked.1, ok_bind]
  cases key : validateRequestKey identity.requestKey with
  | ok => rfl
  | error failure => exact absurd (by rw [key]; rfl) checked.2.1

theorem mappingSortKey_request {left right : PageIdentity} (same : left.request = right.request) :
    mappingSortKey left = mappingSortKey right := by
  unfold PageIdentity.request at same
  simp only [CacheRequest.mk.injEq] at same
  unfold mappingSortKey PageIdentity.conversationKey
  rw [same.1, same.2.1, same.2.2]

/-- What the loop of `validate_index` says of the entries that it has passed. -/
structure ValidEntries (entries : List IndexEntry) : Prop where
  recencies : (entries.map (·.recency)).Nodup
  mappings : (entries.map (mappingSortKey ·.identity)).Nodup
  nonzero : ∀ entry ∈ entries, entry.recency ≠ 0
  received : ∀ entry ∈ entries, 0 ≤ entry.freshReceivedAtUnixSeconds.toInt
  identities : ∀ entry ∈ entries, validatePageIdentity entry.identity = .ok ()

theorem validateIndex_entries {pageFiles : PageFiles}
    (valid : validateIndex index pageFiles = .ok ()) : ValidEntries index.entries := by
  unfold validateIndex at valid
  obtain ⟨_, _, valid⟩ := bind_ok valid
  obtain ⟨_, _, valid⟩ := bind_ok valid
  obtain ⟨tally, looped, _⟩ := bind_ok valid
  have passed := foldlM_ok_prefix (fun entries tally => ValidEntries entries ∧
    (∀ entry ∈ entries, entry.recency ∈ tally.recencies) ∧
    ∀ entry ∈ entries, mappingSortKey entry.identity ∈ tally.mappings) ?_ ?_ looped
  · exact passed.1
  · intro done before entry after held step
    obtain ⟨entries, recencies, mappings⟩ := held
    unfold validateEntry at step
    obtain ⟨_, identity, step⟩ := bind_ok step
    obtain ⟨_, checked, step⟩ := bind_ok step
    obtain ⟨_, _, step⟩ := bind_ok step
    replace checked := refuse_eq_ok.mp checked
    rw [not_or, not_or, not_or, Int.not_lt] at checked
    obtain ⟨received, nonzero, newRecency, newMapping⟩ := checked
    split at step
    · cases step
    · obtain ⟨_, _, step⟩ := bind_ok step
      obtain ⟨_, _, step⟩ := bind_ok step
      obtain ⟨_, _, step⟩ := bind_ok step
      obtain ⟨_, _, step⟩ := bind_ok step
      obtain ⟨_, _, step⟩ := bind_ok step
      obtain ⟨_, _, step⟩ := bind_ok step
      obtain ⟨_, _, step⟩ := bind_ok step
      cases step
      have last {fact : IndexEntry → Prop} (before : ∀ held ∈ done, fact held) (now : fact entry) :
          ∀ held ∈ done ++ [entry], fact held := by
        intro held member
        rcases List.mem_append.mp member with old | new
        · exact before held old
        · rw [List.mem_singleton.mp new]
          exact now
      refine ⟨⟨?_, ?_, last entries.nonzero nonzero, last entries.received received,
        last entries.identities identity⟩, last (fun held member => ?_) List.mem_cons_self,
        last (fun held member => ?_) List.mem_cons_self⟩
      · rw [List.map_append, List.nodup_append]
        refine ⟨entries.recencies, by simp, fun recency old single new same => ?_⟩
        obtain ⟨held, member, rfl⟩ := List.mem_map.mp old
        rw [List.map_singleton, List.mem_singleton] at new
        exact newRecency (new ▸ same ▸ recencies held member)
      · rw [List.map_append, List.nodup_append]
        refine ⟨entries.mappings, by simp, fun mapping old single new same => ?_⟩
        obtain ⟨held, member, rfl⟩ := List.mem_map.mp old
        rw [List.map_singleton, List.mem_singleton] at new
        exact newMapping (new ▸ same ▸ mappings held member)
      · exact List.mem_cons_of_mem _ (recencies held member)
      · exact List.mem_cons_of_mem _ (mappings held member)
  · exact ⟨⟨List.nodup_nil, List.nodup_nil, List.forall_mem_nil _,
      List.forall_mem_nil _, List.forall_mem_nil _⟩, List.forall_mem_nil _, List.forall_mem_nil _⟩

/-- A request has one entry at most. -/
theorem ValidEntries.unique {entries : List IndexEntry} (valid : ValidEntries entries)
    (first : entry ∈ entries) (second : other ∈ entries)
    (same : entry.identity.request = other.identity.request) : entry = other :=
  List.inj_on_of_nodup_map valid.mappings first second (mappingSortKey_request same)

theorem removeOldestEntry_mem {selected : IndexEntry → Bool}
    (removed : removeOldestEntry index selected = .ok after) (member : entry ∈ after.entries) :
    entry ∈ index.entries := by
  unfold removeOldestEntry at removed
  dsimp only at removed
  split at removed
  · cases removed
  · cases removed
    exact List.mem_of_mem_eraseIdx member

theorem evictConversation_mem {conversationKey : List UInt8}
    (evicted : evictConversation conversationKey index = .ok after)
    (member : entry ∈ after.entries) : entry ∈ index.entries := by
  fun_induction evictConversation conversationKey index with
  | case1 => cases evicted
  | case2 =>
    cases evicted
    exact member
  | case3 => cases evicted
  | case4 index totals counted large smaller removed ih =>
    exact removeOldestEntry_mem removed (ih evicted)

theorem evictConversations_mem (evicted : evictConversations index = .ok after)
    (member : entry ∈ after.entries) : entry ∈ index.entries := by
  fun_induction evictConversations index with
  | case1 => cases evicted
  | case2 index many conversation oldest ih => exact (List.mem_filter.mp (ih evicted)).1
  | case3 =>
    cases evicted
    exact member

theorem evictOverall_mem (evicted : evictOverall host index = .ok after)
    (member : entry ∈ after.entries) : entry ∈ index.entries := by
  fun_induction evictOverall host index with
  | case1 => cases evicted
  | case2 =>
    cases evicted
    exact member
  | case3 => cases evicted
  | case4 index items bytes counted large smaller removed ih =>
    exact removeOldestEntry_mem removed (ih evicted)

/-- Eviction only drops entries. -/
theorem evictToBounds_mem {now : Int64} (evicted : evictToBounds host index now = .ok after)
    (member : entry ∈ after.entries) : entry ∈ index.entries := by
  unfold evictToBounds at evicted
  obtain ⟨conversations, first, evicted⟩ := bind_ok evicted
  obtain ⟨fewer, second, evicted⟩ := bind_ok evicted
  obtain ⟨smallest, third, evicted⟩ := bind_ok evicted
  cases evicted
  have left := evictConversations_mem second
    (evictOverall_mem third ((List.mem_insertionSort _).mp member))
  have fresh := foldlM_ok_prefix (fun _ result => entry ∈ result.entries →
    entry ∈ index.entries) (fun done before key result held step inside =>
      held (evictConversation_mem step inside)) (fun inside => (List.mem_filter.mp inside).1) first
  exact fresh left

theorem checkedSucc_eq_some {recency next : UInt64} (succ : checkedSucc recency = some next) :
    next.toNat = recency.toNat + 1 := by
  unfold checkedSucc at succ
  split at succ
  · rename_i small
    cases succ
    rw [UInt64.toNat_add]
    exact Nat.mod_eq_of_lt small
  · cases succ

/-- The recency of an entry after merging the recorded hits. -/
def mergedRecency (hits : List (PageIdentity × UInt64)) (entry : IndexEntry) : UInt64 :=
  (hits.lookup entry.identity).getD entry.recency

theorem mergeHitRecencies_entries (hits : List (PageIdentity × UInt64)) :
    (mergeHitRecencies index hits).entries =
      index.entries.map fun entry => { entry with recency := mergedRecency hits entry } := by
  unfold mergeHitRecencies mergedRecency
  refine List.map_congr_left fun entry _ => ?_
  cases hits.lookup entry.identity <;> rfl

theorem mergeHitRecencies_recencies (hits : List (PageIdentity × UInt64)) :
    (mergeHitRecencies index hits).entries.map (·.recency) =
      index.entries.map (mergedRecency hits) := by
  rw [mergeHitRecencies_entries, List.map_map]
  rfl

theorem lookup_putHitRecency {identity query : PageIdentity} {recency : UInt64}
    {hits : List (PageIdentity × UInt64)} : (putHitRecency identity recency hits).lookup query =
      if query = identity then some recency else hits.lookup query := by
  induction hits with
  | nil =>
    unfold putHitRecency
    rw [List.lookup_cons, List.lookup_nil]
    by_cases same : query = identity
    · rw [if_pos same, beq_iff_eq.mpr same]
    · rw [if_neg same, beq_false_of_ne same]
  | cons first rest ih =>
    obtain ⟨held, old⟩ := first
    unfold putHitRecency
    by_cases named : held = identity
    · rw [if_pos named, List.lookup_cons, List.lookup_cons, named]
      by_cases same : query = identity
      · rw [if_pos same, beq_iff_eq.mpr same]
      · rw [if_neg same, beq_false_of_ne same]
    · rw [if_neg named, List.lookup_cons, List.lookup_cons, ih]
      by_cases same : query = held
      · rw [beq_iff_eq.mpr same]
        exact (if_neg fun equal => named (same.symm.trans equal)).symm
      · rw [beq_false_of_ne same]

/-- The recencies of a handle: each entry has its own, and the next one is above them. -/
structure Ordered (cache : HistoryPageCache) : Prop where
  distinct : ((mergeHitRecencies cache.index cache.hitRecency).entries.map (·.recency)).Nodup
  nonzero : ∀ entry ∈ (mergeHitRecencies cache.index cache.hitRecency).entries,
    entry.recency ≠ 0
  below : ∃ next, cache.nextRecency = some next ∧
    ∀ entry ∈ (mergeHitRecencies cache.index cache.hitRecency).entries, entry.recency < next

theorem mergeHitRecencies_nil (index : CacheIndex) : mergeHitRecencies index [] = index := by
  unfold mergeHitRecencies
  simp

/-- A handle without recorded hits is as ordered as its index. -/
theorem Ordered.of_entries (valid : ValidEntries index.entries) {next : UInt64}
    (below : ∀ entry ∈ index.entries, entry.recency < next) : Ordered ⟨index, [], some next⟩ := by
  refine ⟨?_, ?_, next, rfl, ?_⟩
  · rw [mergeHitRecencies_nil]
    exact valid.recencies
  · rw [mergeHitRecencies_nil]
    exact valid.nonzero
  · rw [mergeHitRecencies_nil]
    exact below

theorem recordHitRecency_index {cache after : HistoryPageCache} {identity : PageIdentity}
    (recorded : recordHitRecency cache identity = .ok after) : after.index = cache.index := by
  unfold recordHitRecency at recorded
  split at recorded
  · cases recorded
  · split at recorded
    · cases recorded
    · cases recorded
      rfl

/-- A recorded hit takes the next recency for its entry. -/
theorem Ordered.recorded {cache after : HistoryPageCache} {identity : PageIdentity}
    (valid : ValidEntries cache.index.entries) (ordered : Ordered cache)
    (recorded : recordHitRecency cache identity = .ok after) : Ordered after := by
  obtain ⟨distinct, nonzero, next, counted, below⟩ := ordered
  unfold recordHitRecency at recorded
  split at recorded
  · cases recorded
  · rw [counted] at recorded
    cases succ : checkedSucc next with
    | none =>
      rw [Option.bind_some, succ] at recorded
      cases recorded
    | some following =>
      rw [Option.bind_some, succ] at recorded
      cases recorded
      rw [mergeHitRecencies_recencies] at distinct
      rw [mergeHitRecencies_entries] at nonzero below
      have grown := checkedSucc_eq_some succ
      have merged (entry : IndexEntry) : mergedRecency (putHitRecency identity next
          cache.hitRecency) entry =
          if entry.identity = identity then next else mergedRecency cache.hitRecency entry := by
        unfold mergedRecency
        rw [lookup_putHitRecency]
        split <;> rfl
      have old (entry : IndexEntry) (member : entry ∈ cache.index.entries) :
          mergedRecency cache.hitRecency entry ≠ 0 ∧
            (mergedRecency cache.hitRecency entry).toNat < next.toNat :=
        ⟨nonzero _ (List.mem_map_of_mem member),
          UInt64.lt_iff_toNat_lt.mp (below _ (List.mem_map_of_mem member))⟩
      refine ⟨?_, ?_, following, rfl, ?_⟩
      · rw [mergeHitRecencies_recencies]
        refine List.Nodup.map_on (fun left here right there same => ?_)
          (List.Nodup.of_map _ valid.recencies)
        rw [merged, merged] at same
        split at same
        · rename_i first
          split at same
          · rename_i second
            refine valid.unique here there ?_
            rw [first, second]
          · have := (old right there).2
            rw [← same] at this
            exact absurd this (Nat.lt_irrefl _)
        · split at same
          · have := (old left here).2
            rw [same] at this
            exact absurd this (Nat.lt_irrefl _)
          · exact List.inj_on_of_nodup_map distinct here there same
      · rw [mergeHitRecencies_entries]
        intro entry member
        obtain ⟨held, inside, rfl⟩ := List.mem_map.mp member
        change mergedRecency _ held ≠ 0
        rw [merged]
        split
        · have := (old held inside).2
          rintro rfl
          exact absurd this (Nat.not_lt_zero _)
        · exact (old held inside).1
      · rw [mergeHitRecencies_entries]
        intro entry member
        obtain ⟨held, inside, rfl⟩ := List.mem_map.mp member
        change mergedRecency _ held < following
        have := (old held inside).2
        rw [merged, UInt64.lt_iff_toNat_lt]
        split <;> omega

theorem newEntry_ok {request : CacheRequest} {itemCount byteLength : Nat} {digest : String}
    {freshReceivedAt : Int64} {recency : UInt64}
    (made : newEntry request itemCount byteLength digest freshReceivedAt recency = .ok entry) :
    entry.identity.request = request ∧ entry.identity.pageSha256 = digest ∧
      entry.recency = recency := by
  unfold newEntry at made
  obtain ⟨_, _, made⟩ := bind_ok made
  obtain ⟨_, _, made⟩ := bind_ok made
  cases made
  exact ⟨rfl, rfl, rfl⟩

/-- The entries of a candidate are those of the index, for other requests, and the new one. -/
theorem Planned.entry_origin {cache : HistoryPageCache} {state : ValidatedCacheState}
    {request : CacheRequest} {page : ConversationHistoryPage host.Item} {freshReceivedAt : Int64}
    {bytes indexBytes : List UInt8} {digest : String} {candidate : CacheIndex}
    {followingRecency : UInt64} {reinitialized pageExists : Bool}
    (planned : Planned host cache state request page freshReceivedAt bytes digest candidate
      indexBytes followingRecency reinitialized pageExists) (member : entry ∈ candidate.entries) :
    (entry.identity.request = request ∧ entry.identity.pageSha256 = digest) ∨
      (entry.identity.request ≠ request ∧
        ∃ held ∈ state.index.entries, held.identity = entry.identity) := by
  obtain ⟨base, newRecency, made, based, entered, evicted⟩ := planned.evicted
  rcases List.mem_append.mp (evictToBounds_mem evicted member) with old | new
  · obtain ⟨inside, differs⟩ := List.mem_filter.mp old
    rw [Bool.not_eq_true', ← Bool.not_eq_true, entryMatchesRequest_iff] at differs
    refine .inr ⟨differs, ?_⟩
    unfold candidateBase at based
    split at based
    · cases based
      cases inside
    · cases based
      rw [mergeHitRecencies_entries] at inside
      obtain ⟨held, source, rfl⟩ := List.mem_map.mp inside
      exact ⟨held, source, rfl⟩
  · rw [List.mem_singleton.mp new]
    obtain ⟨same, named, _⟩ := newEntry_ok entered
    exact .inl ⟨same, named⟩

/-- The handle of a committed candidate is ordered. -/
theorem Planned.ordered {cache : HistoryPageCache} {state : ValidatedCacheState}
    {request : CacheRequest} {page : ConversationHistoryPage host.Item} {freshReceivedAt : Int64}
    {bytes indexBytes : List UInt8} {digest : String} {candidate : CacheIndex}
    {followingRecency : UInt64} {reinitialized pageExists : Bool}
    (planned : Planned host cache state request page freshReceivedAt bytes digest candidate
      indexBytes followingRecency reinitialized pageExists) (same : state.index = cache.index)
    (ordered : Ordered cache) : Ordered ⟨candidate, [], some followingRecency⟩ := by
  refine .of_entries (validateIndex_entries planned.valid) fun entry member => ?_
  obtain ⟨base, newRecency, made, based, entered, evicted⟩ := planned.evicted
  obtain ⟨_, _, counted⟩ := newEntry_ok entered
  rw [UInt64.lt_iff_toNat_lt]
  obtain ⟨_, _, next, some, below⟩ := ordered
  have inside := evictToBounds_mem evicted member
  unfold candidateBase at based
  rw [some, Option.bind_some] at based
  cases succ : checkedSucc next with
  | none =>
    rw [succ] at based
    cases based
    rcases List.mem_append.mp inside with old | new
    · cases (List.mem_filter.mp old).1
    · rw [List.mem_singleton.mp new, counted]
      decide
  | some following =>
    rw [succ] at based
    cases based
    have grown := checkedSucc_eq_some succ
    rcases List.mem_append.mp inside with old | new
    · have := below entry (same ▸ (List.mem_filter.mp old).1)
      rw [UInt64.lt_iff_toNat_lt] at this
      omega
    · rw [List.mem_singleton.mp new, counted]
      omega

end Decodex.Source.Gpui
