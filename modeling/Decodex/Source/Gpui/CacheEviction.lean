import Mathlib.Algebra.Order.BigOperators.Group.List
import Mathlib.Order.Interval.Finset.Nat
import Decodex.Library.Retention
import Decodex.Source.Gpui.CacheEntries

/-!
# History page cache: the bounds of an index

The totals that validation and eviction count, the bounds on them, and what each loop of
`evict_to_bounds` leaves: entries that were dropped for size are older than those of their
conversation that stay.
-/
namespace Decodex.Source.Gpui

open Decodex.Library Decodex.Source.Core

variable {host : CacheHost} {index after : CacheIndex} {entries less : List IndexEntry}
  {entry newest : IndexEntry} {key : List UInt8}

def itemTotal (entries : List IndexEntry) : Nat := (entries.map (·.itemCount.toNat)).sum

def byteTotal (entries : List IndexEntry) : Nat := (entries.map (·.byteLength.toNat)).sum

@[simp] theorem itemTotal_nil : itemTotal [] = 0 := rfl

@[simp] theorem byteTotal_nil : byteTotal [] = 0 := rfl

@[simp] theorem itemTotal_cons (first : IndexEntry) (rest : List IndexEntry) :
    itemTotal (first :: rest) = first.itemCount.toNat + itemTotal rest := by
  simp [itemTotal]

@[simp] theorem byteTotal_cons (first : IndexEntry) (rest : List IndexEntry) :
    byteTotal (first :: rest) = first.byteLength.toNat + byteTotal rest := by
  simp [byteTotal]

@[simp] theorem itemTotal_append (left right : List IndexEntry) :
    itemTotal (left ++ right) = itemTotal left + itemTotal right := by
  simp [itemTotal]

@[simp] theorem byteTotal_append (left right : List IndexEntry) :
    byteTotal (left ++ right) = byteTotal left + byteTotal right := by
  simp [byteTotal]

theorem itemTotal_le (part : less.Sublist entries) : itemTotal less ≤ itemTotal entries :=
  (part.map _).sum_le_sum fun _ _ => Nat.zero_le _

theorem byteTotal_le (part : less.Sublist entries) : byteTotal less ≤ byteTotal entries :=
  (part.map _).sum_le_sum fun _ _ => Nat.zero_le _

/-- The entries of one conversation. -/
def ofConversation (key : List UInt8) (entries : List IndexEntry) : List IndexEntry :=
  entries.filter fun entry => decide (entry.identity.conversationKey = key)

/-- The bounds on one conversation. -/
structure WithinConversation (entries : List IndexEntry) : Prop where
  pages : entries.length ≤ maxConversationPages
  items : itemTotal entries ≤ maxConversationItems
  bytes : byteTotal entries ≤ maxConversationBytes

theorem WithinConversation.perm (within : WithinConversation entries) (same : less.Perm entries) :
    WithinConversation less where
  pages := le_of_eq_of_le same.length_eq within.pages
  items := le_of_eq_of_le (same.map _).sum_eq within.items
  bytes := le_of_eq_of_le (same.map _).sum_eq within.bytes

theorem WithinConversation.sublist (within : WithinConversation entries)
    (part : less.Sublist entries) : WithinConversation less where
  pages := part.length_le.trans within.pages
  items := (itemTotal_le part).trans within.items
  bytes := (byteTotal_le part).trans within.bytes

/-- The bounds on an index. -/
structure Bounded (index : CacheIndex) : Prop where
  conversation : ∀ key, WithinConversation (ofConversation key index.entries)
  conversations : conversationCount index ≤ maxCacheConversations
  pages : index.entries.length ≤ maxCachePages
  items : itemTotal index.entries ≤ maxCacheItems
  bytes : byteTotal index.entries ≤ maxCacheBytes

/-- The sizes of one page. -/
structure PageSized (entry : IndexEntry) : Prop where
  items : entry.itemCount.toNat ≤ maxPageItems
  nonempty : entry.byteLength.toNat ≠ 0
  bytes : entry.byteLength.toNat ≤ maxPageBytes

/-- What the counting loops need: no two entries are equally recent, and the sums fit `usize`. -/
structure Countable (entries : List IndexEntry) : Prop where
  recencies : (entries.map (·.recency)).Nodup
  nonzero : ∀ entry ∈ entries, entry.recency ≠ 0
  items : itemTotal entries < 2 ^ 64
  bytes : byteTotal entries < 2 ^ 64

theorem Countable.sublist (countable : Countable entries) (part : less.Sublist entries) :
    Countable less where
  recencies := countable.recencies.sublist (part.map _)
  nonzero := fun entry listed => countable.nonzero entry (part.subset listed)
  items := Nat.lt_of_le_of_lt (itemTotal_le part) countable.items
  bytes := Nat.lt_of_le_of_lt (byteTotal_le part) countable.bytes

theorem Countable.distinct (countable : Countable entries) :
    (entries.map (·.recency.toNat)).Nodup := by
  have mapped : ((entries.map (·.recency)).map (·.toNat)).Nodup :=
    countable.recencies.map fun _ _ => UInt64.toNat.inj
  rwa [List.map_map] at mapped

/-- There are fewer entries than recencies. -/
theorem Countable.length_lt (countable : Countable entries) : entries.length < 2 ^ 64 := by
  have inside : (entries.map (·.recency.toNat)).toFinset ⊆ Finset.Ioo 0 (2 ^ 64) := by
    intro recency member
    rw [List.mem_toFinset, List.mem_map] at member
    obtain ⟨entry, listed, rfl⟩ := member
    rw [Finset.mem_Ioo]
    refine ⟨?_, entry.recency.toNat_lt⟩
    have nonzero := countable.nonzero entry listed
    rw [Nat.pos_iff_ne_zero]
    intro zero
    exact nonzero (UInt64.toNat.inj zero)
  have counted := Finset.card_le_card inside
  rw [List.toFinset_card_of_nodup countable.distinct, Nat.card_Ioo, List.length_map] at counted
  omega

theorem checkedAdd_of_lt {left right : Nat} (fits : left + right < 2 ^ 64) :
    checkedAdd left right = .ok (left + right) := if_pos fits

theorem checkedAdd_fits {left right sum : Nat} (added : checkedAdd left right = .ok sum) :
    left + right < 2 ^ 64 ∧ sum = left + right := by
  unfold checkedAdd at added
  split at added
  · rename_i fits
    cases added
    exact ⟨fits, rfl⟩
  · cases added

theorem conversationTotals_eq (countable : Countable index.entries) :
    conversationTotals index key = .ok ⟨(ofConversation key index.entries).length,
      itemTotal (ofConversation key index.entries),
      byteTotal (ofConversation key index.entries)⟩ := by
  unfold conversationTotals
  suffices general : ∀ (entries : List IndexEntry) (totals : ConversationTotals),
      totals.pages + entries.length < 2 ^ 64 → totals.items + itemTotal entries < 2 ^ 64 →
      totals.bytes + byteTotal entries < 2 ^ 64 →
      entries.foldlM (fun totals entry =>
        if entry.identity.conversationKey ≠ key then (.ok totals : Except CacheFailure _)
        else do
          let pages ← checkedAdd totals.pages 1
          let items ← checkedAdd totals.items entry.itemCount.toNat
          let bytes ← checkedAdd totals.bytes entry.byteLength.toNat
          .ok ⟨pages, items, bytes⟩) totals =
        .ok ⟨totals.pages + (ofConversation key entries).length,
          totals.items + itemTotal (ofConversation key entries),
          totals.bytes + byteTotal (ofConversation key entries)⟩ by
    have length := countable.length_lt
    have items := countable.items
    have bytes := countable.bytes
    have counted := general index.entries ⟨0, 0, 0⟩ (by simpa using length) (by simpa using items)
      (by simpa using bytes)
    simpa using counted
  intro entries
  induction entries with
  | nil =>
    intro totals _ _ _
    rfl
  | cons first rest ih =>
    intro totals pages items bytes
    rw [List.length_cons] at pages
    rw [itemTotal_cons] at items
    rw [byteTotal_cons] at bytes
    rw [List.foldlM_cons]
    by_cases same : first.identity.conversationKey = key
    · rw [if_neg (not_not.mpr same), checkedAdd_of_lt (by omega), ok_bind,
        checkedAdd_of_lt (by omega), ok_bind, checkedAdd_of_lt (by omega), ok_bind, ok_bind,
        ih _ (by simp only; omega) (by simp only; omega) (by simp only; omega)]
      simp [ofConversation, same, Nat.add_assoc, Nat.add_comm 1]
    · rw [if_pos same, ok_bind, ih _ (by omega) (by omega) (by omega)]
      simp [ofConversation, same]

theorem globalTotals_eq (countable : Countable index.entries) :
    globalTotals index = .ok (itemTotal index.entries, byteTotal index.entries) := by
  unfold globalTotals
  suffices general : ∀ (entries : List IndexEntry) (totals : Nat × Nat),
      totals.1 + itemTotal entries < 2 ^ 64 → totals.2 + byteTotal entries < 2 ^ 64 →
      entries.foldlM (fun totals entry => do
        let items ← checkedAdd totals.1 entry.itemCount.toNat
        let bytes ← checkedAdd totals.2 entry.byteLength.toNat
        (.ok (items, bytes) : Except CacheFailure (Nat × Nat))) totals =
        .ok (totals.1 + itemTotal entries, totals.2 + byteTotal entries) by
    have items := countable.items
    have bytes := countable.bytes
    have counted := general index.entries (0, 0) (by simpa using items) (by simpa using bytes)
    simpa using counted
  intro entries
  induction entries with
  | nil =>
    intro totals _ _
    rfl
  | cons first rest ih =>
    intro totals items bytes
    rw [itemTotal_cons] at items
    rw [byteTotal_cons] at bytes
    rw [List.foldlM_cons, checkedAdd_of_lt (by omega), ok_bind, checkedAdd_of_lt (by omega),
      ok_bind, ok_bind, ih _ (by simp only; omega) (by simp only; omega)]
    simp [Nat.add_assoc]

/-- What `min_by` finds has the least rank, where its order never goes against the ranks. -/
theorem minBy_le {α β : Type} [LinearOrder β] {before : α → α → Bool} {rank : α → β}
    {items : List α} {least : α}
    (forward : ∀ left right, before left right = true → rank left ≤ rank right)
    (backward : ∀ left right, before left right = false → rank right ≤ rank left)
    (found : minBy before items = some least) : ∀ item ∈ items, rank least ≤ rank item := by
  cases items with
  | nil => cases found
  | cons first rest =>
    cases found
    have folded : ∀ (rest : List α) (first : α),
        rank (rest.foldl (fun least next => if before next least then next else least) first) ≤
          rank first ∧
        ∀ item ∈ rest,
          rank (rest.foldl (fun least next => if before next least then next else least) first) ≤
            rank item := by
      intro rest
      induction rest with
      | nil => simp
      | cons next rest ih =>
        intro first
        rw [List.foldl_cons]
        obtain ⟨best, each⟩ := ih (if before next first then next else first)
        cases order : before next first with
        | true =>
          rw [order, if_pos rfl] at best each
          rw [if_pos rfl]
          refine ⟨best.trans (forward _ _ order), ?_⟩
          intro item listed
          rcases List.mem_cons.mp listed with rfl | listed
          · exact best
          · exact each item listed
        | false =>
          rw [order, if_neg Bool.false_ne_true] at best each
          rw [if_neg Bool.false_ne_true]
          refine ⟨best, ?_⟩
          intro item listed
          rcases List.mem_cons.mp listed with rfl | listed
          · exact best.trans (backward _ _ order)
          · exact each item listed
    obtain ⟨best, each⟩ := folded rest first
    intro item listed
    rcases List.mem_cons.mp listed with rfl | listed
    · exact best
    · exact each item listed

theorem minBy_isSome {α : Type} {before : α → α → Bool} {items : List α} {item : α}
    (listed : item ∈ items) : ∃ least, minBy before items = some least := by
  cases items with
  | nil => cases listed
  | cons first rest => exact ⟨_, rfl⟩

/-- `remove_oldest_entry` removes the oldest of the selected entries, if there are any. -/
theorem removeOldestEntry_spec {selected : IndexEntry → Bool} (listed : entry ∈ index.entries)
    (chosen : selected entry = true) :
    ∃ position, ∃ inside : position < index.entries.length,
      removeOldestEntry index selected =
        .ok { index with entries := index.entries.eraseIdx position } ∧
      selected index.entries[position] = true ∧
      ∀ other ∈ index.entries, selected other = true →
        index.entries[position].recency.toNat ≤ other.recency.toNat := by
  have placed : ∀ other ∈ index.entries, selected other = true → ∃ place,
      (other, place) ∈ index.entries.zipIdx.filter fun placed => selected placed.1 := by
    intro other listed chosen
    obtain ⟨place, found⟩ := List.mem_iff_getElem?.mp listed
    exact ⟨place, List.mem_filter.mpr ⟨List.mem_zipIdx_iff_getElem?.mpr found, chosen⟩⟩
  obtain ⟨place, candidate⟩ := placed entry listed chosen
  obtain ⟨⟨oldest, position⟩, found⟩ :=
    @minBy_isSome _ (fun left right : IndexEntry × Nat => evictedBefore left.1 right.1) _ _ candidate
  have member := List.mem_filter.mp (minBy_mem found)
  obtain ⟨inside, same⟩ := List.getElem?_eq_some_iff.mp (List.mem_zipIdx_iff_getElem?.mp member.1)
  dsimp only at inside same
  refine ⟨position, inside, ?_, ?_, ?_⟩
  · unfold removeOldestEntry
    dsimp only
    rw [found]
  · rw [same]
    exact member.2
  · intro other listed chosen
    obtain ⟨place, candidate⟩ := placed other listed chosen
    rw [same]
    have least := @minBy_le _ _ _ _ (fun placed : IndexEntry × Nat => placed.1.recency.toNat) _ _
      ?_ ?_ found
    · exact least _ candidate
    · intro left right order
      unfold evictedBefore at order
      simp only [Bool.or_eq_true, Bool.and_eq_true, decide_eq_true_eq] at order
      rcases order with less | same
      · exact Nat.le_of_lt (UInt64.lt_iff_toNat_lt.mp less)
      · exact Nat.le_of_eq (congrArg UInt64.toNat same.1)
    · intro left right order
      unfold evictedBefore at order
      simp only [Bool.or_eq_false_iff, decide_eq_false_iff_not] at order
      exact Nat.le_of_not_lt fun less => order.1 (UInt64.lt_iff_toNat_lt.mpr less)

/-- What eviction for size leaves of an index. -/
structure Kept (index after : CacheIndex) : Prop where
  schema : after.schemaId = index.schemaId
  retained : Retained (·.recency.toNat) (·.identity.conversationKey) index.entries after.entries

theorem Kept.refl (index : CacheIndex) : Kept index index := ⟨rfl, .refl _⟩

theorem Kept.trans {middle : CacheIndex} (first : Kept index middle) (second : Kept middle after) :
    Kept index after :=
  ⟨second.schema.trans first.schema, first.retained.trans second.retained⟩

theorem Kept.countable (kept : Kept index after) (countable : Countable index.entries) :
    Countable after.entries := countable.sublist kept.retained.sublist

/-- An entry that is more recent than all others. -/
structure Newest (entries : List IndexEntry) (newest : IndexEntry) : Prop where
  listed : newest ∈ entries
  greatest : ∀ entry ∈ entries, entry.recency.toNat ≤ newest.recency.toNat

theorem Newest.sublist (top : Newest entries newest) (part : less.Sublist entries)
    (listed : newest ∈ less) : Newest less newest :=
  ⟨listed, fun entry inside => top.greatest entry (part.subset inside)⟩

/-- Where only the newest entry is selected, the selection is this entry alone. -/
theorem Newest.filter_eq (countable : Countable entries) (top : Newest entries newest)
    {selected : IndexEntry → Bool} (chosen : selected newest = true)
    (only : ∀ entry ∈ entries, selected entry = true → newest.recency.toNat ≤ entry.recency.toNat) :
    entries.filter selected = [newest] := by
  have distinct : entries.Nodup := List.Nodup.of_map _ countable.recencies
  have all : ∀ entry ∈ entries.filter selected, entry = newest := by
    intro entry member
    obtain ⟨listed, held⟩ := List.mem_filter.mp member
    exact List.inj_on_of_nodup_map countable.distinct listed top.listed
      (Nat.le_antisymm (top.greatest entry listed) (only entry listed held))
  have member : newest ∈ entries.filter selected := List.mem_filter.mpr ⟨top.listed, chosen⟩
  cases rest : entries.filter selected with
  | nil =>
    rw [rest] at member
    cases member
  | cons first others =>
    rw [rest] at all
    have nodup := rest ▸ distinct.filter selected
    rw [all first (by simp)] at nodup ⊢
    cases others with
    | nil => rfl
    | cons second more =>
      have second := all second (by simp)
      simp [second] at nodup

/-- The removal of the oldest selected entry, where the selection is all or one conversation. -/
theorem removeOldestEntry_kept (countable : Countable index.entries)
    {selected : IndexEntry → Bool} (listed : entry ∈ index.entries)
    (chosen : selected entry = true)
    (whole : ∀ left right : IndexEntry, left.identity.conversationKey = right.identity.conversationKey →
      selected right = true → selected left = true) :
    ∃ after, removeOldestEntry index selected = .ok after ∧ Kept index after ∧
      (∀ other ∈ index.entries, selected other = false → other ∈ after.entries) ∧
      ∀ newest, Newest index.entries newest → newest ∉ after.entries →
        index.entries.filter selected = [newest] := by
  obtain ⟨position, inside, removed, oldest, least⟩ := removeOldestEntry_spec listed chosen
  have erased : ∀ other ∈ index.entries, other ∉ index.entries.eraseIdx position →
      other = index.entries[position] := by
    intro other held lost
    obtain ⟨place, bound, rfl⟩ := List.getElem_of_mem held
    by_cases same : place = position
    · subst same
      rfl
    · exact absurd (List.mem_eraseIdx_iff_getElem.mpr ⟨place, bound, same, rfl⟩) lost
  refine ⟨_, removed, ⟨rfl, ?_⟩, ?_, ?_⟩
  · apply Retained.eraseOldest inside countable.distinct
    intro other held same
    exact least other held (whole _ _ same oldest)
  · intro other held spared
    by_contra lost
    rw [erased other held lost, oldest] at spared
    cases spared
  · intro newest top lost
    rw [← erased newest top.listed lost] at oldest least
    exact top.filter_eq countable oldest least

/-- A totals check that fails has an entry of the conversation to remove. -/
theorem exists_of_not_within (large : ¬WithinConversation (ofConversation key index.entries)) :
    ∃ entry ∈ index.entries, entry.identity.conversationKey = key := by
  by_contra none
  apply large
  have empty : ofConversation key index.entries = [] := by
    unfold ofConversation
    rw [List.filter_eq_nil_iff]
    intro entry listed own
    exact none ⟨entry, listed, of_decide_eq_true own⟩
  rw [empty]
  exact ⟨by decide, by decide, by decide⟩

theorem evictConversation_spec (key : List UInt8) (countable : Countable index.entries) :
    ∃ after, evictConversation key index = .ok after ∧ Kept index after ∧
      WithinConversation (ofConversation key after.entries) ∧
      ∀ newest, Newest index.entries newest → WithinConversation [newest] →
        newest ∈ after.entries := by
  have large_iff : ∀ {index : CacheIndex} {totals : ConversationTotals},
      Countable index.entries → conversationTotals index key = .ok totals →
      ((totals.pages ≤ maxConversationPages ∧ totals.items ≤ maxConversationItems ∧
        totals.bytes ≤ maxConversationBytes) ↔
        WithinConversation (ofConversation key index.entries)) := by
    intro index totals countable counted
    rw [conversationTotals_eq countable] at counted
    cases counted
    exact ⟨fun within => ⟨within.1, within.2.1, within.2.2⟩, fun within =>
      ⟨within.pages, within.items, within.bytes⟩⟩
  fun_induction evictConversation key index with
  | case1 index failure counted =>
    rw [conversationTotals_eq countable] at counted
    cases counted
  | case2 index totals counted within =>
    exact ⟨index, rfl, .refl _, (large_iff countable counted).mp within, fun _ top _ => top.listed⟩
  | case3 index totals counted large failure removed =>
    obtain ⟨entry, listed, own⟩ := exists_of_not_within
      (mt (large_iff countable counted).mpr large)
    obtain ⟨_, _, done, _⟩ := @removeOldestEntry_spec index entry
      (fun entry => decide (entry.identity.conversationKey = key)) listed (decide_eq_true own)
    rw [done] at removed
    cases removed
  | case4 index totals counted large smaller removed ih =>
    have outside := mt (large_iff countable counted).mpr large
    obtain ⟨entry, listed, own⟩ := exists_of_not_within outside
    obtain ⟨found, done, kept, _, newest⟩ := removeOldestEntry_kept countable listed
      (decide_eq_true own) fun left right same own =>
        decide_eq_true (same.trans (of_decide_eq_true own))
    rw [done] at removed
    cases removed
    obtain ⟨after, evicted, left, within, stays⟩ := ih (kept.countable countable)
    refine ⟨after, evicted, kept.trans left, within, ?_⟩
    intro top held alone
    apply stays top _ alone
    apply held.sublist kept.retained.sublist
    by_contra lost
    apply outside
    unfold ofConversation
    rw [newest top held lost]
    exact alone

/-- The loop over the conversation keys. -/
theorem evictEachConversation_spec (keys : List (List UInt8)) (countable : Countable index.entries) :
    ∃ after, keys.foldlM (fun index key => evictConversation key index) index = .ok after ∧
      Kept index after ∧ (∀ key ∈ keys, WithinConversation (ofConversation key after.entries)) ∧
      ∀ newest, Newest index.entries newest → WithinConversation [newest] →
        newest ∈ after.entries := by
  induction keys generalizing index with
  | nil => exact ⟨index, rfl, .refl _, by simp, fun _ top _ => top.listed⟩
  | cons key rest ih =>
    obtain ⟨middle, first, kept, within, stays⟩ := evictConversation_spec key countable
    obtain ⟨after, others, left, each, still⟩ := ih (kept.countable countable)
    refine ⟨after, ?_, kept.trans left, ?_, ?_⟩
    · rw [List.foldlM_cons, first, ok_bind, others]
    · intro other listed
      rcases List.mem_cons.mp listed with rfl | listed
      · exact within.sublist (left.retained.sublist.filter _)
      · exact each other listed
    · intro newest top alone
      exact still newest (top.sublist kept.retained.sublist (stays newest top alone)) alone

theorem mem_conversationKeys :
    key ∈ conversationKeys index ↔ ∃ entry ∈ index.entries, entry.identity.conversationKey = key := by
  unfold conversationKeys
  rw [List.mem_insertionSort, List.mem_dedup, List.mem_map]

theorem conversationKeys_nodup (index : CacheIndex) : (conversationKeys index).Nodup := by
  unfold conversationKeys
  exact (List.perm_insertionSort _ _).nodup_iff.mpr (List.nodup_dedup _)

theorem conversationCount_le (part : after.entries ⊆ index.entries) :
    conversationCount after ≤ conversationCount index := by
  apply (List.subperm_of_subset (conversationKeys_nodup after) _).length_le
  intro key member
  rw [mem_conversationKeys] at member ⊢
  obtain ⟨entry, listed, own⟩ := member
  exact ⟨entry, part listed, own⟩

/-- The greatest recency that a fold finds is one of the recencies, or where it started. -/
theorem foldl_max_recency (entries : List IndexEntry) (start : UInt64) :
    let most := entries.foldl (fun newest entry => max newest entry.recency) start
    start.toNat ≤ most.toNat ∧ (∀ entry ∈ entries, entry.recency.toNat ≤ most.toNat) ∧
      (most = start ∨ ∃ entry ∈ entries, entry.recency = most) := by
  induction entries generalizing start with
  | nil => simp
  | cons first rest ih =>
    dsimp only at ih ⊢
    obtain ⟨above, each, found⟩ := ih (max start first.recency)
    have bound : start.toNat ≤ (max start first.recency).toNat ∧
        first.recency.toNat ≤ (max start first.recency).toNat ∧
        (max start first.recency = start ∨ max start first.recency = first.recency) := by
      change start.toNat ≤ (if start ≤ first.recency then first.recency else start).toNat ∧ _
      by_cases order : start ≤ first.recency
      · have less := UInt64.le_iff_toNat_le.mp order
        have same : max start first.recency = first.recency := if_pos order
        rw [if_pos order, same]
        exact ⟨less, Nat.le_refl _, .inr rfl⟩
      · have less := mt UInt64.le_iff_toNat_le.mpr order
        have same : max start first.recency = start := if_neg order
        rw [if_neg order, same]
        exact ⟨Nat.le_refl _, by omega, .inl rfl⟩
    rw [List.foldl_cons]
    refine ⟨bound.1.trans above, ?_, ?_⟩
    · intro entry listed
      rcases List.mem_cons.mp listed with rfl | listed
      · exact bound.2.1.trans above
      · exact each entry listed
    · rcases found with same | ⟨entry, listed, same⟩
      · rcases bound.2.2 with started | led
        · exact .inl (same.trans started)
        · exact .inr ⟨first, by simp, led.symm.trans same.symm⟩
      · exact .inr ⟨entry, List.mem_cons_of_mem _ listed, same⟩

theorem le_newestRecency (listed : entry ∈ index.entries)
    (own : entry.identity.conversationKey = key) :
    entry.recency.toNat ≤ (newestRecency index key).toNat :=
  (foldl_max_recency _ 0).2.1 entry (List.mem_filter.mpr ⟨listed, decide_eq_true own⟩)

theorem newestRecency_mem (countable : Countable index.entries)
    (member : key ∈ conversationKeys index) :
    ∃ entry ∈ index.entries, entry.identity.conversationKey = key ∧
      entry.recency = newestRecency index key := by
  obtain ⟨held, listed, own⟩ := mem_conversationKeys.mp member
  rcases (foldl_max_recency (index.entries.filter fun entry =>
      entry.identity.conversationKey = key) 0).2.2 with zero | ⟨entry, inside, same⟩
  · have bound := le_newestRecency listed own
    rw [newestRecency, zero] at bound
    exact absurd (UInt64.toNat.inj (Nat.le_zero.mp bound)) (countable.nonzero held listed)
  · obtain ⟨listed, own⟩ := List.mem_filter.mp inside
    exact ⟨entry, listed, of_decide_eq_true own, same⟩

/-- The conversation that is dropped never holds the newest entry, where there is another. -/
theorem oldestConversation_spec (countable : Countable index.entries)
    (many : 1 < conversationCount index) :
    ∃ key, oldestConversation index = some key ∧
      ∀ newest, Newest index.entries newest → newest.identity.conversationKey ≠ key := by
  unfold oldestConversation
  dsimp only
  obtain ⟨some, someKey⟩ := List.exists_mem_of_length_pos (Nat.lt_of_succ_lt many)
  obtain ⟨⟨key, recency⟩, found⟩ := @minBy_isSome _
    (fun left right : List UInt8 × UInt64 =>
      left.2 < right.2 || (left.2 = right.2 && decide (left.1 < right.1))) _ _
    (List.mem_map_of_mem (f := fun key => (key, newestRecency index key)) someKey)
  rw [found]
  refine ⟨key, rfl, ?_⟩
  intro newest top own
  obtain ⟨held, member, same⟩ := List.mem_map.mp (minBy_mem found)
  cases same
  -- another conversation is at least as recent, yet all its entries are older than the newest
  obtain ⟨other, listed, apart⟩ : ∃ other ∈ conversationKeys index, other ≠ key := by
    by_contra none
    simp only [not_exists, not_and, not_not] at none
    have single := List.Nodup.subperm (conversationKeys_nodup index)
      (fun other listed => List.mem_singleton.mpr (none other listed))
    have := single.length_le
    unfold conversationCount at many
    simp at this
    omega
  have least := @minBy_le _ _ _ _ (fun placed : List UInt8 × UInt64 => placed.2.toNat) _ _
    ?_ ?_ found _ (List.mem_map_of_mem listed)
  · obtain ⟨entry, inside, ownOther, recent⟩ := newestRecency_mem countable listed
    have bound := le_newestRecency top.listed own
    dsimp only at least
    rw [← recent] at least
    have equal := List.inj_on_of_nodup_map countable.distinct inside top.listed
      (Nat.le_antisymm (top.greatest entry inside) (bound.trans least))
    rw [equal] at ownOther
    exact apart (ownOther.symm.trans own)
  · intro left right order
    simp only [Bool.or_eq_true, Bool.and_eq_true, decide_eq_true_eq] at order
    rcases order with less | same
    · exact Nat.le_of_lt (UInt64.lt_iff_toNat_lt.mp less)
    · exact Nat.le_of_eq (congrArg UInt64.toNat same.1)
  · intro left right order
    simp only [Bool.or_eq_false_iff, decide_eq_false_iff_not] at order
    exact Nat.le_of_not_lt fun less => order.1 (UInt64.lt_iff_toNat_lt.mpr less)

theorem evictConversations_spec (countable : Countable index.entries) :
    ∃ after, evictConversations index = .ok after ∧ Kept index after ∧
      conversationCount after ≤ maxCacheConversations ∧
      ∀ newest, Newest index.entries newest → newest ∈ after.entries := by
  have many_of : ∀ {count : Nat}, maxCacheConversations < count → 1 < count := by
    unfold maxCacheConversations
    omega
  fun_induction evictConversations index with
  | case1 index many none =>
    obtain ⟨key, found, _⟩ := oldestConversation_spec countable (many_of many)
    rw [found] at none
    cases none
  | case2 index many conversation oldest ih =>
    obtain ⟨key, found, apart⟩ := oldestConversation_spec countable (many_of many)
    obtain rfl : key = conversation := Option.some.inj (found.symm.trans oldest)
    have kept : Kept index (dropConversation index key) := ⟨rfl, Retained.dropGroup _ _⟩
    obtain ⟨after, evicted, left, few, stays⟩ := ih (kept.countable countable)
    refine ⟨after, evicted, kept.trans left, few, ?_⟩
    intro newest top
    apply stays
    apply top.sublist kept.retained.sublist
    exact List.mem_filter.mpr ⟨top.listed, decide_eq_true (apart newest top)⟩
  | case3 index few => exact ⟨index, rfl, .refl _, by omega, fun _ top => top.listed⟩

/-- The bounds that the last loop enforces. -/
structure FitsOverall (host : CacheHost) (index : CacheIndex) : Prop where
  pages : index.entries.length ≤ maxCachePages
  items : itemTotal index.entries ≤ maxCacheItems
  bytes : byteTotal index.entries ≤ maxCacheBytes
  serialized : (host.indexJson.toVec index).length ≤ maxIndexBytes

theorem evictOverall_spec (countable : Countable index.entries)
    (empty : FitsOverall host { index with entries := [] }) :
    ∃ after, evictOverall host index = .ok after ∧ Kept index after ∧ FitsOverall host after ∧
      ∀ newest, Newest index.entries newest →
        FitsOverall host { index with entries := [newest] } → newest ∈ after.entries := by
  have fits_iff : ∀ {index : CacheIndex} {items bytes : Nat}, Countable index.entries →
      globalTotals index = .ok (items, bytes) →
      ((index.entries.length ≤ maxCachePages ∧ items ≤ maxCacheItems ∧ bytes ≤ maxCacheBytes ∧
        (host.indexJson.toVec index).length ≤ maxIndexBytes) ↔ FitsOverall host index) := by
    intro index items bytes countable counted
    rw [globalTotals_eq countable] at counted
    cases counted
    exact ⟨fun fits => ⟨fits.1, fits.2.1, fits.2.2.1, fits.2.2.2⟩, fun fits =>
      ⟨fits.pages, fits.items, fits.bytes, fits.serialized⟩⟩
  have inhabited : ∀ {index : CacheIndex}, FitsOverall host { index with entries := [] } →
      ¬FitsOverall host index → ∃ entry, entry ∈ index.entries := by
    intro index empty large
    obtain ⟨schema, entries⟩ := index
    cases entries with
    | nil => exact absurd empty large
    | cons first rest => exact ⟨first, List.mem_cons_self⟩
  fun_induction evictOverall host index with
  | case1 index failure counted =>
    rw [globalTotals_eq countable] at counted
    cases counted
  | case2 index items bytes counted fits =>
    exact ⟨index, rfl, .refl _, (fits_iff countable counted).mp fits, fun _ top _ => top.listed⟩
  | case3 index items bytes counted large failure removed =>
    obtain ⟨entry, listed⟩ := inhabited empty (mt (fits_iff countable counted).mpr large)
    obtain ⟨_, _, done, _⟩ :=
      @removeOldestEntry_spec index entry (fun _ => true) listed rfl
    rw [done] at removed
    cases removed
  | case4 index items bytes counted large smaller removed ih =>
    have outside := mt (fits_iff countable counted).mpr large
    obtain ⟨entry, listed⟩ := inhabited empty outside
    obtain ⟨found, done, kept, _, newest⟩ :=
      @removeOldestEntry_kept index entry countable (fun _ => true) listed rfl fun _ _ _ held => held
    rw [done] at removed
    cases removed
    have same : ∀ entries : List IndexEntry, ({ smaller with entries := entries } : CacheIndex) =
        { index with entries := entries } := by
      intro entries
      rw [kept.schema]
    obtain ⟨after, evicted, left, within, stays⟩ := ih (kept.countable countable) (same [] ▸ empty)
    refine ⟨after, evicted, kept.trans left, within, ?_⟩
    intro top held alone
    apply stays top _ (same [top] ▸ alone)
    apply held.sublist kept.retained.sublist
    by_contra lost
    apply outside
    have single := newest top held lost
    rw [List.filter_true] at single
    obtain ⟨schema, entries⟩ := index
    dsimp only at single
    subst single
    exact alone

/-- The entries that are still fresh. -/
def freshEntries (index : CacheIndex) (now : Int64) : List IndexEntry :=
  index.entries.filter fun entry => isFreshEligible entry.freshReceivedAtUnixSeconds now

/-- The newest entry is within every bound on its own. -/
structure FitsAlone (host : CacheHost) (schemaId : String) (newest : IndexEntry) : Prop where
  items : newest.itemCount.toNat ≤ maxConversationItems
  bytes : newest.byteLength.toNat ≤ maxConversationBytes
  serialized : (host.indexJson.toVec ⟨schemaId, [newest]⟩).length ≤ maxIndexBytes

/-- `evict_to_bounds` ends, within every bound. -/
theorem evictToBounds_spec {now : Int64} (countable : Countable index.entries)
    (empty : (host.indexJson.toVec { index with entries := [] }).length ≤ maxIndexBytes)
    (reordered : ∀ left right : List IndexEntry, left.Perm right →
      (host.indexJson.toVec { index with entries := left }).length =
        (host.indexJson.toVec { index with entries := right }).length) :
    ∃ after, evictToBounds host index now = .ok after ∧ after.schemaId = index.schemaId ∧
      after.entries.Subperm (freshEntries index now) ∧ Bounded after ∧
      (host.indexJson.toVec after).length ≤ maxIndexBytes ∧
      (∀ newest, Newest (freshEntries index now) newest → FitsAlone host index.schemaId newest →
        newest ∈ after.entries) ∧
      ∀ gone ∈ freshEntries index now, gone ∉ after.entries → ∀ kept ∈ after.entries,
        gone.identity.conversationKey = kept.identity.conversationKey →
        gone.recency.toNat < kept.recency.toNat := by
  have fresh : Countable (freshEntries index now) := countable.sublist List.filter_sublist
  obtain ⟨conversations, first, keptFirst, within, staysFirst⟩ :=
    @evictEachConversation_spec { index with entries := freshEntries index now }
      (conversationKeys { index with entries := freshEntries index now }) fresh
  obtain ⟨fewer, second, keptSecond, few, staysSecond⟩ :=
    evictConversations_spec (keptFirst.countable fresh)
  have schema : fewer.schemaId = index.schemaId := keptSecond.schema.trans keptFirst.schema
  have same : ∀ entries : List IndexEntry, ({ fewer with entries := entries } : CacheIndex) =
      { index with entries := entries } := by
    intro entries
    rw [schema]
  obtain ⟨smallest, third, keptThird, fits, staysThird⟩ := @evictOverall_spec host fewer
    (keptSecond.countable (keptFirst.countable fresh))
    (by rw [same]; exact ⟨Nat.zero_le _, Nat.zero_le _, Nat.zero_le _, empty⟩)
  have kept := (keptFirst.trans keptSecond).trans keptThird
  have sorted := List.perm_insertionSort (fun left right : IndexEntry =>
    pageIdentitySortKey left.identity ≤ pageIdentitySortKey right.identity) smallest.entries
  refine ⟨{ smallest with
    entries := smallest.entries.insertionSort fun left right =>
      pageIdentitySortKey left.identity ≤ pageIdentitySortKey right.identity },
    ?_, kept.schema, ?_, ?_, ?_, ?_, ?_⟩
  · unfold evictToBounds
    dsimp only
    change ((conversationKeys { index with entries := freshEntries index now }).foldlM
      (fun index key => evictConversation key index)
      { index with entries := freshEntries index now } >>= _) = _
    rw [first, ok_bind, second, ok_bind, third]
    rfl
  · exact sorted.subperm.trans kept.retained.sublist.subperm
  · have later := (keptSecond.trans keptThird).retained.sublist
    constructor
    · intro key
      apply WithinConversation.perm _ (sorted.filter _)
      apply WithinConversation.sublist _ (later.filter _)
      by_cases listed : key ∈ conversationKeys { index with entries := freshEntries index now }
      · exact within key listed
      · by_contra large
        obtain ⟨entry, inside, own⟩ := exists_of_not_within large
        exact listed (mem_conversationKeys.mpr
          ⟨entry, keptFirst.retained.sublist.subset inside, own⟩)
    · apply Nat.le_trans _ few
      apply conversationCount_le
      intro entry listed
      exact keptThird.retained.sublist.subset ((List.mem_insertionSort _).mp listed)
    · exact le_of_eq_of_le sorted.length_eq fits.pages
    · exact le_of_eq_of_le (sorted.map _).sum_eq fits.items
    · exact le_of_eq_of_le (sorted.map _).sum_eq fits.bytes
  · have length := reordered _ _ sorted
    have schemaLast : smallest.schemaId = index.schemaId := keptThird.schema.trans schema
    rw [← schemaLast] at length
    rw [length]
    exact fits.serialized
  · intro newest top alone
    have single : WithinConversation [newest] := ⟨show 1 ≤ maxConversationPages by decide,
      by simpa using alone.items,
      by simpa using alone.bytes⟩
    have one := top.sublist keptFirst.retained.sublist (staysFirst newest top single)
    have two := one.sublist keptSecond.retained.sublist (staysSecond newest one)
    rw [List.mem_insertionSort]
    apply staysThird newest two
    have items := alone.items
    have bytes := alone.bytes
    unfold maxConversationItems at items
    unfold maxConversationBytes at bytes
    refine ⟨show 1 ≤ maxCachePages by decide, ?_, ?_, ?_⟩
    · rw [itemTotal_cons, itemTotal_nil]
      unfold maxCacheItems
      omega
    · rw [byteTotal_cons, byteTotal_nil]
      unfold maxCacheBytes
      omega
    · rw [same]
      exact alone.serialized
  · intro gone listed lost other stays own
    rw [List.mem_insertionSort] at lost stays
    exact kept.retained.recent gone listed lost other stays own

/-- What `validate_index` asks of an index besides its sizes. -/
structure SoundIndex (index : CacheIndex) (pageFiles : PageFiles) : Prop where
  schema : index.schemaId = cacheSchemaId
  entries : ValidEntries index.entries
  pages : ∀ entry ∈ index.entries, pageFiles.lookup entry.identity.pageSha256 =
    some ⟨entry.byteLength.toNat, entry.itemCount.toNat⟩
  /-- The checked additions. -/
  items : itemTotal index.entries < 2 ^ 64
  bytes : byteTotal index.entries < 2 ^ 64

theorem SoundIndex.countable {pageFiles : PageFiles} (sound : SoundIndex index pageFiles) :
    Countable index.entries :=
  ⟨sound.entries.recencies, sound.entries.nonzero, sound.items, sound.bytes⟩

/-- A sound index stays sound without some of its entries, in any order. -/
theorem SoundIndex.subperm {pageFiles : PageFiles} (sound : SoundIndex index pageFiles)
    (schema : after.schemaId = index.schemaId) (part : after.entries.Subperm index.entries) :
    SoundIndex after pageFiles := by
  obtain ⟨kept, same, less⟩ := part
  have listed : ∀ entry ∈ after.entries, entry ∈ index.entries := fun entry member =>
    less.subset (same.symm.subset member)
  refine ⟨schema.trans sound.schema, ⟨?_, ?_, ?_, ?_, ?_⟩, ?_, ?_, ?_⟩
  · exact (same.map _).nodup_iff.mp (sound.entries.recencies.sublist (less.map _))
  · exact (same.map _).nodup_iff.mp (sound.entries.mappings.sublist (less.map _))
  · exact fun entry member => sound.entries.nonzero entry (listed entry member)
  · exact fun entry member => sound.entries.received entry (listed entry member)
  · exact fun entry member => sound.entries.identities entry (listed entry member)
  · exact fun entry member => sound.pages entry (listed entry member)
  · have items : itemTotal after.entries = itemTotal kept := (same.map _).sum_eq.symm
    rw [items]
    exact Nat.lt_of_le_of_lt (itemTotal_le less) sound.items
  · have bytes : byteTotal after.entries = byteTotal kept := (same.map _).sum_eq.symm
    rw [bytes]
    exact Nat.lt_of_le_of_lt (byteTotal_le less) sound.bytes

/-- The checks of one round of the loop. -/
structure EntryPasses (pageFiles : PageFiles) (done : List IndexEntry) (entry : IndexEntry) :
    Prop where
  identity : validatePageIdentity entry.identity = .ok ()
  received : 0 ≤ entry.freshReceivedAtUnixSeconds.toInt
  nonzero : entry.recency ≠ 0
  recency : entry.recency ∉ done.map (·.recency)
  mapping : mappingSortKey entry.identity ∉ done.map (mappingSortKey ·.identity)
  sized : PageSized entry
  page : pageFiles.lookup entry.identity.pageSha256 =
    some ⟨entry.byteLength.toNat, entry.itemCount.toNat⟩
  within : WithinConversation (ofConversation entry.identity.conversationKey (done ++ [entry]))

/-- The tally of the entries that the loop has passed. -/
structure Tallied (done : List IndexEntry) (tally : IndexTally) : Prop where
  recencies : ∀ recency, recency ∈ tally.recencies ↔ recency ∈ done.map (·.recency)
  mappings : ∀ mapping, mapping ∈ tally.mappings ↔
    mapping ∈ done.map (mappingSortKey ·.identity)
  totals : ∀ key, (tally.conversations.lookup key).getD ⟨0, 0, 0⟩ =
    ⟨(ofConversation key done).length, itemTotal (ofConversation key done),
      byteTotal (ofConversation key done)⟩
  keys : ∀ key, key ∈ tally.conversations.map (·.1) ↔
    key ∈ done.map (·.identity.conversationKey)
  distinct : (tally.conversations.map (·.1)).Nodup
  totalItems : tally.totalItems = itemTotal done
  totalBytes : tally.totalBytes = byteTotal done

theorem lookup_putTotals {totals : ConversationTotals} {key other : List UInt8}
    (conversations : List (List UInt8 × ConversationTotals)) :
    (putTotals key totals conversations).lookup other =
      if other = key then some totals else conversations.lookup other := by
  induction conversations with
  | nil =>
    unfold putTotals
    rw [List.lookup_cons, List.lookup_nil]
    by_cases same : other = key
    · rw [if_pos same, beq_iff_eq.mpr same]
    · rw [if_neg same, beq_false_of_ne same]
  | cons first rest ih =>
    obtain ⟨held, old⟩ := first
    unfold putTotals
    by_cases named : held = key
    · rw [if_pos named, List.lookup_cons, List.lookup_cons, named]
      by_cases same : other = key
      · rw [if_pos same, beq_iff_eq.mpr same]
      · rw [if_neg same, beq_false_of_ne same]
    · rw [if_neg named, List.lookup_cons, List.lookup_cons, ih]
      by_cases same : other = held
      · rw [beq_iff_eq.mpr same]
        exact (if_neg fun equal => named (same.symm.trans equal)).symm
      · rw [beq_false_of_ne same]

theorem keys_putTotals {totals : ConversationTotals} (key : List UInt8)
    (conversations : List (List UInt8 × ConversationTotals)) :
    (putTotals key totals conversations).map (·.1) =
      if key ∈ conversations.map (·.1) then conversations.map (·.1)
      else conversations.map (·.1) ++ [key] := by
  induction conversations with
  | nil => simp [putTotals]
  | cons first rest ih =>
    obtain ⟨held, old⟩ := first
    unfold putTotals
    by_cases named : held = key
    · simp [named]
    · rw [if_neg named, List.map_cons, ih]
      have apart : ¬key = held := fun same => named same.symm
      by_cases listed : key ∈ rest.map (·.1)
      · rw [if_pos listed, if_pos (by rw [List.map_cons]; exact List.mem_cons_of_mem _ listed),
          List.map_cons]
      · rw [if_neg listed, if_neg (by rw [List.map_cons, List.mem_cons]; tauto), List.map_cons,
          List.cons_append]

@[simp] theorem ofConversation_append (left right : List IndexEntry) :
    ofConversation key (left ++ right) = ofConversation key left ++ ofConversation key right :=
  List.filter_append _ _

theorem ofConversation_self (entry : IndexEntry) :
    ofConversation entry.identity.conversationKey [entry] = [entry] := by
  simp [ofConversation]

theorem ofConversation_other (apart : key ≠ entry.identity.conversationKey) :
    ofConversation key [entry] = [] := by
  simp [ofConversation, apart.symm]

theorem Tallied.empty : Tallied [] {} where
  recencies := by simp
  mappings := by simp
  totals := fun _ => rfl
  keys := by simp
  distinct := List.nodup_nil
  totalItems := rfl
  totalBytes := rfl

theorem Tallied.snoc {done : List IndexEntry} {tally : IndexTally} (tallied : Tallied done tally)
    (entry : IndexEntry) :
    let totals := (tally.conversations.lookup entry.identity.conversationKey).getD ⟨0, 0, 0⟩
    Tallied (done ++ [entry])
      { mappings := mappingSortKey entry.identity :: tally.mappings
        recencies := entry.recency :: tally.recencies
        conversations := putTotals entry.identity.conversationKey
          ⟨totals.pages + 1, totals.items + entry.itemCount.toNat,
            totals.bytes + entry.byteLength.toNat⟩ tally.conversations
        totalItems := tally.totalItems + entry.itemCount.toNat
        totalBytes := tally.totalBytes + entry.byteLength.toNat } := by
  dsimp only
  constructor
  · intro recency
    rw [List.mem_cons, tallied.recencies, List.map_append, List.mem_append, List.map_singleton,
      List.mem_singleton]
    exact or_comm
  · intro mapping
    rw [List.mem_cons, tallied.mappings, List.map_append, List.mem_append, List.map_singleton,
      List.mem_singleton]
    exact or_comm
  · intro key
    rw [lookup_putTotals]
    by_cases same : key = entry.identity.conversationKey
    · subst same
      rw [if_pos rfl, Option.getD_some, tallied.totals, ofConversation_append, ofConversation_self]
      simp
    · rw [if_neg same, tallied.totals, ofConversation_append, ofConversation_other same,
        List.append_nil]
  · intro key
    rw [keys_putTotals, List.map_append, List.mem_append, List.map_singleton, ← tallied.keys]
    by_cases listed : entry.identity.conversationKey ∈ tally.conversations.map (·.1)
    · rw [if_pos listed, List.mem_singleton]
      refine ⟨.inl, ?_⟩
      rintro (old | rfl)
      · exact old
      · exact listed
    · rw [if_neg listed, List.mem_append]
  · rw [keys_putTotals]
    by_cases listed : entry.identity.conversationKey ∈ tally.conversations.map (·.1)
    · rw [if_pos listed]
      exact tallied.distinct
    · rw [if_neg listed]
      rw [← List.concat_eq_append]
      exact tallied.distinct.concat listed
  · simp [tallied.totalItems]
  · simp [tallied.totalBytes]

/-- One round of the loop. -/
theorem validateEntry_eq_ok {pageFiles : PageFiles} {done : List IndexEntry}
    {tally next : IndexTally} (tallied : Tallied done tally)
    (step : validateEntry pageFiles tally entry = .ok next) :
    EntryPasses pageFiles done entry ∧ itemTotal (done ++ [entry]) < 2 ^ 64 ∧
      byteTotal (done ++ [entry]) < 2 ^ 64 ∧ Tallied (done ++ [entry]) next := by
  have snoc := tallied.snoc entry
  dsimp only at snoc
  have counts := tallied.totals entry.identity.conversationKey
  unfold validateEntry at step
  obtain ⟨_, identity, step⟩ := bind_ok step
  obtain ⟨_, checked, step⟩ := bind_ok step
  obtain ⟨_, sized, step⟩ := bind_ok step
  rw [refuse_eq_ok, not_or, not_or, not_or, Int.not_lt, tallied.recencies, tallied.mappings]
    at checked
  rw [refuse_eq_ok, not_or, not_or, Nat.not_lt, Nat.not_lt] at sized
  split at step
  · cases step
  · rename_i pageFile found
    obtain ⟨_, agrees, step⟩ := bind_ok step
    obtain ⟨pages, onePage, step⟩ := bind_ok step
    obtain ⟨items, someItems, step⟩ := bind_ok step
    obtain ⟨bytes, someBytes, step⟩ := bind_ok step
    obtain ⟨_, within, step⟩ := bind_ok step
    obtain ⟨allItems, sumItems, step⟩ := bind_ok step
    obtain ⟨allBytes, sumBytes, step⟩ := bind_ok step
    rw [refuse_eq_ok, not_or, not_not, not_not] at agrees
    rw [refuse_eq_ok, not_or, not_or, Nat.not_lt, Nat.not_lt, Nat.not_lt] at within
    obtain ⟨_, rfl⟩ := checkedAdd_fits onePage
    obtain ⟨_, rfl⟩ := checkedAdd_fits someItems
    obtain ⟨_, rfl⟩ := checkedAdd_fits someBytes
    obtain ⟨itemsFit, rfl⟩ := checkedAdd_fits sumItems
    obtain ⟨bytesFit, rfl⟩ := checkedAdd_fits sumBytes
    cases step
    rw [counts] at within
    have page : pageFile = ⟨entry.byteLength.toNat, entry.itemCount.toNat⟩ := by
      obtain ⟨byteLength, itemCount⟩ := pageFile
      dsimp only at agrees
      rw [agrees.1, agrees.2]
    refine ⟨⟨identity, checked.1, checked.2.1, checked.2.2.1, checked.2.2.2, ⟨sized.1, sized.2.1,
      sized.2.2⟩, page ▸ found, ?_⟩, ?_, ?_, snoc⟩
    · rw [ofConversation_append, ofConversation_self]
      exact ⟨by simpa using within.1, by simpa using within.2.1, by simpa using within.2.2⟩
    · simpa [tallied.totalItems] using itemsFit
    · simpa [tallied.totalBytes] using bytesFit

theorem validateEntry_of_passes {pageFiles : PageFiles} {done : List IndexEntry}
    {tally : IndexTally} (tallied : Tallied done tally) (passes : EntryPasses pageFiles done entry)
    (items : itemTotal (done ++ [entry]) < 2 ^ 64) (bytes : byteTotal (done ++ [entry]) < 2 ^ 64) :
    ∃ next, validateEntry pageFiles tally entry = .ok next ∧ Tallied (done ++ [entry]) next := by
  have snoc := tallied.snoc entry
  dsimp only at snoc
  have counts := tallied.totals entry.identity.conversationKey
  have within := passes.within
  rw [ofConversation_append, ofConversation_self] at within
  obtain ⟨pagesWithin, itemsWithin, bytesWithin⟩ := within
  simp only [List.length_append, List.length_singleton, itemTotal_append, itemTotal_cons,
    itemTotal_nil, byteTotal_append, byteTotal_cons, byteTotal_nil]
    at pagesWithin itemsWithin bytesWithin items bytes
  have small : maxConversationPages < 2 ^ 64 ∧ maxConversationItems < 2 ^ 64 ∧
      maxConversationBytes < 2 ^ 64 := by decide
  have checked : ¬(entry.freshReceivedAtUnixSeconds.toInt < 0 ∨ entry.recency = 0 ∨
      entry.recency ∈ tally.recencies ∨ mappingSortKey entry.identity ∈ tally.mappings) := by
    rw [tallied.recencies, tallied.mappings]
    rintro (early | zero | recency | mapping)
    · exact absurd passes.received (by omega)
    · exact passes.nonzero zero
    · exact passes.recency recency
    · exact passes.mapping mapping
  have sized : ¬(maxPageItems < entry.itemCount.toNat ∨ entry.byteLength.toNat = 0 ∨
      maxPageBytes < entry.byteLength.toNat) := by
    rintro (large | empty | long)
    · exact absurd passes.sized.items (by omega)
    · exact passes.sized.nonempty empty
    · exact absurd passes.sized.bytes (by omega)
  refine ⟨_, ?_, snoc⟩
  unfold validateEntry
  rw [passes.identity, ok_bind, refuse_eq_ok.mpr checked, ok_bind]
  dsimp only
  rw [refuse_eq_ok.mpr sized, ok_bind, passes.page]
  dsimp only
  rw [refuse_eq_ok.mpr (by simp), ok_bind, counts]
  dsimp only
  rw [checkedAdd_of_lt (by omega), ok_bind, checkedAdd_of_lt (by omega), ok_bind,
    checkedAdd_of_lt (by omega), ok_bind, refuse_eq_ok.mpr (by omega), ok_bind, tallied.totalItems,
    checkedAdd_of_lt (by omega), ok_bind, tallied.totalBytes, checkedAdd_of_lt (by omega), ok_bind]

/-- What the loop asks of all its entries. -/
structure Passed (pageFiles : PageFiles) (entries : List IndexEntry) : Prop where
  valid : ValidEntries entries
  sized : ∀ entry ∈ entries, PageSized entry
  pages : ∀ entry ∈ entries, pageFiles.lookup entry.identity.pageSha256 =
    some ⟨entry.byteLength.toNat, entry.itemCount.toNat⟩
  within : ∀ key, WithinConversation (ofConversation key entries)
  items : itemTotal entries < 2 ^ 64
  bytes : byteTotal entries < 2 ^ 64

theorem passed_nil (pageFiles : PageFiles) : Passed pageFiles [] where
  valid := ⟨List.nodup_nil, List.nodup_nil, by simp, by simp, by simp⟩
  sized := by simp
  pages := by simp
  within := fun _ => ⟨Nat.zero_le _, Nat.zero_le _, Nat.zero_le _⟩
  items := by decide
  bytes := by decide

theorem nodup_concat_iff {α : Type} {items : List α} {item : α} :
    (items ++ [item]).Nodup ↔ items.Nodup ∧ item ∉ items := by
  rw [← List.concat_eq_append, List.nodup_concat]
  exact and_comm

theorem passed_snoc {pageFiles : PageFiles} {done : List IndexEntry} :
    Passed pageFiles (done ++ [entry]) ↔ Passed pageFiles done ∧
      EntryPasses pageFiles done entry ∧ itemTotal (done ++ [entry]) < 2 ^ 64 ∧
      byteTotal (done ++ [entry]) < 2 ^ 64 := by
  have split : ∀ {fact : IndexEntry → Prop}, (∀ held ∈ done ++ [entry], fact held) ↔
      (∀ held ∈ done, fact held) ∧ fact entry := by
    intro fact
    simp only [List.mem_append, List.mem_singleton, or_imp, forall_and, forall_eq]
  constructor
  · intro passed
    obtain ⟨⟨recencies, mappings, nonzero, received, identities⟩, sized, pages, within, items, bytes⟩ :=
      passed
    rw [List.map_append, List.map_singleton, nodup_concat_iff] at recencies mappings
    rw [split] at nonzero received identities sized pages
    have part : done.Sublist (done ++ [entry]) := List.sublist_append_left _ _
    refine ⟨⟨⟨recencies.1, mappings.1, nonzero.1, received.1, identities.1⟩, sized.1, pages.1, ?_,
      ?_, ?_⟩, ⟨identities.2, received.2, nonzero.2, recencies.2, mappings.2, sized.2, pages.2,
      within _⟩, items, bytes⟩
    · intro key
      exact (within key).sublist (part.filter _)
    · exact Nat.lt_of_le_of_lt (itemTotal_le part) items
    · exact Nat.lt_of_le_of_lt (byteTotal_le part) bytes
  · rintro ⟨passed, passes, items, bytes⟩
    refine ⟨⟨?_, ?_, ?_, ?_, ?_⟩, ?_, ?_, ?_, items, bytes⟩
    · rw [List.map_append, List.map_singleton, nodup_concat_iff]
      exact ⟨passed.valid.recencies, passes.recency⟩
    · rw [List.map_append, List.map_singleton, nodup_concat_iff]
      exact ⟨passed.valid.mappings, passes.mapping⟩
    · exact split.mpr ⟨passed.valid.nonzero, passes.nonzero⟩
    · exact split.mpr ⟨passed.valid.received, passes.received⟩
    · exact split.mpr ⟨passed.valid.identities, passes.identity⟩
    · exact split.mpr ⟨passed.sized, passes.sized⟩
    · exact split.mpr ⟨passed.pages, passes.page⟩
    · intro key
      by_cases same : key = entry.identity.conversationKey
      · rw [same]
        exact passes.within
      · rw [ofConversation_append, ofConversation_other same, List.append_nil]
        exact passed.within key

theorem validateEntries_passed {pageFiles : PageFiles} {tally : IndexTally}
    (looped : entries.foldlM (validateEntry pageFiles) {} = .ok tally) :
    Tallied entries tally ∧ Passed pageFiles entries := by
  apply foldlM_ok_prefix (fun done tally => Tallied done tally ∧ Passed pageFiles done) _ _ looped
  · intro done before entry after held step
    obtain ⟨passes, items, bytes, tallied⟩ := validateEntry_eq_ok held.1 step
    exact ⟨tallied, passed_snoc.mpr ⟨held.2, passes, items, bytes⟩⟩
  · exact ⟨.empty, passed_nil pageFiles⟩

theorem validateEntries_of_passed {pageFiles : PageFiles} (passed : Passed pageFiles entries) :
    ∃ tally, entries.foldlM (validateEntry pageFiles) {} = .ok tally ∧ Tallied entries tally := by
  induction entries using List.reverseRecOn with
  | nil => exact ⟨_, rfl, .empty⟩
  | append_singleton done entry ih =>
    obtain ⟨before, passes, items, bytes⟩ := passed_snoc.mp passed
    obtain ⟨tally, looped, tallied⟩ := ih before
    obtain ⟨next, step, left⟩ := validateEntry_of_passes tallied passes items bytes
    refine ⟨next, ?_, left⟩
    rw [List.foldlM_append, looped, ok_bind, List.foldlM_cons, step]
    rfl

theorem Tallied.conversations_length {tally : IndexTally} (tallied : Tallied index.entries tally) :
    tally.conversations.length = conversationCount index := by
  rw [← List.length_map (·.1)]
  apply List.Perm.length_eq
  rw [List.perm_ext_iff_of_nodup tallied.distinct (conversationKeys_nodup index)]
  intro key
  rw [tallied.keys, mem_conversationKeys, List.mem_map]

/-- `validate_index` accepts the sound indices that are within all bounds. -/
theorem validateIndex_eq_ok_iff {pageFiles : PageFiles} :
    validateIndex index pageFiles = .ok () ↔ SoundIndex index pageFiles ∧
      (∀ entry ∈ index.entries, PageSized entry) ∧ Bounded index := by
  constructor
  · intro valid
    unfold validateIndex at valid
    obtain ⟨_, schema, valid⟩ := bind_ok valid
    obtain ⟨_, _, valid⟩ := bind_ok valid
    obtain ⟨tally, looped, valid⟩ := bind_ok valid
    obtain ⟨tallied, passed⟩ := validateEntries_passed looped
    rw [refuse_eq_ok, tallied.conversations_length, tallied.totalItems, tallied.totalBytes, not_or,
      not_or, not_or, Nat.not_lt, Nat.not_lt, Nat.not_lt, Nat.not_lt] at valid
    rw [refuse_eq_ok, not_not] at schema
    exact ⟨⟨schema, passed.valid, passed.pages, passed.items, passed.bytes⟩, passed.sized,
      passed.within, valid.1, valid.2.1, valid.2.2.1, valid.2.2.2⟩
  · rintro ⟨sound, sized, bounded⟩
    obtain ⟨tally, looped, tallied⟩ := validateEntries_of_passed
      ⟨sound.entries, sized, sound.pages, bounded.conversation, sound.items, sound.bytes⟩
    have conversations := bounded.conversations
    have pages := bounded.pages
    have items := bounded.items
    have bytes := bounded.bytes
    unfold validateIndex
    rw [refuse_eq_ok.mpr (not_not.mpr sound.schema), ok_bind, refuse_eq_ok.mpr (by omega), ok_bind,
      looped, ok_bind, tallied.conversations_length, tallied.totalItems, tallied.totalBytes]
    exact refuse_eq_ok.mpr (by omega)

end Decodex.Source.Gpui
