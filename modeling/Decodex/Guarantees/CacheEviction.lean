import Decodex.Source.Gpui.CacheEviction
import Decodex.Guarantees.Samples

/-!
# Eviction meets every bound

The index that eviction starts from passes all of `validate_index` but its sizes, and one of its
entries is the newest. `serde_json` is outside; what is used of it is that a list is written as
the texts of its items, in their order, with commas between them.
-/
namespace Decodex.Guarantees.CacheEviction

open Decodex.Library
open Decodex.Source.Core Decodex.Source.Gpui
open Decodex.Guarantees.Samples (samplePageDigest)

/-- The text of an index before its entries, and behind them. -/
def indexHead : List UInt8 :=
  utf8 "\x7b\"schema_id\":\"decodex.gpui.history-page-cache/1\",\"entries\":["

def indexTail : List UInt8 := utf8 "]\x7d"

/-- `serde_json::to_vec` of an index with this writer of its entries. -/
def indexText (writeEntry : IndexEntry → List UInt8) (entries : List IndexEntry) : List UInt8 :=
  indexHead ++ [44].intercalate (entries.map writeEntry) ++ indexTail

/-- `serde_json` writes the entries of an index one after another. -/
structure WritesEntries (codec : JsonCodec CacheIndex) : Prop where
  writes : ∃ writeEntry : IndexEntry → List UInt8, ∀ entries,
    codec.toVec ⟨cacheSchemaId, entries⟩ = indexText writeEntry entries

theorem length_intercalate {α : Type} (separator : List α) (first : List α) (rest : List (List α)) :
    (separator.intercalate (first :: rest)).length =
      ((first :: rest).map List.length).sum + separator.length * rest.length := by
  induction rest generalizing first with
  | nil => simp [List.intercalate]
  | cons second rest ih =>
    rw [List.intercalate_cons_cons, List.length_append, List.length_append, ih]
    simp only [List.map_cons, List.sum_cons, List.length_cons, Nat.mul_succ]
    omega

/-- The order of the items does not change how long their list is written. -/
theorem length_intercalate_perm {α : Type} {separator : List α} {left right : List (List α)}
    (same : left.Perm right) :
    (separator.intercalate left).length = (separator.intercalate right).length := by
  have lengths := (same.map List.length).sum_eq
  have counts := same.length_eq
  cases left with
  | nil => rw [List.nil_perm.mp same]
  | cons first rest =>
    cases right with
    | nil => cases counts
    | cons other others =>
      rw [length_intercalate, length_intercalate, lengths]
      simp only [List.length_cons, Nat.add_right_cancel_iff] at counts
      rw [counts]

variable {host : CacheHost} {index : CacheIndex} {pageFiles : PageFiles}

/-- Eviction ends on every index that is sound but for its sizes. The result holds fresh entries
only, is within every bound, still holds the newest entry where that fits on its own, and keeps
the most recent entries of each conversation. -/
theorem eviction_meets_every_bound (writes : WritesEntries host.indexJson)
    (sound : SoundIndex index pageFiles) (newest : IndexEntry) (now : Int64)
    (listed : newest ∈ index.entries)
    (greatest : ∀ entry ∈ index.entries, entry ≠ newest → entry.recency < newest.recency) :
    ∃ after, evictToBounds host index now = .ok after ∧
      after.entries.Subperm (freshEntries index now) ∧ Bounded after ∧
      (∃ bytes, serializeIndex host after = .ok bytes ∧ bytes.length ≤ maxIndexBytes) ∧
      (isFreshEligible newest.freshReceivedAtUnixSeconds now = true →
        FitsAlone host cacheSchemaId newest → newest ∈ after.entries) ∧
      (∀ gone ∈ freshEntries index now, gone ∉ after.entries → ∀ kept ∈ after.entries,
        gone.identity.conversationKey = kept.identity.conversationKey →
        gone.recency < kept.recency) ∧
      ((∀ entry ∈ index.entries, PageSized entry) → validateIndex after pageFiles = .ok ()) := by
  obtain ⟨writeEntry, written⟩ := writes.writes
  have schema := sound.schema
  have text : ∀ entries : List IndexEntry, host.indexJson.toVec { index with entries := entries } =
      indexText writeEntry entries := by
    intro entries
    rw [schema]
    exact written entries
  obtain ⟨after, evicted, same, part, bounded, serialized, stays, recent⟩ :=
    @evictToBounds_spec host index now sound.countable
      (by
        rw [text]
        change (indexHead ++ [] ++ indexTail).length ≤ maxIndexBytes
        decide +kernel)
      (by
        intro left right same
        rw [text, text]
        unfold indexText
        simp only [List.length_append]
        rw [length_intercalate_perm (same.map writeEntry)])
  refine ⟨after, evicted, part, bounded, ⟨_, ?_, serialized⟩, ?_, ?_, ?_⟩
  · unfold serializeIndex
    have nonempty : (host.indexJson.toVec after).isEmpty = false := by
      obtain ⟨schemaId, entries⟩ := after
      have own : schemaId = cacheSchemaId := same.trans schema
      have head : indexHead ≠ [] := by decide
      rw [own, written, List.isEmpty_eq_false_iff]
      simp [indexText, head]
    dsimp only
    rw [if_neg]
    rw [nonempty, not_or]
    exact ⟨Bool.false_ne_true, by omega⟩
  · intro fresh alone
    apply stays newest ⟨List.mem_filter.mpr ⟨listed, fresh⟩, ?_⟩ (schema ▸ alone)
    intro entry member
    by_cases own : entry = newest
    · rw [own]
    · exact Nat.le_of_lt (UInt64.lt_iff_toNat_lt.mp
        (greatest entry (List.mem_filter.mp member).1 own))
  · intro gone fresh lost kept held own
    exact UInt64.lt_iff_toNat_lt.mpr (recent gone fresh lost kept held own)
  · intro sized
    have whole := part.trans List.filter_sublist.subperm
    exact validateIndex_eq_ok_iff.mpr ⟨sound.subperm same whole,
      fun entry member => sized entry (whole.subset member), bounded⟩

/-- The text of an entry whose strings need no escapes. -/
def writeEntry (entry : IndexEntry) : List UInt8 :=
  let authority := entry.identity.authority
  utf8 <| "\x7b\"identity\":\x7b\"authority\":\x7b\"stable_server_id\":\"" ++
    authority.stableServerId.text ++ "\",\"protocol_major\":" ++ toString authority.protocolMajor ++
    ",\"protocol_minor\":" ++ toString authority.protocolMinor ++
    ",\"cache_schema_generation\":" ++ toString authority.cacheSchemaGeneration ++
    "\x7d,\"conversation_id\":\"" ++ entry.identity.conversationId.text ++ "\",\"request_key\":" ++
    (match entry.identity.requestKey with
      | .head => "\"head\""
      | .after cursor => "\x7b\"after\":\"" ++ cursor.text ++ "\"\x7d") ++
    ",\"page_sha256\":\"" ++ entry.identity.pageSha256 ++
    "\"\x7d,\"fresh_received_at_unix_seconds\":" ++ toString entry.freshReceivedAtUnixSeconds ++
    ",\"recency\":" ++ toString entry.recency ++ ",\"item_count\":" ++ toString entry.itemCount ++
    ",\"byte_length\":" ++ toString entry.byteLength ++ "\x7d"

def sampleServer : ServerId := ⟨"eviction-server", by decide⟩

def sampleEntity : EntityId := ⟨"bounded-pages", by decide⟩

def sampleEntry (requestKey : CacheRequestKey) (recency : UInt64) : IndexEntry where
  identity := ⟨⟨sampleServer, 1, 0, 1⟩, sampleEntity, requestKey, samplePageDigest⟩
  freshReceivedAtUnixSeconds := 10000
  recency
  itemCount := 0
  byteLength := 40

def sampleNewest : IndexEntry := sampleEntry (.after ⟨"page-5", by decide⟩) 5

def samplePages : CacheIndex where
  schemaId := cacheSchemaId
  entries := [
    sampleEntry .head 1,
    sampleEntry (.after ⟨"page-2", by decide⟩) 2,
    sampleEntry (.after ⟨"page-3", by decide⟩) 3,
    sampleEntry (.after ⟨"page-4", by decide⟩) 4,
    sampleNewest]

theorem length_zeros : (List.replicate 32 (0 : UInt8)).length = 32 := List.length_replicate

def sampleWriter : CacheHost where
  Item := Empty
  effectiveUid := 501
  sha256 _ := ⟨List.replicate 32 0, length_zeros⟩
  pageJson := ⟨fun _ => [], fun _ => none⟩
  indexJson :=
    ⟨fun index => indexText writeEntry index.entries, fun text =>
      if text = indexText writeEntry samplePages.entries then some samplePages else none⟩

/-- Of five pages of one conversation the newest is kept. -/
theorem five_pages_keep_newest : ∃ after, evictToBounds sampleWriter samplePages 10000 = .ok after ∧
    Bounded after ∧ sampleNewest ∈ after.entries := by
  obtain ⟨after, evicted, _, bounded, _, kept, _⟩ := @eviction_meets_every_bound sampleWriter
    samplePages [(samplePageDigest, ⟨40, 0⟩)] ⟨writeEntry, fun _ => rfl⟩
    ⟨rfl, ⟨by decide +kernel, by decide +kernel, by decide +kernel, by decide +kernel,
      by decide +kernel⟩, by decide +kernel, by decide +kernel, by decide +kernel⟩
    sampleNewest 10000 (by decide +kernel) (by decide +kernel)
  refine ⟨after, evicted, bounded, ?_⟩
  exact kept (by decide +kernel) ⟨by decide +kernel, by decide +kernel, by decide +kernel⟩

end Decodex.Guarantees.CacheEviction
