import Decodex.Library.Paging
import Decodex.Guarantees.SettledTurns

/-!
# History paging is lossless

Over every sequence of committed operations that write turns or history items, from an empty
history: the items of a conversation carry the sequences 1, 2, …, n in insertion order, every
item has its turn, and every item reads back. A page is therefore a page of the numbered log
of item ids, which only grows at its end, and a walk visits a prefix of it.
-/
namespace Decodex.Guarantees.HistoryPaging

open Decodex.Library
open Decodex.Source.Core Decodex.Source.Store Decodex.Source.Store.Conversations
open Decodex.Guarantees.SettledTurns
open Decodex.Guarantees.Samples

/-- The texts that the two status writers put into metadata, besides digests and ids. -/
def statusLabels : List String :=
  ["native_turn_not_submitted", "native_resume_rejection", "closing_thread", "missing_thread",
    "archived_thread", "sandbox_configuration", "server_draining", "managed_provider_changed",
    "other"]

/-- What the credential pattern does not match: texts of hexadecimal digits and hyphens, and
the status labels. No alternative of the pattern occurs in them. -/
structure QuietPattern (host : Host) : Prop where
  digits : ∀ text, ((utf8 text).all fun byte => isAsciiHexDigit byte || byte == 45) = true →
    host.containsCredentialMaterial text = false
  labels : ∀ label ∈ statusLabels, host.containsCredentialMaterial label = false

theorem hexDigit_of_lowerHex {byte : UInt8} (lower : isLowerHex byte = true) :
    isAsciiHexDigit byte = true := by
  unfold isLowerHex at lower
  unfold isAsciiHexDigit
  rw [lower]
  rfl

theorem uuid_quiet {host : Host} (quiet : QuietPattern host) (id : ProviderEvidenceId) :
    host.containsCredentialMaterial id.text = false ∧ id.text.utf8ByteSize = 36 := by
  have canonical := id.toUuid.canonical
  unfold isCanonicalUuid at canonical
  rw [Bool.and_eq_true] at canonical
  refine ⟨quiet.digits _ (List.all_eq_true.mpr fun byte member => ?_), ?_⟩
  · obtain ⟨index, inside, found⟩ := List.getElem_of_mem member
    have here := List.all_eq_true.mp canonical.2 (byte, index) (by
      rw [List.mem_zipIdx_iff_getElem?]
      exact List.getElem?_eq_some_iff.mpr ⟨inside, found⟩)
    dsimp only at here
    split at here
    · simp [beq_iff_eq.mp here]
    · simp [hexDigit_of_lowerHex here]
  · rw [← utf8_length]
    exact beq_iff_eq.mp canonical.1

theorem hexDigest_quiet {host : Host} (quiet : QuietPattern host) {digest : String}
    (hex : isHexDigest digest = true) :
    host.containsCredentialMaterial digest = false ∧ digest.utf8ByteSize = 64 := by
  unfold isHexDigest at hex
  rw [Bool.and_eq_true] at hex
  refine ⟨quiet.digits _ (List.all_eq_true.mpr fun byte member => ?_), ?_⟩
  · simp [List.all_eq_true.mp hex.2 byte member]
  · rw [← utf8_length]
    exact beq_iff_eq.mp hex.1

theorem isHexDigest_of_isSha256 {digest : String} (sha : isSha256 digest = true) :
    isHexDigest digest = true := by
  unfold isSha256 at sha
  rw [Bool.and_eq_true] at sha
  unfold isHexDigest
  rw [sha.1, Bool.true_and, List.all_eq_true]
  exact fun byte member => hexDigit_of_lowerHex (List.all_eq_true.mp sha.2 byte member)

/-- Three short text fields under harmless keys are valid metadata. -/
theorem validateMetadata_texts {pattern : String → Bool} {fields : MetadataObject}
    (few : fields.length ≤ maxHistoryMetadataFields)
    (each : ∀ field ∈ fields, validateMetadataField pattern field = .ok ()) :
    validateMetadata pattern fields = .ok () := by
  unfold validateMetadata
  rw [if_neg (Nat.not_lt.mpr few)]
  induction fields with
  | nil => rfl
  | cons first rest ih =>
    change (validateMetadataField pattern first >>= fun _ => rest.forM _) = _
    rw [each first (by simp)]
    exact ih (Nat.le_of_succ_le few) fun field member => each field (by simp [member])

theorem validateMetadataField_text {pattern : String → Bool} {key text : String}
    (named : key.isEmpty = false ∧ key.utf8ByteSize ≤ maxHistoryMetadataKeyBytes ∧
      isCredentialMetadataKey key = false)
    (short : text.utf8ByteSize ≤ maxHistoryMetadataValueBytes) (clean : pattern text = false) :
    validateMetadataField pattern (key, .text text) = .ok () := by
  obtain ⟨nonempty, bounded, harmless⟩ := named
  unfold validateMetadataField
  simp [nonempty, Nat.not_lt.mpr bounded, harmless, Nat.not_lt.mpr short, clean]

theorem resumeLabel_quiet (reason : ConversationResumeRejection) :
    reason.label ∈ statusLabels ∧ reason.label.utf8ByteSize ≤ maxHistoryMetadataValueBytes := by
  cases reason <;> decide

/-- Whatever metadata a writer stores is valid when it is read. -/
theorem writtenMetadata_valid {host : Host} (quiet : QuietPattern host)
    {fields : MetadataObject} (written : WrittenMetadata host fields) :
    validateMetadata host.containsCredentialMaterial fields = .ok () := by
  cases written with
  | validated _ valid => exact valid
  | nonSubmission evidence valid =>
    have sha : isSha256 evidence.witnessDigest = true := by
      unfold ProviderPositiveEvidence.validate at valid
      split at valid
      · cases valid
      · rename_i admitted
        simp only [Bool.or_eq_true, not_or, Bool.not_eq_true, Bool.not_eq_false'] at admitted
        exact admitted.1
    obtain ⟨idClean, idLength⟩ := uuid_quiet quiet evidence.evidenceId
    obtain ⟨digestClean, digestLength⟩ := hexDigest_quiet quiet (isHexDigest_of_isSha256 sha)
    refine validateMetadata_texts (show 3 ≤ 32 by decide) fun field member => ?_
    simp only [nonSubmissionMetadata, List.mem_cons, List.not_mem_nil, or_false] at member
    rcases member with rfl | rfl | rfl
    · exact validateMetadataField_text (by decide) (by rw [idLength]; decide) idClean
    · exact validateMetadataField_text (by decide) (by rw [digestLength]; decide) digestClean
    · exact validateMetadataField_text (by decide) (by decide) (quiet.labels _ (by decide))
  | resumeRejection request digest =>
    obtain ⟨label, short⟩ := resumeLabel_quiet request.reason
    obtain ⟨digestClean, digestLength⟩ := hexDigest_quiet quiet digest
    refine validateMetadata_texts (show 3 ≤ 32 by decide) fun field member => ?_
    simp only [resumeRejectionMetadata, List.mem_cons, List.not_mem_nil, or_false] at member
    rcases member with rfl | rfl | rfl
    · exact validateMetadataField_text (by decide) short (quiet.labels _ label)
    · exact validateMetadataField_text (by decide) (by rw [digestLength]; decide) digestClean
    · exact validateMetadataField_text (by decide) (by decide) (quiet.labels _ (by decide))

structure ReadableItem (host : Host) (blobs : BlobStore) (item : HistoryItemRow) : Prop where
  mediaType : isCanonicalMediaType item.mediaType = true
  metadata : validateMetadata host.containsCredentialMaterial item.metadata = .ok ()
  blob : ∀ hash, item.blobHash = some hash → blobs.Holds host.blobDigest hash

structure PagingInvariant (host : Host) (s : StoreState) : Prop where
  numbered : ∀ id, Numbered (·.sequence) 0 (historyOf s.store.historyItems id)
  owned : ∀ item ∈ s.store.historyItems.rows,
    (s.store.turns.find? item.turnId).isSome = true
  readable : ∀ item ∈ s.store.historyItems.rows, ReadableItem host s.blobs item

theorem readableItem_of_written {host : Host} (quiet : QuietPattern host)
    {published : Option BlobHash} {blobs : BlobStore} {item : HistoryItemRow}
    (written : WrittenItem host published item)
    (held : ∀ hash, published = some hash → blobs.Holds host.blobDigest hash) :
    ReadableItem host blobs item where
  mediaType := written.mediaType
  metadata := writtenMetadata_valid quiet written.metadata
  blob hash named := held hash (written.blob hash named)

/-- The next sequence of a numbered history is one more than its length. -/
theorem nextSequence_of_numbered {items : Table historyItems} {id : ConversationId}
    (numbered : Numbered (·.sequence) 0 (historyOf items id)) :
    nextSequence items id = (historyOf items id).length + 1 := by
  unfold nextSequence
  rw [numbered.foldl_max]
  omega

theorem historyOf_insert {before after : Table historyItems} {item : HistoryItemRow}
    (inserted : before.insert item = some after) (id : ConversationId) :
    historyOf after id =
      historyOf before id ++ if item.conversationId = id then [item] else [] := by
  unfold historyOf
  rw [Table.insert_rows inserted, List.filter_append]
  by_cases here : item.conversationId = id <;> simp [here]

theorem numbered_insert {before after : Table historyItems} {item : HistoryItemRow}
    (numbered : ∀ id, Numbered (·.sequence) 0 (historyOf before id))
    (inserted : before.insert item = some after)
    (sequence : item.sequence = nextSequence before item.conversationId) (id : ConversationId) :
    Numbered (·.sequence) 0 (historyOf after id) := by
  rw [historyOf_insert inserted]
  split
  · rename_i here
    subst here
    refine (numbered _).append_one ?_
    rw [sequence, nextSequence_of_numbered (numbered _)]
    omega
  · rw [List.append_nil]
    exact numbered id

/-- An edit of one item, seen from the history of a conversation. -/
theorem historyOf_updateKey {before after : Table historyItems} {key : HistoryItemId}
    {change : HistoryItemRow → HistoryItemRow} (updated : before.updateKey key change = some after)
    (keeps : ∀ row, (change row).conversationId = row.conversationId) (id : ConversationId) :
    historyOf after id = (historyOf before id).map fun row =>
      if decide (historyItems.key row = key) then change row else row := by
  unfold historyOf
  rw [Table.updateWhere_rows updated, List.filter_map]
  congr 2
  funext row
  simp only [Function.comp_apply]
  split
  · rw [keeps row]
  · rfl

/-- A turn that is there stays there. -/
theorem turnChange_keepsTurns {host : Host} {published : Option BlobHash} {safe : Prop}
    {before after : Table turns} {old new : Table historyItems}
    (change : TurnChange host published safe before after old new) (id : TurnId)
    (found : (before.find? id).isSome = true) : (after.find? id).isSome = true := by
  have closedKeeps : ∀ ids, ClosedTurns before after ids → (after.find? id).isSome = true := by
    intro ids closed
    by_cases here : id ∈ ids
    · obtain ⟨turn, turnFound, _⟩ := closed.closed id here
      rw [turnFound]
      rfl
    · rw [closed.others id here]
      exact found
  cases change with
  | kept sameTurns => exact sameTurns ▸ found
  | opened turn item opened =>
    rw [Table.find?_insert opened]
    split
    · rfl
    · exact found
  | appended _ _ _ _ _ _ _ sameTurns => exact sameTurns ▸ found
  | edited _ _ _ _ _ _ _ sameTurns => exact sameTurns ▸ found
  | closed ids closed => exact closedKeeps ids closed
  | closedWith target item closed => exact closedKeeps [target] closed
  | bound turn session now _ _ updated =>
    rw [Table.find?_updateKey updated fun _ => rfl]
    split <;> simpa using found

/-- How the items of a store change: at most one new row, at most one edited row. -/
inductive ItemsChange (host : Host) (published : Option BlobHash) (after : Table turns)
    (old new : Table historyItems) : Prop
  | kept (same : new = old)
  | inserted (item : HistoryItemRow) (inserted : old.insert item = some new)
      (sequence : item.sequence = nextSequence old item.conversationId)
      (written : WrittenItem host published item)
      (owned : (after.find? item.turnId).isSome = true)
  | edited (item : HistoryItemRow) (change : HistoryItemRow → HistoryItemRow)
      (found : old.find? item.historyItemId = some item)
      (updated : old.updateKey item.historyItemId change = some new)
      (keeps : ∀ row, (change row).historyItemId = row.historyItemId ∧
        (change row).conversationId = row.conversationId ∧ (change row).turnId = row.turnId ∧
        (change row).sequence = row.sequence)
      (written : WrittenItem host published (change item))

theorem turnChange_items {host : Host} {published : Option BlobHash} {safe : Prop}
    {before after : Table turns} {old new : Table historyItems}
    (change : TurnChange host published safe before after old new) :
    ItemsChange host published after old new := by
  cases change with
  | kept _ sameItems => exact .kept sameItems
  | opened turn item opened _ inserted owner sequence written =>
    refine .inserted item inserted sequence written ?_
    rw [Table.find?_insert opened, turns_key, if_pos owner.symm]
    rfl
  | appended turn item found _ inserted sequence written sameTurns =>
    refine .inserted item inserted sequence written ?_
    rw [sameTurns, found]
    rfl
  | edited item change found updated keeps written =>
    exact .edited item change found updated keeps written
  | closed _ _ _ sameItems => exact .kept sameItems
  | closedWith id item closed _ inserted owner _ sequence written =>
    refine .inserted item inserted sequence written ?_
    obtain ⟨turn, found, _⟩ := closed.closed id (by simp)
    rw [owner, found]
    rfl
  | bound _ _ _ _ _ _ sameItems => exact .kept sameItems

theorem turnStep_invariant {host : Host} (quiet : QuietPattern host) (s : StoreState)
    (event : TurnEvent host) (t : StoreState) (step : TurnStep host s event t)
    (invariant : PagingInvariant host s) : PagingInvariant host t := by
  obtain ⟨published, effect, held, keeps⟩ := turnStep_effect step
  have turnsKept := turnChange_keepsTurns effect.change
  have oldReadable : ∀ item ∈ s.store.historyItems.rows, ReadableItem host t.blobs item := by
    intro item member
    obtain ⟨mediaType, metadata, blob⟩ := invariant.readable item member
    exact ⟨mediaType, metadata, fun hash named => keeps hash (blob hash named)⟩
  have oldOwned : ∀ item ∈ s.store.historyItems.rows,
      (t.store.turns.find? item.turnId).isSome = true :=
    fun item member => turnsKept _ (invariant.owned item member)
  cases turnChange_items effect.change with
  | kept same =>
    refine ⟨?_, ?_, ?_⟩ <;> rw [same]
    · exact invariant.numbered
    · exact oldOwned
    · exact oldReadable
  | inserted item inserted sequence written owned =>
    have rows := Table.insert_rows inserted
    refine ⟨numbered_insert invariant.numbered inserted sequence, fun row member => ?_,
      fun row member => ?_⟩
    · rw [rows, List.mem_append, List.mem_singleton] at member
      rcases member with old | rfl
      · exact oldOwned row old
      · exact owned
    · rw [rows, List.mem_append, List.mem_singleton] at member
      rcases member with old | rfl
      · exact oldReadable row old
      · exact readableItem_of_written quiet written held
  | edited item change found updated keepsRow written =>
    refine ⟨fun id => ?_, fun row member => ?_, fun row member => ?_⟩
    · rw [historyOf_updateKey updated fun row => (keepsRow row).2.1]
      refine (invariant.numbered id).map fun row => ?_
      split
      · exact (keepsRow row).2.2.2
      · rfl
    · obtain ⟨old, oldMember, rfl⟩ := Table.mem_updateKey updated member
      split
      · rw [(keepsRow old).2.2.1]
        exact oldOwned old oldMember
      · exact oldOwned old oldMember
    · obtain ⟨old, oldMember, rfl⟩ := Table.mem_updateKey updated member
      split
      · rename_i key
        have here : old = item := Table.eq_of_key oldMember (Table.mem_of_find? found) key
        subst here
        exact readableItem_of_written quiet written held
      · exact oldReadable old oldMember

/-- The ids of the items of a conversation, in insertion order. -/
def historyIds (s : StoreState) (id : ConversationId) : List HistoryItemId :=
  (historyOf s.store.historyItems id).map (·.historyItemId)

/-- The page query finds exactly the items after the cursor, each with its turn. -/
theorem historyAfter_items {host : Host} {s : StoreState} (invariant : PagingInvariant host s)
    (id : ConversationId) (after : Nat) :
    (historyAfter s.store id after).map (·.1) = (historyOf s.store.historyItems id).drop after := by
  have numbered := invariant.numbered id
  have selected : (historyOf s.store.historyItems id).filter
      (fun item => decide ((after : Int) < item.sequence)) =
        (historyOf s.store.historyItems id).drop after := by
    have filtered := numbered.filter_after after
    rwa [zero_add] at filtered
  have joined : ∀ items : List HistoryItemRow, (∀ item ∈ items,
      (s.store.turns.find? item.turnId).isSome = true) →
        (items.filterMap (joinTurn s.store)).map (·.1) = items := by
    intro items owned
    induction items with
    | nil => rfl
    | cons first rest ih =>
      obtain ⟨turn, found⟩ := Option.isSome_iff_exists.mp (owned first (by simp))
      have join : joinTurn s.store first = some (first, turn) := by simp [joinTurn, found]
      rw [List.filterMap_cons_some join, List.map_cons,
        ih fun item member => owned item (by simp [member])]
  have rows := joined ((historyOf s.store.historyItems id).drop after) fun item member =>
    invariant.owned item (List.mem_of_mem_filter (List.mem_of_mem_drop member))
  unfold historyAfter
  rw [selected, List.mergeSort_of_pairwise]
  · exact rows
  · have ordered := (numbered.pairwise.sublist (List.drop_sublist after _))
    rw [← rows, List.pairwise_map] at ordered
    exact ordered.imp fun less => by
      rw [decide_eq_true_eq]
      exact le_of_lt less

theorem readHistoryRow_ok {host : Host} {blobs : BlobStore} {row : HistoryItemRow × TurnRow}
    (readable : ReadableItem host blobs row.1) :
    ∃ entry, readHistoryRow host row = .ok entry ∧
      entry.historyItemId = row.1.historyItemId ∧
        ∀ hash, entry.blobHash = some hash → blobs.Holds host.blobDigest hash := by
  unfold readHistoryRow
  rw [dif_pos readable.mediaType, dif_pos readable.metadata]
  exact ⟨_, rfl, rfl, readable.blob⟩

theorem hydrateHistoryBlob_ok {host : Host} {blobs : BlobStore} {entry : HistoryEntry host}
    (held : ∀ hash, entry.blobHash = some hash → blobs.Holds host.blobDigest hash) :
    ∃ hydrated, hydrateHistoryBlob blobs entry = .ok hydrated ∧
      hydrated.historyItemId = entry.historyItemId := by
  unfold hydrateHistoryBlob
  split
  · exact ⟨entry, rfl, rfl⟩
  · rename_i hash named
    obtain ⟨bytes, read, _⟩ := held hash named
    rw [read]
    exact ⟨_, rfl, rfl⟩

/-- In a state of the invariant a page read succeeds, and it is the page of the ids. -/
theorem conversationHistory_page {host : Host} {s : StoreState}
    (invariant : PagingInvariant host s) {id : ConversationId}
    (present : (s.store.conversations.find? id).isSome = true) (cursor : Option HistoryCursor)
    (after : Nat) (position : (cursor.map (·.sequence)).getD 0 = after) {size : Nat}
    (positive : 0 < size) (bounded : size ≤ maxPageSize) :
    ∃ found, conversationHistory host s.blobs s.store id cursor size = .ok found ∧
      found.entries.map (·.historyItemId) = (page (historyIds s id) after size).1 ∧
      found.nextCursor = (page (historyIds s id) after size).2.map fun next => ⟨next⟩ := by
  obtain ⟨conversation, conversationFound⟩ := Option.isSome_iff_exists.mp present
  have items := historyAfter_items invariant id after
  have readable (row : HistoryItemRow × TurnRow)
      (listed : row ∈ (historyAfter s.store id after).take (size + 1)) :
      ReadableItem host s.blobs row.1 := by
    have inside : row.1 ∈ (historyOf s.store.historyItems id).drop after := by
      rw [← items]
      exact List.mem_map_of_mem (List.mem_of_mem_take listed)
    exact invariant.readable _ (List.mem_of_mem_filter (List.mem_of_mem_drop inside))
  obtain ⟨rows, read, rowIds⟩ := mapM_ok_map (f := readHistoryRow host)
    (g := fun entry => entry.historyItemId) (h := fun row => row.1.historyItemId)
    fun row listed => by
      obtain ⟨entry, done, same, _⟩ := readHistoryRow_ok (readable row listed)
      exact ⟨entry, done, same⟩
  obtain ⟨_, origins⟩ := mapM_ok_spec (g := fun _ => ()) (h := fun _ => ()) (fun _ _ _ => rfl) read
  obtain ⟨entries, hydrated, entryIds⟩ := mapM_ok_map (f := hydrateHistoryBlob s.blobs)
    (g := fun entry => entry.historyItemId) (h := fun entry => entry.historyItemId)
    fun entry member => by
      obtain ⟨row, listed, made⟩ := origins entry (List.mem_of_mem_take member)
      obtain ⟨found, done, _, held⟩ := readHistoryRow_ok (readable row listed)
      rw [made] at done
      cases done
      exact hydrateHistoryBlob_ok held
  have ids : rows.map (·.historyItemId) = ((historyIds s id).drop after).take (size + 1) := by
    rw [rowIds, historyIds, ← List.map_drop, ← items, List.map_take, List.map_map]
    rfl
  have length : rows.length = min (size + 1) ((historyIds s id).drop after).length := by
    rw [← List.length_map (f := fun entry : HistoryEntry host => entry.historyItemId), ids,
      List.length_take]
  have entriesLength : entries.length = min size rows.length := by
    rw [← List.length_map (f := fun entry : HistoryEntry host => entry.historyItemId), entryIds,
      List.length_map, List.length_take]
  refine ⟨⟨entries, if size < rows.length then some ⟨after + entries.length⟩ else none⟩, ?_, ?_, ?_⟩
  · unfold conversationHistory
    rw [if_neg (by omega), conversationFound, position]
    simp only [read]
    change ((rows.take size).mapM (hydrateHistoryBlob s.blobs) >>= _) = _
    rw [hydrated]
    rfl
  · unfold page
    rw [entryIds, List.map_take, ids, List.take_take, min_eq_left (Nat.le_succ size)]
  · unfold page
    by_cases more : size < rows.length
    · have behind : size < ((historyIds s id).drop after).length := by omega
      have full : entries.length = size := by omega
      simp only [if_pos more, if_pos behind, full, Option.map_some]
      push_cast
      rfl
    · have behind : ¬size < ((historyIds s id).drop after).length := by omega
      simp only [if_neg more, if_neg behind, Option.map_none]

theorem paging_run {host : Host} (quiet : QuietPattern host) {s t : StoreState}
    {events : List (TurnEvent host)} (run : Run (TurnStep host) s events t)
    (invariant : PagingInvariant host s) : PagingInvariant host t :=
  Run.invariant (turnStep_invariant quiet) run invariant

theorem pagingInvariant_empty {host : Host} {s : StoreState}
    (noItems : s.store.historyItems.rows = []) : PagingInvariant host s where
  numbered id := by
    unfold historyOf
    rw [noItems]
    trivial
  owned item member := by
    rw [noItems] at member
    cases member
  readable item member := by
    rw [noItems] at member
    cases member

/-- What every run keeps of one conversation: it stays, and its ids only grow at the end. -/
structure Grows (id : ConversationId) (s t : StoreState) : Prop where
  conversation : (s.store.conversations.find? id).isSome = true →
    (t.store.conversations.find? id).isSome = true
  ids : historyIds s id <+: historyIds t id

theorem Grows.trans {id : ConversationId} (a b c : StoreState) (first : Grows id a b)
    (second : Grows id b c) : Grows id a c :=
  ⟨fun found => second.conversation (first.conversation found), first.ids.trans second.ids⟩

theorem turnStep_grows (host : Host) (id : ConversationId) (s : StoreState)
    (event : TurnEvent host) (t : StoreState) (step : TurnStep host s event t) : Grows id s t := by
  obtain ⟨_, effect, _⟩ := turnStep_effect step
  refine ⟨effect.conversations id, ?_⟩
  unfold historyIds
  cases turnChange_items effect.change with
  | kept same =>
    exact same ▸ List.prefix_rfl
  | inserted item inserted =>
    rw [historyOf_insert inserted, List.map_append]
    exact List.prefix_append _ _
  | edited item change found updated keeps =>
    rw [historyOf_updateKey updated fun row => (keeps row).2.1, List.map_map]
    refine (List.map_congr_left fun row _ => ?_) ▸ List.prefix_rfl
    simp only [Function.comp_apply]
    split
    · exact (keeps row).1
    · rfl

theorem run_grows {host : Host} (id : ConversationId) {s t : StoreState}
    {events : List (TurnEvent host)} (run : Run (TurnStep host) s events t) : Grows id s t :=
  Run.relates (R := Grows id) (fun _ => ⟨fun found => found, List.prefix_rfl⟩) Grows.trans
    (turnStep_grows host id) run

theorem historyIds_nodup (s : StoreState) (id : ConversationId) : (historyIds s id).Nodup := by
  have distinct : (historyOf s.store.historyItems id).Pairwise historyItems.Compatible :=
    s.store.historyItems.distinct.filter _
  exact List.pairwise_map.mpr (distinct.imp fun compatible => compatible.1)

/-- Follow the cursor in one state, one page for each size, until it ends. -/
def followCursor (host : Host) (s : StoreState) (id : ConversationId)
    (cursor : Option HistoryCursor) (size : Nat) :
    List Nat → Except StoreError (List (HistoryEntry host) × Option HistoryCursor)
  | [] => do
    let found ← conversationHistory host s.blobs s.store id cursor size
    .ok (found.entries, found.nextCursor)
  | nextSize :: sizes => do
    let found ← conversationHistory host s.blobs s.store id cursor size
    match found.nextCursor with
    | none => .ok (found.entries, none)
    | some next => do
      let (entries, last) ← followCursor host s id (some next) nextSize sizes
      .ok (found.entries ++ entries, last)

/-- A walk that reads its first page in `s`, and each later page after any run. -/
inductive HistoryWalk (host : Host) (id : ConversationId) (s : StoreState) :
    StoreState → List (HistoryEntry host) → Option HistoryCursor → Nat → Prop
  | first (size : Nat) (positive : 0 < size) (bounded : size ≤ maxPageSize)
      (found : HistoryPage host)
      (read : conversationHistory host s.blobs s.store id none size = .ok found) :
      HistoryWalk host id s s found.entries found.nextCursor 1
  | next {t u : StoreState} {visited : List (HistoryEntry host)} {cursor : HistoryCursor}
      {pages : Nat} {events : List (TurnEvent host)}
      (walk : HistoryWalk host id s t visited (some cursor) pages)
      (run : Run (TurnStep host) t events u) (size : Nat) (positive : 0 < size)
      (bounded : size ≤ maxPageSize) (found : HistoryPage host)
      (read : conversationHistory host u.blobs u.store id (some cursor) size = .ok found) :
      HistoryWalk host id s u (visited ++ found.entries) found.nextCursor (pages + 1)

/-- Every walk is a paged walk of the ids, with the cursor as its position. -/
theorem HistoryWalk.paged {host : Host} (quiet : QuietPattern host) {id : ConversationId}
    {s t : StoreState} {visited : List (HistoryEntry host)} {next : Option HistoryCursor}
    {pages : Nat} (invariant : PagingInvariant host s)
    (present : (s.store.conversations.find? id).isSome = true)
    (walk : HistoryWalk host id s t visited next pages) :
    PagingInvariant host t ∧ Grows id s t ∧ ∃ position : Option Nat,
      next = position.map (fun after => ⟨after⟩) ∧
        PagedWalk (historyIds t id) (visited.map (·.historyItemId)) position pages := by
  induction walk with
  | first size positive bounded found read =>
    obtain ⟨other, otherRead, ids, cursor⟩ :=
      conversationHistory_page invariant present none 0 rfl positive bounded
    rw [read] at otherRead
    cases otherRead
    refine ⟨invariant, ⟨fun here => here, List.prefix_rfl⟩, _, cursor, ?_⟩
    rw [ids]
    exact .first _ size positive
  | @next t u visited cursor pages events walk run size positive bounded found read ih =>
    obtain ⟨middle, grown, position, here, paged⟩ := ih
    cases position with
    | none => cases here
    | some after =>
      cases here
      have later := paging_run quiet run middle
      have grows := run_grows id run
      have whole := grown.trans _ _ _ grows
      obtain ⟨other, otherRead, ids, cursor⟩ :=
        conversationHistory_page later (whole.conversation present) (some ⟨after⟩) after rfl
          positive bounded
      rw [read] at otherRead
      cases otherRead
      refine ⟨later, whole, _, cursor, ?_⟩
      rw [List.map_append, ids]
      exact .next paged grows.ids size positive

/-- In one state, following the cursor from a position reads on from there: at least one
entry for each size, unless it reaches the end. -/
theorem followCursor_reads {host : Host} {s : StoreState} (invariant : PagingInvariant host s)
    {id : ConversationId} (present : (s.store.conversations.find? id).isSome = true)
    (sizes : List Nat) :
    ∀ size, (∀ n ∈ size :: sizes, 0 < n ∧ n ≤ maxPageSize) → ∀ cursor (after : Nat),
      (cursor.map (·.sequence)).getD 0 = (after : Int) → after ≤ (historyIds s id).length →
      ∃ visited last, followCursor host s id cursor size sizes = .ok (visited, last) ∧
        match last with
        | some _ => after + (sizes.length + 1) < (historyIds s id).length
        | none => (historyIds s id).take after ++ visited.map (·.historyItemId)
            = historyIds s id := by
  induction sizes with
  | nil =>
    intro size bounds cursor after position inside
    obtain ⟨positive, bounded⟩ := bounds size (by simp)
    obtain ⟨found, read, ids, next⟩ :=
      conversationHistory_page invariant present cursor after position positive bounded
    have continues := page_continues (historyIds s id) after size inside
    refine ⟨found.entries, found.nextCursor, by rw [followCursor, read]; rfl, ?_⟩
    rw [next, ids]
    cases more : (page (historyIds s id) after size).2 with
    | none =>
      rw [more] at continues
      exact continues
    | some reached =>
      rw [more] at continues
      change after + (0 + 1) < _
      omega
  | cons nextSize sizes ih =>
    intro size bounds cursor after position inside
    obtain ⟨positive, bounded⟩ := bounds size (by simp)
    obtain ⟨found, read, ids, next⟩ :=
      conversationHistory_page invariant present cursor after position positive bounded
    have continues := page_continues (historyIds s id) after size inside
    cases more : (page (historyIds s id) after size).2 with
    | none =>
      rw [more] at continues next
      refine ⟨found.entries, none, ?_, ?_⟩
      · rw [followCursor, read]
        change (match found.nextCursor with | none => _ | some next => _) = _
        rw [next]
        rfl
      · rw [ids]
        exact continues
    | some reached =>
      rw [more] at continues next
      obtain ⟨joined, advanced, before⟩ := continues
      obtain ⟨rest, last, followed, spec⟩ :=
        ih nextSize (fun n member => bounds n (by simp [member])) (some ⟨reached⟩) reached rfl
          (Nat.le_of_lt before)
      refine ⟨found.entries ++ rest, last, ?_, ?_⟩
      · rw [followCursor, read]
        change (match found.nextCursor with | none => _ | some next => _) = _
        rw [next]
        change (followCursor host s id (some ⟨reached⟩) nextSize sizes >>= _) = _
        rw [followed]
        rfl
      · cases last with
        | none =>
          change _ ++ List.map _ (found.entries ++ rest) = _
          rw [List.map_append, ids, ← List.append_assoc, joined]
          exact spec
        | some final =>
          change reached + (sizes.length + 1) < _ at spec
          change after + (sizes.length + 1 + 1) < _
          omega

/-- What a walk from `s` has visited when it stands at `t`: the first items of the history of
`t` in sequence order, each once; all of them when it has ended, and every item of `s` when
it has ended or has read that many pages. While it goes on its cursor counts the visited
items, and the next page can be read after any run. -/
structure WalkVisits (host : Host) (id : ConversationId) (s t : StoreState)
    (visited : List (HistoryEntry host)) (next : Option HistoryCursor) (pages : Nat) : Prop where
  ordered : (historyOf t.store.historyItems id).Pairwise fun a b => a.sequence < b.sequence
  once : (visited.map (·.historyItemId)).Nodup
  visits : visited.map (·.historyItemId) = (historyIds t id).take visited.length
  ended : next = none → visited.map (·.historyItemId) = historyIds t id
  started : next = none ∨ (historyIds s id).length ≤ pages →
    historyIds s id <+: visited.map (·.historyItemId)
  continues : ∀ cursor, next = some cursor → cursor.sequence = visited.length ∧
    pages ≤ visited.length ∧ visited.length < (historyIds t id).length ∧
    ∀ (events : List (TurnEvent host)) (u : StoreState), Run (TurnStep host) t events u →
      ∀ size, 0 < size → size ≤ maxPageSize →
        ∃ found, conversationHistory host u.blobs u.store id (some cursor) size = .ok found

theorem HistoryWalk.visits {host : Host} (quiet : QuietPattern host) {id : ConversationId}
    {s t : StoreState} {visited : List (HistoryEntry host)} {next : Option HistoryCursor}
    {pages : Nat} (invariant : PagingInvariant host s)
    (present : (s.store.conversations.find? id).isSome = true)
    (walk : HistoryWalk host id s t visited next pages) :
    WalkVisits host id s t visited next pages := by
  obtain ⟨later, grown, position, here, paged⟩ := walk.paged quiet invariant present
  obtain ⟨going, done⟩ := paged.visits
  have all : ∀ after, position = some after → visited.length = after := by
    intro after same
    obtain ⟨prior, inside, _⟩ := going after same
    have length := congrArg List.length prior
    rw [List.length_map, List.length_take] at length
    omega
  have taken : visited.map (·.historyItemId) = (historyIds t id).take visited.length := by
    cases same : position with
    | none =>
      have length := congrArg List.length (done same)
      rw [List.length_map] at length
      rw [done same, length, List.take_length]
    | some after =>
      rw [all after same]
      exact (going after same).1
  refine ⟨(later.numbered id).pairwise, ?_, taken, fun ended => ?_, fun enough => ?_,
    fun cursor goes => ?_⟩
  · rw [taken]
    exact (historyIds_nodup t id).sublist (List.take_sublist _ _)
  · rw [ended] at here
    exact done (Option.map_eq_none_iff.mp here.symm)
  · cases same : position with
    | none =>
      rw [done same]
      exact grown.ids
    | some after =>
      obtain ⟨prior, _, counted⟩ := going after same
      have reached : (historyIds s id).length ≤ after := by
        rcases enough with ended | enough
        · rw [here, same] at ended
          cases ended
        · omega
      rw [prior]
      exact List.prefix_take_iff.mpr ⟨grown.ids, reached⟩
  · rw [here, Option.map_eq_some_iff] at goes
    obtain ⟨after, same, rfl⟩ := goes
    obtain ⟨prior, inside, counted⟩ := going after same
    have length := all after same
    refine ⟨by rw [length], by omega, by omega, fun events u run size positive bounded => ?_⟩
    obtain ⟨found, read, _⟩ := conversationHistory_page (paging_run quiet run later)
      ((run_grows id run).conversation (grown.conversation present)) (some ⟨after⟩) after rfl
      positive bounded
    exact ⟨found, read⟩

/-- Over every run from an empty history, for every conversation of the state `s` it reaches:
following the cursor in `s` with any page sizes within 1..=100 never fails, and visits every
item exactly once in sequence order and ends once it has read as many pages as there are
items; and a walk whose pages are read between further runs visits what `WalkVisits` says. -/
theorem historyPaging_lossless (host : Host) (quiet : QuietPattern host) (start s : StoreState)
    (events : List (TurnEvent host)) (noItems : start.store.historyItems.rows = [])
    (run : Run (TurnStep host) start events s) (id : ConversationId)
    (present : (s.store.conversations.find? id).isSome = true) :
    (∀ size sizes, (∀ n ∈ size :: sizes, 0 < n ∧ n ≤ maxPageSize) →
      ∃ visited last, followCursor host s id none size sizes = .ok (visited, last) ∧
        (last = none → visited.map (·.historyItemId) = historyIds s id) ∧
        ((historyIds s id).length ≤ sizes.length + 1 → last = none)) ∧
    (historyOf s.store.historyItems id).Pairwise (fun a b => a.sequence < b.sequence) ∧
    (historyIds s id).Nodup ∧
    ∀ t visited next pages, HistoryWalk host id s t visited next pages →
      WalkVisits host id s t visited next pages := by
  have invariant := paging_run quiet run (pagingInvariant_empty noItems)
  refine ⟨fun size sizes bounds => ?_, (invariant.numbered id).pairwise, historyIds_nodup s id,
    fun t visited next pages walk => walk.visits quiet invariant present⟩
  obtain ⟨visited, last, followed, spec⟩ :=
    followCursor_reads invariant present sizes size bounds none 0 rfl (Nat.zero_le _)
  refine ⟨visited, last, followed, fun ended => ?_, fun enough => ?_⟩
  · subst ended
    exact spec
  · cases last with
    | none => rfl
    | some next =>
      change 0 + (sizes.length + 1) < _ at spec
      omega

theorem sampleHost_quiet : QuietPattern sampleHost :=
  ⟨fun _ _ => rfl, fun _ _ => rfl⟩

/-- A page of one entry reads the one recorded message and ends. -/
theorem recorded_message_is_visited :
    ∃ visited last, followCursor sampleHost recordedState sampleConversation none 1 [] =
      .ok (visited, last) ∧ last = none ∧ visited.map (·.historyItemId) = [sampleItem] := by
  obtain ⟨visited, last, followed, ended, enough⟩ :=
    (historyPaging_lossless sampleHost sampleHost_quiet emptyState recordedState _ rfl
      (.single sampleRecord_step) sampleConversation rfl).1 1 [] (by decide)
  have last_none : last = none := enough (by decide)
  exact ⟨visited, last, followed, last_none, ended last_none⟩

end Decodex.Guarantees.HistoryPaging
