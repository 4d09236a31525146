import Decodex.Source.Core.Blob
import Decodex.Source.Store.ConversationStatements

/-!
# History entries and pages

Source: database/src/conversations.rs:377-438 (`RecordHistoryItem`, `HistoryCursor`,
`HistoryEntry`, `HistoryPage`), 1788-1856 (`conversation_history`), 2468-2503 (item
validation, payloads), 2623-2700 (row readers, blob checks), 3153-3176 (keys, credential
texts). Rows are held parsed except for the media type and the metadata, which a reader
validates again. Artifacts are refused by validation, so no entry carries one.
-/
namespace Decodex.Source.Store

open Decodex.Library
open Decodex.Source.Core
open Decodex.Source.Core.ContextPacks (PossibleSideEffects)

def maxPageSize : Nat := 100

structure RecordHistoryItem (host : Host) where
  conversationId : ConversationId
  runtimeSessionId : RuntimeSessionId
  turnId : TurnId
  turnSequence : Int
  turnRole : TurnRole
  possibleSideEffects : PossibleSideEffects
  historyItemId : HistoryItemId
  ordinal : Int
  kind : HistoryItemKind
  status : ItemStatus
  text : String
  mediaType : HistoryMediaType
  metadata : HistoryMetadata host.containsCredentialMaterial
  expectedRevision : Option Int
  artifact : Option (String × Int)

/-- Position in the history of one conversation. -/
structure HistoryCursor where
  sequence : Int
  deriving DecidableEq

structure HistoryEntry (host : Host) where
  historyItemId : HistoryItemId
  turnId : TurnId
  runtimeSessionId : String
  turnRole : TurnRole
  possibleSideEffects : PossibleSideEffects
  kind : HistoryItemKind
  status : ItemStatus
  inlineText : Option String
  blobHash : Option BlobHash
  blobByteLength : Option Nat
  mediaType : HistoryMediaType
  metadata : HistoryMetadata host.containsCredentialMaterial
  revision : Int

structure HistoryPage (host : Host) where
  entries : List (HistoryEntry host)
  nextCursor : Option HistoryCursor

/-- `validate_key`. -/
def validateKey (host : Host) (value : String) : Except StoreError Unit :=
  if value.isEmpty || 256 < value.utf8ByteSize || host.containsCredentialMaterial value then
    .error (.invalidInput "idempotency key is invalid")
  else .ok ()

def credentialNegative (host : Host) (value : String) : Except StoreError Unit :=
  if host.containsCredentialMaterial value then .error .credentialRejected else .ok ()

/-- `validate_history_item`; metadata that was built serializes. -/
def validateHistoryItem {host : Host} (mutation : RecordHistoryItem host) :
    Except StoreError Unit :=
  if mutation.turnSequence ≤ 0 ∨ mutation.ordinal < 0 ∨
      maxBlobBytes < mutation.text.utf8ByteSize ∨
      (mutation.expectedRevision.any fun revision => revision ≤ 0) = true ∨
      (mutation.turnRole ≠ .user ∧ mutation.turnRole ≠ .assistant) ∨
      mutation.artifact.isSome = true then
    .error (.invalidInput "history item is invalid for the local Conversation slice")
  else credentialNegative host mutation.text

structure Payload where
  inlineText : Option String
  blobHash : Option BlobHash
  deriving DecidableEq

/-- `impl From<StorageError> for StoreError`. -/
def blobResult {α : Type} : Except StorageError α → Except StoreError α
  | .ok value => .ok value
  | .error _ => .error .blob

/-- `publish_payload`: a long text goes to the blob store, before any transaction. -/
def publishPayload (host : Host) (blobs : BlobStore) (text : String) :
    Except StoreError (Payload × BlobStore) :=
  if text.utf8ByteSize ≤ maxInlineHistoryBytes then .ok (⟨some text, none⟩, blobs)
  else do
    let (hash, blobs) ← blobResult (blobs.put host.blobDigest (utf8 text))
    .ok (⟨none, some hash⟩, blobs)

/-- A published blob can be read, and so can every blob that could be read before. -/
theorem publishPayload_holds {host : Host} {blobs after : BlobStore} {text : String}
    {payload : Payload} (published : publishPayload host blobs text = .ok (payload, after)) :
    (∀ hash, payload.blobHash = some hash → after.Holds host.blobDigest hash) ∧
      ∀ hash, blobs.Holds host.blobDigest hash → after.Holds host.blobDigest hash := by
  unfold publishPayload at published
  split at published
  · cases published
    exact ⟨nofun, fun _ held => held⟩
  · obtain ⟨⟨hash, stored⟩, put, published⟩ := bind_ok published
    cases published
    have put : blobs.put host.blobDigest (utf8 text) = .ok (hash, after) := by
      unfold blobResult at put
      split at put
      · rename_i value success
        cases put
        exact success
      · cases put
    refine ⟨fun found same => ?_, fun other held => BlobStore.put_keeps put held⟩
    cases same
    exact BlobStore.put_holds put

/-- `read_history_row`, of an item and its turn. -/
def readHistoryRow (host : Host) (row : HistoryItemRow × TurnRow) :
    Except StoreError (HistoryEntry host) :=
  if mediaType : isCanonicalMediaType row.1.mediaType = true then
    if metadata : validateMetadata host.containsCredentialMaterial row.1.metadata = .ok () then
      .ok
        { historyItemId := row.1.historyItemId
          turnId := row.1.turnId
          runtimeSessionId := (row.2.runtimeSessionId.map (·.text)).getD ""
          turnRole := row.2.role
          possibleSideEffects := row.2.possibleSideEffects
          kind := row.1.kind
          status := row.1.status
          inlineText := row.1.inlineText
          blobHash := row.1.blobHash
          blobByteLength := none
          mediaType := ⟨row.1.mediaType, mediaType⟩
          metadata := ⟨row.1.metadata, metadata⟩
          revision := row.1.revision }
    else .error sqliteError
  else .error sqliteError

/-- `history_items AS h JOIN turns AS t USING (turn_id)`. -/
def joinTurn (store : SqliteStore) (item : HistoryItemRow) : Option (HistoryItemRow × TurnRow) :=
  (store.turns.find? item.turnId).map fun turn => (item, turn)

/-- `read_history_entry`. -/
def readHistoryEntry (host : Host) (store : SqliteStore) (id : HistoryItemId) :
    Except StoreError (Option (HistoryEntry host)) :=
  match (store.historyItems.find? id).bind (joinTurn store) with
  | none => .ok none
  | some row => do
    let entry ← readHistoryRow host row
    .ok (some entry)

/-- `hydrate_history_blob`. -/
def hydrateHistoryBlob {host : Host} (blobs : BlobStore) (entry : HistoryEntry host) :
    Except StoreError (HistoryEntry host) :=
  match entry.blobHash with
  | none => .ok entry
  | some hash => do
    let bytes ← blobResult (blobs.read host.blobDigest hash)
    .ok { entry with blobByteLength := some bytes.length }

/-- The rows of the page query, before its limit: the items after a sequence in sequence
order, each with its turn. -/
def historyAfter (store : SqliteStore) (conversationId : ConversationId) (afterSequence : Int) :
    List (HistoryItemRow × TurnRow) :=
  (((historyOf store.historyItems conversationId).filter fun item => afterSequence < item.sequence).filterMap
    (joinTurn store)).mergeSort fun a b => a.1.sequence ≤ b.1.sequence

/-- `conversation_history`. The cursor is the sequence the page starts after plus the number
of its entries. -/
def conversationHistory (host : Host) (blobs : BlobStore) (store : SqliteStore)
    (conversationId : ConversationId) (after : Option HistoryCursor) (pageSize : Nat) :
    Except StoreError (HistoryPage host) :=
  if pageSize = 0 ∨ maxPageSize < pageSize then
    .error (.invalidInput "history page size must be within 1..=100")
  else
    let afterSequence := (after.map (·.sequence)).getD 0
    match store.conversations.find? conversationId with
    | none => .error (.invalidInput "Conversation does not exist")
    | some _ => do
      let selected := (historyAfter store conversationId afterSequence).take (pageSize + 1)
      let rows ← selected.mapM (readHistoryRow host)
      let hasMore := pageSize < rows.length
      let entries ← (rows.take pageSize).mapM (hydrateHistoryBlob blobs)
      .ok
        { entries
          nextCursor := if hasMore then some ⟨afterSequence + entries.length⟩ else none }

end Decodex.Source.Store
