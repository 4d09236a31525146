import Decodex.Library.Run
import Decodex.Library.Segments
import Decodex.Source.Core.AgentWork
import Decodex.Source.Core.Blob
import Decodex.Source.Core.Identity
import Decodex.Source.Store.Error

/-!
# Prompt uploads

Source: database/src/agent_prompt_upload.rs:8-156, database/src/agent_prompt_edit.rs:66-72,207-222
(what the upload reads of an edit receipt) and database/schema.sql:339-349. The receipt query
itself reads the inbox; here it is a part of the store that other writers change in any way, as
they do with the work items. Completion is modelled up to the assembled value: what
`retain_agent_prompt_input` then does with it is left out.
-/
namespace Decodex.Source.Store

open Decodex.Library Decodex.Source.Core

/-- `serde_json` on arrays of values, and SHA-256. -/
structure PromptHost where
  Value : Type
  digest : List UInt8 → BlobHash
  fromStr : String → Option (List Value)
  encode : List Value → Option String

/-- `MAX_NATIVE_MESSAGE_BYTES`. -/
def maxNativeMessageBytes : Int := 8 * 1024 * 1024

structure AgentPromptUpload where
  uploadId : String
  work : String
  thread : String
  editReceiptId : Int
  sha256 : String
  totalBytes : Int
  deriving DecidableEq, Repr

/-- The fields of an `AgentPromptEditReceipt` that an upload reads. -/
structure AgentPromptEditReceipt where
  attemptWork : String
  attemptThread : String
  state : String
  deriving DecidableEq, Repr

structure PromptChunk where
  uploadId : String
  byteOffset : Nat
  workItemId : String
  threadId : String
  editReceiptId : Int
  sha256 : String
  totalBytes : Int
  fragment : String
  deriving DecidableEq, Repr

/-- `agent_prompt_input_chunks`, with its checks. -/
def agentPromptInputChunks : Schema PromptChunk (String × Nat) where
  key row := (row.uploadId, row.byteOffset)
  check row :=
    1 ≤ row.uploadId.length && row.uploadId.length ≤ 128 && row.sha256.length = 64 &&
      1 ≤ row.totalBytes && row.totalBytes ≤ 8388608 && 1 ≤ row.fragment.utf8ByteSize &&
      row.fragment.utf8ByteSize ≤ 65536

structure PromptStore where
  agentWorkItems : Table workItemTable
  promptEditReceipt : Int → Except StoreError (Option AgentPromptEditReceipt)
  agentPromptInputChunks : Table agentPromptInputChunks

/-- `AgentPromptUpload::validate`. -/
def AgentPromptUpload.validate (upload : AgentPromptUpload) : Except StoreError Unit :=
  if upload.uploadId.isEmpty ∨ 128 < upload.uploadId.utf8ByteSize ∨
      upload.uploadId.toList.any isControl = true ∨ upload.totalBytes ≤ 0 ∨
      maxNativeMessageBytes < upload.totalBytes ∨ BlobHash.parse upload.sha256 = none then
    .error (.invalidInput "invalid prompt upload")
  else .ok ()

def chunksOf (store : PromptStore) (uploadId : String) : List PromptChunk :=
  store.agentPromptInputChunks.rows.filter fun row => row.uploadId = uploadId

/-- The columns that every chunk of one upload shares. -/
def PromptChunk.source (chunk : PromptChunk) : String × String × Int × String × Int :=
  (chunk.workItemId, chunk.threadId, chunk.editReceiptId, chunk.sha256, chunk.totalBytes)

def AgentPromptUpload.source (upload : AgentPromptUpload) : String × String × Int × String × Int :=
  (upload.work, upload.thread, upload.editReceiptId, upload.sha256, upload.totalBytes)

/-- `received`. -/
def received (store : PromptStore) (upload : AgentPromptUpload) : Except StoreError Nat :=
  if (chunksOf store upload.uploadId).any fun row => row.source ≠ upload.source then
    .error (.invalidInput "prompt upload source changed")
  else .ok ((chunksOf store upload.uploadId).map fun row => row.fragment.utf8ByteSize).sum

/-- `ORDER BY byte_offset`. -/
def orderedChunks (store : PromptStore) (uploadId : String) : List PromptChunk :=
  (chunksOf store uploadId).insertionSort fun left right => left.byteOffset ≤ right.byteOffset

/-- One round of the loop of `assemble`. -/
def assembleRow (totalBytes : Int) (content : String) (row : PromptChunk) :
    Except StoreError String :=
  if row.byteOffset ≠ content.utf8ByteSize ∨
      totalBytes < (content.utf8ByteSize + row.fragment.utf8ByteSize : Nat) then
    .error (.invalidInput "prompt upload has a gap")
  else .ok (content ++ row.fragment)

/-- What `assemble` does with the joined content. -/
def decodeUpload (host : PromptHost) (upload : AgentPromptUpload) (content : String) :
    Except StoreError (List host.Value) :=
  if (content.utf8ByteSize : Int) ≠ upload.totalBytes ∨
      (host.digest (utf8 content)).toHex ≠ upload.sha256 then
    .error (.invalidInput "prompt upload is incomplete or its digest changed")
  else
    match host.fromStr content with
    | none => .error (.invalidInput "prompt upload is not an input array")
    | some values =>
      if values.isEmpty ∨ host.encode values ≠ some content then
        .error (.invalidInput "prompt upload encoding is not canonical")
      else .ok values

def assemble (host : PromptHost) (store : PromptStore) (upload : AgentPromptUpload) :
    Except StoreError (List host.Value) := do
  let content ← (orderedChunks store upload.uploadId).foldlM (assembleRow upload.totalBytes) ""
  decodeUpload host upload content

/-- The bounds of one call. -/
def validateFragment (upload : AgentPromptUpload) (offset : Int) (fragment : String) :
    Except StoreError Unit :=
  if offset < 0 ∨ fragment.isEmpty ∨ 65536 < fragment.utf8ByteSize ∨
      upload.totalBytes < offset + fragment.utf8ByteSize then
    .error (.invalidInput "invalid prompt chunk bounds")
  else .ok ()

/-- The upload belongs to an edit that was applied in its thread. -/
def validateSource (store : PromptStore) (upload : AgentPromptUpload) : Except StoreError Unit := do
  match ← store.promptEditReceipt upload.editReceiptId with
  | none => .error (.invalidInput "prompt edit receipt is missing")
  | some receipt =>
    if (store.agentWorkItems.rows.all fun work =>
          ¬(work.id = upload.work ∧ work.codexThreadId = some upload.thread)) ∨
        receipt.attemptWork ≠ upload.work ∨ receipt.attemptThread ≠ upload.thread ∨
        (receipt.state ≠ "applied" ∧ receipt.state ≠ "draft_restored") then
      .error (.invalidInput "prompt upload does not belong to an applied edit")
    else .ok ()

def chunkRow (upload : AgentPromptUpload) (offset : Nat) (fragment : String) : PromptChunk where
  uploadId := upload.uploadId
  byteOffset := offset
  workItemId := upload.work
  threadId := upload.thread
  editReceiptId := upload.editReceiptId
  sha256 := upload.sha256
  totalBytes := upload.totalBytes
  fragment

/-- The chunk that the retry query reads. -/
def savedFragment (store : PromptStore) (uploadId : String) (offset : Nat) : Option String :=
  (store.agentPromptInputChunks.find? (uploadId, offset)).map (·.fragment)

/-- `append_agent_prompt_chunk`: the acknowledged bytes, and the store it commits. -/
def appendAgentPromptChunk (host : PromptHost) (store : PromptStore) (upload : AgentPromptUpload)
    (offset : Int) (fragment : String) : Except StoreError (Nat × PromptStore) := do
  upload.validate
  validateFragment upload offset fragment
  validateSource store upload
  let count ← received store upload
  if offset < count then
    if savedFragment store upload.uploadId offset.toNat = some fragment then .ok (count, store)
    else .error (.invalidInput "prompt chunk conflicts with saved bytes")
  else if offset ≠ count then .error (.invalidInput "prompt chunk is not contiguous")
  else do
    let chunks ← execute
      (store.agentPromptInputChunks.insert (chunkRow upload offset.toNat fragment))
    let after := { store with agentPromptInputChunks := chunks }
    if (count + fragment.utf8ByteSize : Nat) = upload.totalBytes then do
      let _ ← assemble host after upload
      .ok (count + fragment.utf8ByteSize, after)
    else .ok (count + fragment.utf8ByteSize, after)

/-- The first transaction of `complete_agent_prompt_upload`. -/
def completeAgentPromptUpload (host : PromptHost) (store : PromptStore)
    (upload : AgentPromptUpload) : Except StoreError (List host.Value) := do
  upload.validate
  let _ ← received store upload
  assemble host store upload

inductive PromptEvent where
  | append (upload : AgentPromptUpload) (offset : Int) (fragment : String)
  | others (works : Table workItemTable)
      (receipts : Int → Except StoreError (Option AgentPromptEditReceipt))

/-- Other writers change works and receipts; a work that goes takes its chunks with it. -/
def changeSources (store : PromptStore) (works : Table workItemTable)
    (receipts : Int → Except StoreError (Option AgentPromptEditReceipt)) : PromptStore where
  agentWorkItems := works
  promptEditReceipt := receipts
  agentPromptInputChunks := store.agentPromptInputChunks.deleteWhere fun row =>
    works.rows.all fun work => work.id ≠ row.workItemId

/-- A call that fails leaves the store as it was. -/
def promptStep (host : PromptHost) (store : PromptStore) (event : PromptEvent)
    (after : PromptStore) : Prop :=
  match event with
  | .append upload offset fragment =>
    match appendAgentPromptChunk host store upload offset fragment with
    | .ok (_, done) => after = done
    | .error _ => after = store
  | .others works receipts => after = changeSources store works receipts

def PromptStore.empty : PromptStore := ⟨.empty, fun _ => .ok none, .empty⟩

end Decodex.Source.Store
