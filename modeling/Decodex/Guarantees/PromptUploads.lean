import Decodex.Source.Store.PromptUploads

/-!
# Prompt uploads reassemble exactly

In every reachable state the saved chunks of an upload are a contiguous prefix of one value,
all from one source, and a complete prefix is the canonical value with the declared digest.
A call is acknowledged only for bytes that are saved at its offset. A call that repeats saved
bytes is accepted exactly when a saved chunk starts at its offset and holds its fragment: the
same bytes cut in another way are refused.
-/
namespace Decodex.Guarantees.PromptUploads

open Decodex.Library Decodex.Source.Core Decodex.Source.Store

variable {host : PromptHost} {store after : PromptStore} {upload : AgentPromptUpload}
  {offset : Int} {fragment : String} {uploadId : String} {count : Nat}

def chunkBytes (chunk : PromptChunk) : List UInt8 := utf8 chunk.fragment

/-- The saved prefix of an upload. -/
def savedBytes (store : PromptStore) (uploadId : String) : List UInt8 :=
  joined chunkBytes (chunksOf store uploadId)

def savedText (store : PromptStore) (uploadId : String) : String :=
  (chunksOf store uploadId).foldl (fun content row => content ++ row.fragment) ""

/-- The canonical JSON of a non-empty array with this digest. -/
structure Canonical (host : PromptHost) (sha256 content : String) : Prop where
  digest : (host.digest (utf8 content)).toHex = sha256
  array : ∃ values, host.fromStr content = some values ∧ values ≠ [] ∧
    host.encode values = some content

/-- What the chunks of every reachable state satisfy. -/
structure Saved (host : PromptHost) (store : PromptStore) : Prop where
  contiguous : ∀ uploadId,
    Contiguous PromptChunk.byteOffset chunkBytes 0 (chunksOf store uploadId)
  source : ∀ left ∈ store.agentPromptInputChunks.rows, ∀ right ∈ store.agentPromptInputChunks.rows,
    left.uploadId = right.uploadId → left.source = right.source
  within : ∀ chunk ∈ store.agentPromptInputChunks.rows,
    ((savedBytes store chunk.uploadId).length : Int) ≤ chunk.totalBytes
  whole : ∀ chunk ∈ store.agentPromptInputChunks.rows,
    ((savedBytes store chunk.uploadId).length : Int) = chunk.totalBytes →
    Canonical host chunk.sha256 (savedText store chunk.uploadId)

theorem mem_chunksOf {chunk : PromptChunk} : chunk ∈ chunksOf store uploadId ↔
    chunk ∈ store.agentPromptInputChunks.rows ∧ chunk.uploadId = uploadId := by
  unfold chunksOf
  rw [List.mem_filter, decide_eq_true_iff]

theorem chunkBytes_ne_nil {chunk : PromptChunk}
    (member : chunk ∈ store.agentPromptInputChunks.rows) : chunkBytes chunk ≠ [] := by
  have checked := store.agentPromptInputChunks.checked chunk member
  simp only [agentPromptInputChunks, Bool.and_eq_true, decide_eq_true_eq] at checked
  intro empty
  have length := congrArg List.length empty
  rw [chunkBytes, utf8_length, List.length_nil] at length
  omega

theorem foldl_append_bytes (rows : List PromptChunk) (content : String) :
    utf8 (rows.foldl (fun content row => content ++ row.fragment) content) =
      utf8 content ++ joined chunkBytes rows := by
  induction rows generalizing content with
  | nil => simp [joined]
  | cons row rows ih =>
    rw [List.foldl_cons, ih, utf8_append, List.append_assoc]
    rfl

theorem savedText_bytes (store : PromptStore) (uploadId : String) :
    utf8 (savedText store uploadId) = savedBytes store uploadId := by
  have bytes := foldl_append_bytes (chunksOf store uploadId) ""
  exact bytes.trans (List.nil_append _)

theorem savedText_size (store : PromptStore) (uploadId : String) :
    (savedText store uploadId).utf8ByteSize = (savedBytes store uploadId).length := by
  rw [← savedText_bytes, utf8_length]

/-- The sum of the lengths is the length of the saved prefix. -/
theorem received_ok (counted : received store upload = .ok count) :
    count = (savedBytes store upload.uploadId).length ∧
      ∀ chunk ∈ chunksOf store upload.uploadId, chunk.source = upload.source := by
  unfold received at counted
  split at counted
  · cases counted
  · rename_i same
    cases counted
    refine ⟨?_, fun chunk member => ?_⟩
    · unfold savedBytes
      rw [joined_length]
      simp only [chunkBytes, utf8_length]
    · by_contra differs
      exact same (List.any_eq_true.mpr ⟨chunk, member, by simpa using differs⟩)

theorem received_same (same : ∀ chunk ∈ chunksOf store upload.uploadId,
    chunk.source = upload.source) :
    received store upload = .ok (savedBytes store upload.uploadId).length := by
  cases counted : received store upload with
  | ok count => rw [(received_ok counted).1]
  | error error =>
    unfold received at counted
    split at counted
    · rename_i differs
      obtain ⟨chunk, member, unequal⟩ := List.any_eq_true.mp differs
      rw [decide_eq_true_iff] at unequal
      exact absurd (same chunk member) unequal
    · cases counted

/-- Over contiguous rows that fit, the loop of `assemble` joins them. -/
theorem assembleRows_ok {total : Int} (rows : List PromptChunk) (content : String)
    (contiguous : Contiguous PromptChunk.byteOffset chunkBytes content.utf8ByteSize rows)
    (fits : ((content.utf8ByteSize + (joined chunkBytes rows).length : Nat) : Int) ≤ total) :
    rows.foldlM (assembleRow total) content =
      .ok (rows.foldl (fun content row => content ++ row.fragment) content) := by
  induction rows generalizing content with
  | nil => rfl
  | cons row rows ih =>
    obtain ⟨begins, follows⟩ := contiguous
    have size : (chunkBytes row).length = row.fragment.utf8ByteSize := utf8_length _
    have split : (joined chunkBytes (row :: rows)).length =
        row.fragment.utf8ByteSize + (joined chunkBytes rows).length := by
      rw [← size, ← List.length_append]
      rfl
    have step : assembleRow total content row = .ok (content ++ row.fragment) := by
      unfold assembleRow
      apply if_neg
      rw [not_or, not_not]
      refine ⟨begins, ?_⟩
      omega
    rw [List.foldlM_cons, step, ok_bind, List.foldl_cons]
    apply ih
    · rw [String.utf8ByteSize_append, ← size]
      exact follows
    · rw [String.utf8ByteSize_append]
      omega

/-- In a store whose chunks are a prefix, `assemble` decodes the saved text. -/
theorem assemble_eq
    (contiguous : Contiguous PromptChunk.byteOffset chunkBytes 0 (chunksOf store upload.uploadId))
    (fits : ((savedBytes store upload.uploadId).length : Int) ≤ upload.totalBytes) :
    assemble host store upload = decodeUpload host upload (savedText store upload.uploadId) := by
  have ordered : orderedChunks store upload.uploadId = chunksOf store upload.uploadId :=
    contiguous.sorted fun chunk member => chunkBytes_ne_nil (mem_chunksOf.mp member).1
  unfold assemble
  rw [ordered, assembleRows_ok _ "" contiguous ?_, ok_bind]
  · rfl
  · simpa [savedBytes] using fits

theorem decodeUpload_ok {content : String} {values : List host.Value} :
    decodeUpload host upload content = .ok values ↔
      (content.utf8ByteSize : Int) = upload.totalBytes ∧
      (host.digest (utf8 content)).toHex = upload.sha256 ∧ host.fromStr content = some values ∧
      values ≠ [] ∧ host.encode values = some content := by
  unfold decodeUpload
  split
  · rename_i refused
    refine ⟨nofun, fun accepted => ?_⟩
    rcases refused with size | digest
    · exact absurd accepted.1 size
    · exact absurd accepted.2.1 digest
  · rename_i accepted
    simp only [not_or, not_not] at accepted
    cases parsed : host.fromStr content with
    | none => simp
    | some read =>
      dsimp only
      split
      · rename_i refused
        refine ⟨nofun, ?_⟩
        rintro ⟨_, _, same, filled, encoded⟩
        cases same
        rcases refused with empty | differs
        · exact absurd (List.isEmpty_iff.mp empty) filled
        · exact absurd encoded differs
      · rename_i canonical
        simp only [not_or, not_not, List.isEmpty_iff] at canonical
        simp only [Except.ok.injEq, Option.some.injEq]
        constructor
        · rintro rfl
          exact ⟨accepted.1, accepted.2, rfl, canonical⟩
        · rintro ⟨_, _, same, _⟩
          exact same

theorem Canonical.iff_decoded {content : String}
    (size : (content.utf8ByteSize : Int) = upload.totalBytes) :
    Canonical host upload.sha256 content ↔
      ∃ values, decodeUpload host upload content = .ok values := by
  constructor
  · rintro ⟨digest, values, parsed, filled, encoded⟩
    exact ⟨values, decodeUpload_ok.mpr ⟨size, digest, parsed, filled, encoded⟩⟩
  · rintro ⟨values, decoded⟩
    obtain ⟨_, digest, parsed, filled, encoded⟩ := decodeUpload_ok.mp decoded
    exact ⟨digest, values, parsed, filled, encoded⟩

/-- What a call checks before it looks at the saved bytes. -/
structure Admitted (store : PromptStore) (upload : AgentPromptUpload) (offset : Int)
    (fragment : String) : Prop where
  valid : upload.validate = .ok ()
  bounds : validateFragment upload offset fragment = .ok ()
  applied : validateSource store upload = .ok ()
  same : ∀ chunk ∈ chunksOf store upload.uploadId, chunk.source = upload.source

/-- The saved chunks after one more. -/
structure Extended (host : PromptHost) (store : PromptStore) (upload : AgentPromptUpload)
    (fragment : String) (after : PromptStore) : Prop where
  works : after.agentWorkItems = store.agentWorkItems
  rows : after.agentPromptInputChunks.rows = store.agentPromptInputChunks.rows ++
    [chunkRow upload (savedBytes store upload.uploadId).length fragment]
  assembled : ((savedBytes store upload.uploadId).length + fragment.utf8ByteSize : Nat) =
    upload.totalBytes → ∃ values, assemble host after upload = .ok values

/-- Everything a successful call can do: repeat a saved chunk, or add the next one. -/
theorem append_cases
    (done : appendAgentPromptChunk host store upload offset fragment = .ok (count, after)) :
    Admitted store upload offset fragment ∧
    ((after = store ∧ count = (savedBytes store upload.uploadId).length ∧ offset < count ∧
        savedFragment store upload.uploadId offset.toNat = some fragment) ∨
      (offset = (savedBytes store upload.uploadId).length ∧
        count = (savedBytes store upload.uploadId).length + fragment.utf8ByteSize ∧
        Extended host store upload fragment after)) := by
  unfold appendAgentPromptChunk at done
  obtain ⟨_, valid, done⟩ := bind_ok done
  obtain ⟨_, bounds, done⟩ := bind_ok done
  obtain ⟨_, applied, done⟩ := bind_ok done
  obtain ⟨saved, counted, done⟩ := bind_ok done
  obtain ⟨size, same⟩ := received_ok counted
  refine ⟨⟨valid, bounds, applied, same⟩, ?_⟩
  split at done
  · rename_i below
    split at done
    · rename_i matching
      cases done
      exact .inl ⟨rfl, size, below, matching⟩
    · cases done
  · split at done
    · cases done
    · rename_i next
      rw [not_not] at next
      obtain ⟨chunks, inserted, done⟩ := bind_ok done
      rw [execute_eq_ok] at inserted
      have rows := Table.insert_rows inserted
      have position : offset.toNat = (savedBytes store upload.uploadId).length := by omega
      rw [position] at rows
      right
      split at done
      · obtain ⟨values, assembled, done⟩ := bind_ok done
        cases done
        exact ⟨by rw [next, size], by rw [size], rfl, rows, fun _ => ⟨values, assembled⟩⟩
      · rename_i partial'
        cases done
        refine ⟨by rw [next, size], by rw [size], rfl, rows, fun complete => ?_⟩
        rw [← size] at complete
        exact absurd complete partial'

theorem Extended.chunks (extended : Extended host store upload fragment after) (uploadId : String) :
    chunksOf after uploadId = chunksOf store uploadId ++
      if upload.uploadId = uploadId then
        [chunkRow upload (savedBytes store upload.uploadId).length fragment] else [] := by
  unfold chunksOf
  rw [extended.rows, List.filter_append]
  congr 1
  by_cases same : upload.uploadId = uploadId
  · simp [chunkRow, same]
  · simp [chunkRow, same]

theorem Extended.saved (extended : Extended host store upload fragment after) :
    savedBytes after upload.uploadId = savedBytes store upload.uploadId ++ utf8 fragment := by
  unfold savedBytes
  rw [extended.chunks, if_pos rfl, joined_append, joined_single]
  rfl

theorem Extended.saved_other (extended : Extended host store upload fragment after)
    (other : upload.uploadId ≠ uploadId) :
    chunksOf after uploadId = chunksOf store uploadId := by
  rw [extended.chunks, if_neg other, List.append_nil]

theorem validateFragment_ok (bounds : validateFragment upload offset fragment = .ok ()) :
    0 ≤ offset ∧ fragment.utf8ByteSize ≤ 65536 ∧ offset + fragment.utf8ByteSize ≤ upload.totalBytes := by
  unfold validateFragment at bounds
  split at bounds
  · cases bounds
  · rename_i fits
    omega

/-- Every chunk of the upload after an addition comes from its source. -/
theorem Extended.source (extended : Extended host store upload fragment after)
    (admitted : Admitted store upload offset fragment) {chunk : PromptChunk}
    (member : chunk ∈ after.agentPromptInputChunks.rows) :
    (chunk.uploadId = upload.uploadId ∧ chunk.source = upload.source) ∨
      (chunk.uploadId ≠ upload.uploadId ∧ chunk ∈ store.agentPromptInputChunks.rows) := by
  rw [extended.rows, List.mem_append, List.mem_singleton] at member
  rcases member with earlier | rfl
  · by_cases own : chunk.uploadId = upload.uploadId
    · exact .inl ⟨own, admitted.same chunk (mem_chunksOf.mpr ⟨earlier, own⟩)⟩
    · exact .inr ⟨own, earlier⟩
  · exact .inl ⟨rfl, rfl⟩

theorem source_total {chunk : PromptChunk} (same : chunk.source = upload.source) :
    chunk.sha256 = upload.sha256 ∧ chunk.totalBytes = upload.totalBytes := by
  simp only [PromptChunk.source, AgentPromptUpload.source, Prod.mk.injEq] at same
  exact same.2.2.2

/-- The next chunk of an upload keeps every upload a prefix of one value. -/
theorem Saved.extend (saved : Saved host store) (admitted : Admitted store upload offset fragment)
    (next : offset = (savedBytes store upload.uploadId).length)
    (extended : Extended host store upload fragment after) : Saved host after := by
  obtain ⟨_, _, fits⟩ := validateFragment_ok admitted.bounds
  have grown : ((savedBytes after upload.uploadId).length : Int) ≤ upload.totalBytes := by
    rw [extended.saved, List.length_append, utf8_length]
    omega
  have contiguous : ∀ uploadId,
      Contiguous PromptChunk.byteOffset chunkBytes 0 (chunksOf after uploadId) := by
    intro uploadId
    by_cases own : upload.uploadId = uploadId
    · subst own
      rw [extended.chunks, if_pos rfl, contiguous_append]
      exact ⟨saved.contiguous _, (Nat.zero_add _).symm⟩
    · rw [extended.saved_other own]
      exact saved.contiguous uploadId
  refine ⟨contiguous, ?_, ?_, ?_⟩
  · intro left leftMember right rightMember same
    rcases extended.source admitted leftMember with ⟨leftOwn, leftSource⟩ | ⟨leftOther, left_mem⟩
    · rcases extended.source admitted rightMember with ⟨_, rightSource⟩ | ⟨rightOther, _⟩
      · rw [leftSource, rightSource]
      · exact absurd (same ▸ leftOwn) rightOther
    · rcases extended.source admitted rightMember with ⟨rightOwn, _⟩ | ⟨_, right_mem⟩
      · exact absurd (same.trans rightOwn) leftOther
      · exact saved.source left left_mem right right_mem same
  · intro chunk member
    rcases extended.source admitted member with ⟨own, same⟩ | ⟨other, earlier⟩
    · rw [own, (source_total same).2]
      exact grown
    · unfold savedBytes
      rw [extended.saved_other (Ne.symm other)]
      exact saved.within chunk earlier
  · intro chunk member complete
    rcases extended.source admitted member with ⟨own, same⟩ | ⟨other, earlier⟩
    · obtain ⟨digest, total⟩ := source_total same
      rw [own, total] at complete
      rw [own, digest]
      have size : ((savedText after upload.uploadId).utf8ByteSize : Int) = upload.totalBytes := by
        rw [savedText_size]
        exact complete
      refine (Canonical.iff_decoded size).mpr ?_
      rw [← assemble_eq (contiguous _) grown]
      apply extended.assembled
      rw [extended.saved, List.length_append, utf8_length] at complete
      exact complete
    · unfold savedText
      unfold savedBytes at complete
      rw [extended.saved_other (Ne.symm other)] at complete ⊢
      exact saved.whole chunk earlier complete

/-- A call that succeeds keeps every upload a prefix of one value. -/
theorem Saved.append (saved : Saved host store)
    (done : appendAgentPromptChunk host store upload offset fragment = .ok (count, after)) :
    Saved host after := by
  obtain ⟨admitted, ⟨rfl, _⟩ | ⟨next, _, extended⟩⟩ := append_cases done
  · exact saved
  · exact saved.extend admitted next extended

/-- When works go, an upload loses all of its chunks or none. -/
theorem chunksOf_changeSources (saved : Saved host store) (works : Table workItemTable)
    (receipts : Int → Except StoreError (Option AgentPromptEditReceipt)) (uploadId : String) :
    chunksOf (changeSources store works receipts) uploadId = chunksOf store uploadId ∨
      chunksOf (changeSources store works receipts) uploadId = [] := by
  have filtered : chunksOf (changeSources store works receipts) uploadId =
      (chunksOf store uploadId).filter fun row =>
        !(works.rows.all fun work => work.id ≠ row.workItemId) := by
    simp only [chunksOf, changeSources, Table.deleteWhere, List.filter_filter]
    apply List.filter_congr
    intro row _
    rw [Bool.and_comm]
  rw [filtered]
  cases listed : chunksOf store uploadId with
  | nil => exact .inl rfl
  | cons first rest =>
    have shared : ∀ row ∈ first :: rest, row.workItemId = first.workItemId := by
      intro row member
      rw [← listed] at member
      obtain ⟨row_mem, own⟩ := mem_chunksOf.mp member
      obtain ⟨first_mem, firstOwn⟩ := mem_chunksOf.mp (listed ▸ List.mem_cons_self : first ∈ _)
      have same := saved.source row row_mem first first_mem (own.trans firstOwn.symm)
      exact congrArg (·.1) same
    by_cases gone : (works.rows.all fun work => work.id ≠ first.workItemId) = true
    · right
      refine List.filter_eq_nil_iff.mpr fun row member => ?_
      rw [shared row member, gone]
      decide
    · left
      refine List.filter_eq_self.mpr fun row member => ?_
      rw [shared row member]
      simpa using gone

theorem Saved.others (saved : Saved host store) (works : Table workItemTable)
    (receipts : Int → Except StoreError (Option AgentPromptEditReceipt)) :
    Saved host (changeSources store works receipts) := by
  have kept : ∀ chunk ∈ (changeSources store works receipts).agentPromptInputChunks.rows,
      chunk ∈ store.agentPromptInputChunks.rows ∧
        chunksOf (changeSources store works receipts) chunk.uploadId =
          chunksOf store chunk.uploadId := by
    intro chunk member
    refine ⟨List.mem_of_mem_filter member,
      (chunksOf_changeSources saved works receipts chunk.uploadId).resolve_right fun empty => ?_⟩
    have present := mem_chunksOf.mpr ⟨member, rfl⟩
    rw [empty] at present
    cases present
  refine ⟨fun uploadId => ?_, ?_, ?_, ?_⟩
  · rcases chunksOf_changeSources saved works receipts uploadId with same | empty
    · rw [same]
      exact saved.contiguous uploadId
    · rw [empty]
      trivial
  · intro left leftMember right rightMember
    exact saved.source left (kept left leftMember).1 right (kept right rightMember).1
  · intro chunk member
    unfold savedBytes
    rw [(kept chunk member).2]
    exact saved.within chunk (kept chunk member).1
  · intro chunk member complete
    unfold savedText
    unfold savedBytes at complete
    rw [(kept chunk member).2] at complete ⊢
    exact saved.whole chunk (kept chunk member).1 complete

theorem Saved.step (saved : Saved host store) {event : PromptEvent}
    (step : promptStep host store event after) : Saved host after := by
  cases event with
  | append upload offset fragment =>
    dsimp only [promptStep] at step
    split at step
    · rename_i count done appended
      subst step
      exact saved.append appended
    · subst step
      exact saved
  | others works receipts =>
    cases step
    exact saved.others works receipts

theorem Saved.start (host : PromptHost) : Saved host .empty where
  contiguous := fun _ => trivial
  source := List.forall_mem_nil _
  within := List.forall_mem_nil _
  whole := List.forall_mem_nil _

/-- The fragment is saved already, byte for byte, at its offset. -/
structure Agrees (store : PromptStore) (upload : AgentPromptUpload) (offset : Int)
    (fragment : String) : Prop where
  nonneg : 0 ≤ offset
  nonempty : utf8 fragment ≠ []
  bytes : ((savedBytes store upload.uploadId).drop offset.toNat).take (utf8 fragment).length =
    utf8 fragment

theorem Agrees.below (agrees : Agrees store upload offset fragment) :
    offset < (savedBytes store upload.uploadId).length := by
  have positive := List.length_pos_of_ne_nil agrees.nonempty
  have length := congrArg List.length agrees.bytes
  rw [List.length_take, List.length_drop] at length
  have nonneg := agrees.nonneg
  omega

theorem savedFragment_eq {position : Nat} :
    savedFragment store uploadId position = some fragment ↔
      ∃ chunk ∈ chunksOf store uploadId, chunk.byteOffset = position ∧
        chunk.fragment = fragment := by
  unfold savedFragment
  rw [Option.map_eq_some_iff]
  constructor
  · rintro ⟨chunk, found, same⟩
    obtain ⟨member, key⟩ := Table.find?_eq_some_iff.mp found
    simp only [agentPromptInputChunks, Prod.mk.injEq] at key
    exact ⟨chunk, mem_chunksOf.mpr ⟨member, key.1⟩, key.2, same⟩
  · rintro ⟨chunk, member, position_eq, same⟩
    obtain ⟨stored, own⟩ := mem_chunksOf.mp member
    refine ⟨chunk, Table.find?_eq_some_iff.mpr ⟨stored, ?_⟩, same⟩
    simp only [agentPromptInputChunks, Prod.mk.injEq]
    exact ⟨own, position_eq⟩

/-- An acknowledged call leaves its fragment saved at its offset, within the acknowledged
prefix. -/
theorem append_acknowledges (saved : Saved host store)
    (done : appendAgentPromptChunk host store upload offset fragment = .ok (count, after)) :
    count = (savedBytes after upload.uploadId).length ∧
      Agrees after upload offset fragment := by
  obtain ⟨admitted, ended⟩ := append_cases done
  obtain ⟨nonneg, _, _⟩ := validateFragment_ok admitted.bounds
  rcases ended with ⟨rfl, size, _, matching⟩ | ⟨next, size, extended⟩
  · obtain ⟨chunk, member, position, same⟩ := savedFragment_eq.mp matching
    have bytes := (saved.contiguous upload.uploadId).slice member
    have filled := chunkBytes_ne_nil (mem_chunksOf.mp member).1
    rw [position, Nat.sub_zero] at bytes
    unfold chunkBytes at bytes filled
    rw [same] at bytes filled
    exact ⟨size, nonneg, filled, bytes⟩
  · have position : offset.toNat = (savedBytes store upload.uploadId).length := by omega
    have row : chunkRow upload (savedBytes store upload.uploadId).length fragment ∈
        after.agentPromptInputChunks.rows := by
      rw [extended.rows]
      simp
    refine ⟨?_, nonneg, chunkBytes_ne_nil row, ?_⟩
    · rw [extended.saved, List.length_append, utf8_length, size]
    · rw [extended.saved, position, List.drop_left, List.take_length]

/-- Saved bytes that are sent again are accepted, without a change, exactly when a saved chunk
starts at their offset and holds exactly them. -/
theorem append_repeats_iff (agrees : Agrees store upload offset fragment) :
    (∃ count, appendAgentPromptChunk host store upload offset fragment = .ok (count, store)) ↔
      Admitted store upload offset fragment ∧ ∃ chunk ∈ chunksOf store upload.uploadId,
        (chunk.byteOffset : Int) = offset ∧ chunk.fragment = fragment := by
  have below := agrees.below
  have nonneg := agrees.nonneg
  constructor
  · rintro ⟨count, done⟩
    obtain ⟨admitted, ⟨_, _, _, matching⟩ | ⟨next, _⟩⟩ := append_cases done
    · obtain ⟨chunk, member, position, same⟩ := savedFragment_eq.mp matching
      exact ⟨admitted, chunk, member, by omega, same⟩
    · omega
  · rintro ⟨admitted, chunk, member, position, same⟩
    have matching : savedFragment store upload.uploadId offset.toNat = some fragment :=
      savedFragment_eq.mpr ⟨chunk, member, by omega, same⟩
    refine ⟨(savedBytes store upload.uploadId).length, ?_⟩
    unfold appendAgentPromptChunk
    rw [admitted.valid, ok_bind, admitted.bounds, ok_bind, admitted.applied, ok_bind,
      received_same admitted.same, ok_bind, if_pos below, if_pos matching]

theorem validate_positive (valid : upload.validate = .ok ()) : 0 < upload.totalBytes := by
  unfold AgentPromptUpload.validate at valid
  split at valid
  · cases valid
  · rename_i bounds
    simp only [not_or] at bounds
    omega

/-- A whole value is not empty, so a chunk carries the digest it was checked against. -/
theorem Saved.canonical (saved : Saved host store) (valid : upload.validate = .ok ())
    (same : ∀ chunk ∈ chunksOf store upload.uploadId, chunk.source = upload.source)
    (complete : ((savedBytes store upload.uploadId).length : Int) = upload.totalBytes) :
    Canonical host upload.sha256 (savedText store upload.uploadId) := by
  have positive := validate_positive valid
  obtain ⟨chunk, member⟩ : ∃ chunk, chunk ∈ chunksOf store upload.uploadId := by
    apply List.exists_mem_of_ne_nil
    intro empty
    unfold savedBytes at complete
    rw [empty] at complete
    simp only [joined, List.flatMap_nil, List.length_nil] at complete
    omega
  obtain ⟨stored, own⟩ := mem_chunksOf.mp member
  obtain ⟨digest, total⟩ := source_total (same chunk member)
  have canonical := saved.whole chunk stored (by rw [own, total]; exact complete)
  rwa [own, digest] at canonical

theorem Saved.fits (saved : Saved host store) (valid : upload.validate = .ok ())
    (same : ∀ chunk ∈ chunksOf store upload.uploadId, chunk.source = upload.source) :
    ((savedBytes store upload.uploadId).length : Int) ≤ upload.totalBytes := by
  cases listed : chunksOf store upload.uploadId with
  | nil =>
    unfold savedBytes
    rw [listed]
    exact Int.le_of_lt (validate_positive valid)
  | cons first rest =>
    have member : first ∈ chunksOf store upload.uploadId := listed ▸ List.mem_cons_self
    obtain ⟨stored, own⟩ := mem_chunksOf.mp member
    have within := saved.within first stored
    rwa [own, (source_total (same first member)).2] at within

/-- Completing assembles exactly the saved value, and only when it is whole. -/
theorem complete_iff (saved : Saved host store) (valid : upload.validate = .ok ())
    (same : ∀ chunk ∈ chunksOf store upload.uploadId, chunk.source = upload.source)
    (values : List host.Value) :
    completeAgentPromptUpload host store upload = .ok values ↔
      ((savedBytes store upload.uploadId).length : Int) = upload.totalBytes ∧
      host.fromStr (savedText store upload.uploadId) = some values ∧
      host.encode values = some (savedText store upload.uploadId) := by
  unfold completeAgentPromptUpload
  rw [valid, ok_bind, received_same same, ok_bind,
    assemble_eq (saved.contiguous _) (saved.fits valid same), decodeUpload_ok, savedText_size]
  constructor
  · rintro ⟨complete, _, parsed, _, encoded⟩
    exact ⟨complete, parsed, encoded⟩
  · rintro ⟨complete, parsed, encoded⟩
    obtain ⟨hash, read, parsedRead, filled, _⟩ := saved.canonical valid same complete
    rw [parsed, Option.some.injEq] at parsedRead
    subst parsedRead
    exact ⟨complete, hash, parsed, filled, encoded⟩

/-- What every state of a run and every call from it satisfies. -/
structure UploadContract (host : PromptHost) (store : PromptStore) : Prop where
  saved : Saved host store
  acknowledges : ∀ upload offset fragment count after,
    appendAgentPromptChunk host store upload offset fragment = .ok (count, after) →
    count = (savedBytes after upload.uploadId).length ∧ Agrees after upload offset fragment
  /-- A refused call changes nothing. -/
  refuses : ∀ upload offset fragment error after,
    appendAgentPromptChunk host store upload offset fragment = .error error →
    promptStep host store (.append upload offset fragment) after → after = store
  /-- Repeated bytes are accepted exactly when they are repeated chunk by chunk. -/
  repeats : ∀ upload offset fragment, Agrees store upload offset fragment →
    ((∃ count, appendAgentPromptChunk host store upload offset fragment = .ok (count, store)) ↔
      Admitted store upload offset fragment ∧ ∃ chunk ∈ chunksOf store upload.uploadId,
        (chunk.byteOffset : Int) = offset ∧ chunk.fragment = fragment)
  completes : ∀ upload, upload.validate = .ok () →
    (∀ chunk ∈ chunksOf store upload.uploadId, chunk.source = upload.source) →
    ((∃ values, completeAgentPromptUpload host store upload = .ok values) ↔
      ((savedBytes store upload.uploadId).length : Int) = upload.totalBytes) ∧
    ∀ values, completeAgentPromptUpload host store upload = .ok values →
      host.encode values = some (savedText store upload.uploadId) ∧
      host.fromStr (savedText store upload.uploadId) = some values

/-- Over every run from the empty store, an upload reassembles exactly. -/
theorem uploads_reassemble_exactly {events : List PromptEvent}
    (run : Run (promptStep host) .empty events store) : UploadContract host store := by
  have saved : Saved host store :=
    run.invariant (fun _ _ _ step held => held.step step) (Saved.start host)
  refine ⟨saved, fun _ _ _ _ _ done => append_acknowledges saved done, ?_,
    fun _ _ _ agrees => append_repeats_iff agrees, fun upload valid same => ⟨⟨?_, ?_⟩, ?_⟩⟩
  · intro upload offset fragment error after refused step
    dsimp only [promptStep] at step
    rw [refused] at step
    exact step
  · rintro ⟨values, done⟩
    exact ((complete_iff saved valid same values).mp done).1
  · intro complete
    obtain ⟨_, values, parsed, _, encoded⟩ := saved.canonical valid same complete
    exact ⟨values, (complete_iff saved valid same values).mpr ⟨complete, parsed, encoded⟩⟩
  · intro values done
    obtain ⟨_, parsed, encoded⟩ := (complete_iff saved valid same values).mp done
    exact ⟨encoded, parsed⟩

/-- One array is known to this host. -/
def samplePromptHost : PromptHost where
  Value := Unit
  digest := fun _ => ⟨List.replicate 32 4, rfl⟩
  fromStr := fun text => if text = "[null]" then some [()] else none
  encode := fun values => if values.length = 1 then some "[null]" else none

def sampleTask : AgentWorkItem where
  id := "task"
  parentGoalId := none
  kind := .goal
  codexThreadId := some "native"
  dispatchState := .idle
  activeTurnId := none
  status := .opened
  nextCheckAtMicros := none
  createdAtMicros := 1
  updatedAtMicros := 1

def sampleTasks : Table workItemTable := ⟨[sampleTask], by decide, by decide⟩

def sampleReceipts (_ : Int) : Except StoreError (Option AgentPromptEditReceipt) :=
  .ok (some ⟨"task", "native", "applied"⟩)

def sampleUpload : AgentPromptUpload where
  uploadId := "upload"
  work := "task"
  thread := "native"
  editReceiptId := 7
  sha256 := "0404040404040404040404040404040404040404040404040404040404040404"
  totalBytes := 6

/-- The first half of `[null]` is saved. -/
def sampleHalf : PromptStore where
  agentWorkItems := sampleTasks
  promptEditReceipt := sampleReceipts
  agentPromptInputChunks := ⟨[chunkRow sampleUpload 0 "[nul"], by decide +kernel, by decide⟩

theorem sampleRun : ∃ events, Run (promptStep samplePromptHost) .empty events sampleHalf := by
  have created : promptStep samplePromptHost .empty (.others sampleTasks sampleReceipts)
      ⟨sampleTasks, sampleReceipts, .empty⟩ := by rfl
  have appended : promptStep samplePromptHost ⟨sampleTasks, sampleReceipts, .empty⟩
      (.append sampleUpload 0 "[nul") sampleHalf := by rfl
  exact ⟨_, .cons created (.single appended)⟩

theorem sampleAdmitted (fragment : String)
    (bounds : validateFragment sampleUpload 0 fragment = .ok ()) :
    Admitted sampleHalf sampleUpload 0 fragment where
  valid := by decide +kernel
  bounds := bounds
  applied := by rfl
  same := by decide

/-- The same chunk is accepted again. -/
theorem sample_chunk_repeats : ∃ count,
    appendAgentPromptChunk samplePromptHost sampleHalf sampleUpload 0 "[nul" = .ok (count, sampleHalf) := by
  obtain ⟨events, run⟩ := sampleRun
  have agrees : Agrees sampleHalf sampleUpload 0 "[nul" :=
    ⟨by decide, by decide +kernel, by decide +kernel⟩
  exact ((uploads_reassemble_exactly run).repeats sampleUpload 0 "[nul" agrees).mpr
    ⟨sampleAdmitted "[nul" (by decide +kernel), chunkRow sampleUpload 0 "[nul", by decide, by decide⟩

/-- Its first two bytes are refused as a conflict, although they are what is saved. -/
theorem smaller_piece_is_refused : ∃ events store, Run (promptStep samplePromptHost) .empty events store ∧
    Agrees store sampleUpload 0 "[n" ∧ Admitted store sampleUpload 0 "[n" ∧
    appendAgentPromptChunk samplePromptHost store sampleUpload 0 "[n" =
      .error (.invalidInput "prompt chunk conflicts with saved bytes") := by
  obtain ⟨events, run⟩ := sampleRun
  exact ⟨events, sampleHalf, run, ⟨by decide, by decide +kernel, by decide +kernel⟩,
    sampleAdmitted "[n" (by decide +kernel), by rfl⟩

end Decodex.Guarantees.PromptUploads
