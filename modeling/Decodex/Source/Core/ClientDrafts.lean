import Decodex.Source.Core.Blob
import Decodex.Library.Except

/-!
# Client drafts

Source: crates/decodex-core/src/client_drafts.rs:15-164 (`ClientDraftStore`),
crates/decodex-core/src/lib.rs:113 (the message bound), crates/decodex-core/src/paths.rs:264-335
(`PathError`) and crates/decodex-core/src/path_unix.rs:73-97 (`read_private_file`). SHA-256 is
the parameter `sha256`. `usize` has 64 bits. Opening the store, which only makes its directory,
and the texts of the errors are left out.
-/
namespace Decodex.Source.Core

open Decodex.Library

/-- `MAX_NATIVE_MESSAGE_BYTES`. -/
def maxNativeMessageBytes : Nat := 8 * 1024 * 1024

/-- `MAX_CLIENT_DRAFT_BYTES`. -/
def maxClientDraftBytes : Nat := 4 * maxNativeMessageBytes

/-- `MAGIC`. -/
def draftMagic : List UInt8 := [68, 68, 82, 65, 70, 84, 49, 10]

/-- `OVERHEAD`. -/
def draftOverhead : Nat := 8 + 8 + 32

inductive IoOperation where
  | createDirectory | inspect | «open» | read | write | sync | link | rename | remove
  deriving DecidableEq, Repr

/-- `std::io::ErrorKind`; all kinds but one are told apart by a number only. -/
inductive ErrorKind where
  | notFound
  | other (code : Nat)
  deriving DecidableEq, Repr

inductive PathError where
  | unsafeRoot | codexOwnedRoot | homeUnavailable | escape | symlink | unexpectedDirectoryKind
  | unexpectedFileKind | insecurePermissions
  | oversized (limit : Nat)
  | alreadyExists | randomnessUnavailable
  | io (operation : IoOperation) (kind : ErrorKind)
  deriving DecidableEq, Repr

inductive ClientDraftError where
  | busy | conflict | malformed | oversized
  | path (error : PathError)
  | writeUnconfirmed (error : PathError)
  deriving DecidableEq, Repr

structure ClientDraftSnapshot where
  revision : UInt64
  payload : List UInt8
  deriving DecidableEq, Repr

/-- `read_private_file` of a file that is private. -/
def readPrivateFile (file : Option (List UInt8)) (maximumBytes : Nat) :
    Except PathError (List UInt8) :=
  match file with
  | none => .error (.io .open .notFound)
  | some bytes =>
    if maximumBytes < bytes.length then .error (.oversized maximumBytes) else .ok bytes

variable (sha256 : List UInt8 → BlobHash)

/-- The checks of `load` on the bytes that it has read. -/
def decodeRecord (bytes : List UInt8) : Except ClientDraftError ClientDraftSnapshot :=
  if bytes.length < draftOverhead ∨ bytes.take 8 ≠ draftMagic then .error .malformed
  else
    let stop := bytes.length - 32
    if (sha256 (bytes.take stop)).bytes ≠ bytes.drop stop then .error .malformed
    else
      let revision := UInt64.ofNat (fromLittleEndian ((bytes.take 16).drop 8))
      if revision = 0 then .error .malformed
      else .ok ⟨revision, (bytes.take stop).drop 16⟩

/-- `ClientDraftStore::load`, of what reading the file has given. -/
def loadSnapshot (read : Except PathError (List UInt8)) :
    Except ClientDraftError ClientDraftSnapshot :=
  match read with
  | .ok bytes => decodeRecord sha256 bytes
  | .error (.io _ .notFound) => .ok ⟨0, []⟩
  | .error error => .error (.path error)

/-- The record that `save` writes. -/
def encodeRecord (revision : UInt64) (payload : List UInt8) : List UInt8 :=
  let bytes := draftMagic ++ littleEndian 8 revision.toNat ++ payload
  bytes ++ (sha256 bytes).bytes

/-- `u64::checked_add(1)`. -/
def nextRevision (revision : UInt64) : Option UInt64 :=
  if revision.toNat + 1 < 2 ^ 64 then some (revision + 1) else none

/-- The part of `save` between its lock and its write: the next revision and its record. -/
def stageRecord (expectedRevision : UInt64) (payload : List UInt8)
    (read : Except PathError (List UInt8)) :
    Except ClientDraftError (UInt64 × List UInt8) := do
  let current ← loadSnapshot sha256 read
  if current.revision ≠ expectedRevision then .error .conflict
  else
    match nextRevision current.revision with
    | none => .error .malformed
    | some revision => .ok (revision, encodeRecord sha256 revision payload)

variable {sha256} {revision : UInt64} {payload bytes : List UInt8}

theorem encodeRecord_length (sha256 : List UInt8 → BlobHash) (revision : UInt64)
    (payload : List UInt8) :
    (encodeRecord sha256 revision payload).length = payload.length + draftOverhead := by
  simp only [encodeRecord, List.length_append, littleEndian_length, BlobHash.length_eq,
    draftMagic, List.length_cons, List.length_nil, draftOverhead]
  omega

theorem nextRevision_eq_some {next : UInt64} (counted : nextRevision revision = some next) :
    next.toNat = revision.toNat + 1 := by
  unfold nextRevision at counted
  split at counted
  · rename_i small
    cases counted
    rw [UInt64.toNat_add]
    exact Nat.mod_eq_of_lt small
  · cases counted

theorem decodeRecord_encodeRecord (published : revision ≠ 0) :
    decodeRecord sha256 (encodeRecord sha256 revision payload) = .ok ⟨revision, payload⟩ := by
  have magic : draftMagic.length = 8 := rfl
  have length := encodeRecord_length sha256 revision payload
  generalize body : draftMagic ++ littleEndian 8 revision.toNat ++ payload = record
  have recordLength : record.length = payload.length + 16 := by
    rw [← body]
    simp only [List.length_append, littleEndian_length, magic]
    omega
  have encoded : encodeRecord sha256 revision payload = record ++ (sha256 record).bytes := by
    rw [← body]
    rfl
  have stop : (record ++ (sha256 record).bytes).length - 32 = record.length := by
    rw [List.length_append, BlobHash.length_eq]
    omega
  have front : (record ++ (sha256 record).bytes).take 16 =
      draftMagic ++ littleEndian 8 revision.toNat := by
    rw [← body, List.append_assoc, List.take_left']
    rw [List.length_append, littleEndian_length, magic]
  have number : fromLittleEndian (littleEndian 8 revision.toNat) = revision.toNat :=
    fromLittleEndian_littleEndian 8 _ revision.toNat_lt
  unfold decodeRecord
  dsimp only
  rw [encoded, stop, List.take_left, List.drop_left, if_neg, if_neg (not_not_intro rfl), front,
    List.drop_left' magic, number, UInt64.ofNat_toNat, if_neg published, ← body,
    List.drop_left']
  · rw [List.length_append, littleEndian_length, magic]
  · rw [not_or, not_not]
    refine ⟨?_, ?_⟩
    · rw [← encoded, length]
      omega
    · rw [← body, List.append_assoc, List.append_assoc, List.take_left' magic]

/-- What reading the file of a record gives. -/
theorem readPrivateFile_record (short : payload.length ≤ maxClientDraftBytes) :
    readPrivateFile (some (encodeRecord sha256 revision payload))
      (maxClientDraftBytes + draftOverhead) = .ok (encodeRecord sha256 revision payload) := by
  unfold readPrivateFile
  dsimp only
  rw [if_neg]
  rw [encodeRecord_length]
  omega

/-- A record is staged for the revision that was expected, when there is a next one. -/
theorem stageRecord_ok {expected : UInt64} {read : Except PathError (List UInt8)}
    (staged : stageRecord sha256 expected payload read = .ok (revision, bytes)) :
    (∃ current, loadSnapshot sha256 read = .ok ⟨expected, current⟩) ∧
      revision.toNat = expected.toNat + 1 ∧ bytes = encodeRecord sha256 revision payload := by
  unfold stageRecord at staged
  obtain ⟨⟨current, held⟩, loaded, staged⟩ := bind_ok staged
  dsimp only at staged
  split at staged
  · cases staged
  · rename_i same
    split at staged
    · cases staged
    · rename_i counted
      cases staged
      rw [not_not] at same
      subst same
      exact ⟨⟨held, loaded⟩, nextRevision_eq_some counted, rfl⟩

end Decodex.Source.Core
