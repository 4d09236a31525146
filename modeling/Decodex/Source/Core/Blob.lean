import Decodex.Library.Bytes

/-!
# Blob hashes and the blob store

Source: crates/decodex-core/src/blob.rs:13-47 (bounds, `BlobHash`), 61-172 (`BlobStore`,
`decode_hex`, `hex`). SHA-256 itself is outside: `BlobHash::digest` is the parameter
`digest` wherever it is used. A path is determined by its hash, so the store maps hashes to
files; failures of the file system itself are left out.
-/
namespace Decodex.Source.Core

open Decodex.Library

/-- `BlobHash([u8; 32])`. -/
structure BlobHash where
  bytes : List UInt8
  length_eq : bytes.length = 32
  deriving DecidableEq

def hexAlphabet : List Char :=
  ['0', '1', '2', '3', '4', '5', '6', '7', '8', '9', 'a', 'b', 'c', 'd', 'e', 'f']

/-- The two characters `hex` pushes for one byte. -/
def hexPair (byte : UInt8) : List Char :=
  [hexAlphabet.getD (byte >>> 4).toNat '0', hexAlphabet.getD (byte &&& 15).toNat '0']

def BlobHash.toHex (hash : BlobHash) : String := String.ofList (hash.bytes.flatMap hexPair)

def decodeHex (value : UInt8) : Option UInt8 :=
  if 48 ≤ value ∧ value ≤ 57 then some (value - 48)
  else if 97 ≤ value ∧ value ≤ 102 then some (value - 97 + 10)
  else none

/-- The pair loop of `BlobHash::parse`. -/
def decodeHexPairs : List UInt8 → Option (List UInt8)
  | high :: low :: rest => do
    let high ← decodeHex high
    let low ← decodeHex low
    let bytes ← decodeHexPairs rest
    some (((high <<< 4) ||| low) :: bytes)
  | _ => some []

/-- `BlobHash::parse`; `none` is `StorageError::InvalidBlobHash`. -/
def BlobHash.parse (value : String) : Option BlobHash :=
  match decodeHexPairs (utf8 value) with
  | some bytes =>
    if h : (utf8 value).length = 64 ∧ bytes.length = 32 then some ⟨bytes, h.2⟩ else none
  | none => none

/-- Both characters are ASCII and decode to the byte again. -/
theorem hexPair_spec : ∀ n < 256,
    (hexPair (UInt8.ofNat n)).all (fun c => c.val ≤ 127) = true ∧
      decodeHexPairs ((hexPair (UInt8.ofNat n)).map fun c => c.val.toUInt8) =
        some [UInt8.ofNat n] := by
  decide +kernel

theorem hexPair_ascii (byte : UInt8) : ∀ c ∈ hexPair byte, c.val ≤ 127 := by
  have spec := (hexPair_spec byte.toNat byte.toNat_lt).1
  rw [UInt8.ofNat_toNat] at spec
  simpa [List.all_eq_true] using spec

theorem BlobHash.utf8_toHex (hash : BlobHash) :
    utf8 hash.toHex = hash.bytes.flatMap fun byte => (hexPair byte).map fun c => c.val.toUInt8 := by
  have ascii : ∀ c ∈ hash.bytes.flatMap hexPair, c.val ≤ 127 := by
    intro c member
    obtain ⟨byte, _, digit⟩ := List.mem_flatMap.mp member
    exact hexPair_ascii byte c digit
  rw [toHex, utf8_ofList_ascii ascii, List.map_flatMap]

theorem BlobHash.utf8_toHex_length (hash : BlobHash) : (utf8 hash.toHex).length = 64 := by
  rw [utf8_toHex, List.length_flatMap]
  simp [hexPair, hash.length_eq]

theorem decodeHexPairs_flatMap (bytes : List UInt8) :
    decodeHexPairs (bytes.flatMap fun byte => (hexPair byte).map fun c => c.val.toUInt8) =
      some bytes := by
  induction bytes with
  | nil => rfl
  | cons byte bytes ih =>
    have spec := (hexPair_spec byte.toNat byte.toNat_lt).2
    rw [UInt8.ofNat_toNat] at spec
    simp only [hexPair, List.map_cons, List.map_nil, List.flatMap_cons, List.cons_append,
      List.nil_append, decodeHexPairs] at spec ih ⊢
    simp only [ih]
    simpa [Option.bind_eq_some_iff] using spec

theorem BlobHash.parse_toHex (hash : BlobHash) : BlobHash.parse hash.toHex = some hash := by
  have decoded : decodeHexPairs (utf8 hash.toHex) = some hash.bytes := by
    rw [utf8_toHex, decodeHexPairs_flatMap]
  unfold parse
  rw [decoded]
  simp [utf8_toHex_length, hash.length_eq]

theorem BlobHash.toHex_injective {a b : BlobHash} (same : a.toHex = b.toHex) : a = b := by
  have := congrArg BlobHash.parse same
  rw [parse_toHex, parse_toHex] at this
  exact Option.some.inj this

theorem BlobHash.eq_of_utf8_toHex {a b : BlobHash} (same : utf8 a.toHex = utf8 b.toHex) : a = b :=
  toHex_injective (utf8_injective same)

def maxBlobBytes : Nat := 64 * 1024 * 1024
def maxBlobsPerShard : Nat := 4096

/-- The failures of `StorageError` that a blob operation reports by itself. -/
inductive StorageError where
  | path | blobIntegrityMismatch
  | blobTooLarge (limit : Nat)
  | invalidCacheLimits
  deriving DecidableEq, Repr

/-- The files under `blobs/sha256`, by the hash that names them. -/
structure BlobStore where
  files : List (BlobHash × List UInt8)
  deriving DecidableEq

def BlobStore.file? (store : BlobStore) (hash : BlobHash) : Option (List UInt8) :=
  (store.files.find? fun file => file.1 == hash).map (·.2)

/-- The files whose hash has the same first byte: the shard directory. -/
def BlobStore.shard (store : BlobStore) (hash : BlobHash) : List (BlobHash × List UInt8) :=
  store.files.filter fun file => file.1.bytes.head? == hash.bytes.head?

/-- `BlobStore::read`. -/
def BlobStore.read (digest : List UInt8 → BlobHash) (store : BlobStore) (hash : BlobHash) :
    Except StorageError (List UInt8) :=
  match store.file? hash with
  | none => .error .path
  | some bytes =>
    if maxBlobBytes < bytes.length then .error .path
    else if digest bytes ≠ hash then .error .blobIntegrityMismatch
    else .ok bytes

/-- `BlobStore::put`: an existing file is accepted only when it verifies. -/
def BlobStore.put (digest : List UInt8 → BlobHash) (store : BlobStore) (bytes : List UInt8) :
    Except StorageError (BlobHash × BlobStore) :=
  if maxBlobBytes < bytes.length then .error (.blobTooLarge maxBlobBytes)
  else
    match store.file? (digest bytes) with
    | some _ =>
      match store.read digest (digest bytes) with
      | .ok _ => .ok (digest bytes, store)
      | .error error => .error error
    | none =>
      if maxBlobsPerShard ≤ (store.shard (digest bytes)).length then .error .invalidCacheLimits
      else .ok (digest bytes, ⟨store.files ++ [(digest bytes, bytes)]⟩)

/-- A blob the store can give back. -/
def BlobStore.Holds (digest : List UInt8 → BlobHash) (store : BlobStore) (hash : BlobHash) : Prop :=
  ∃ bytes, store.read digest hash = .ok bytes ∧ bytes.length ≤ maxBlobBytes

theorem BlobStore.holds_of_read {digest : List UInt8 → BlobHash} {store : BlobStore}
    {hash : BlobHash} {bytes : List UInt8} (found : store.read digest hash = .ok bytes) :
    store.Holds digest hash := by
  refine ⟨bytes, found, ?_⟩
  unfold read at found
  split at found
  · cases found
  · split at found
    · cases found
    · rename_i small
      split at found
      · cases found
      · cases found
        exact Nat.le_of_not_lt small

theorem BlobStore.file?_append (store : BlobStore) (hash other : BlobHash) (bytes : List UInt8) :
    BlobStore.file? ⟨store.files ++ [(hash, bytes)]⟩ other =
      (store.file? other).or (if hash = other then some bytes else none) := by
  unfold file?
  rw [List.find?_append]
  cases store.files.find? fun file => file.1 == other with
  | some file => rfl
  | none => by_cases same : hash = other <;> simp [same]

/-- What was stored can be read. -/
theorem BlobStore.put_holds {digest : List UInt8 → BlobHash} {store after : BlobStore}
    {bytes : List UInt8} {hash : BlobHash} (stored : store.put digest bytes = .ok (hash, after)) :
    after.Holds digest hash := by
  unfold put at stored
  split at stored
  · cases stored
  · rename_i small
    split at stored
    · split at stored
      · rename_i found
        cases stored
        exact holds_of_read found
      · cases stored
    · rename_i absent
      split at stored
      · cases stored
      · cases stored
        have found : BlobStore.read digest ⟨store.files ++ [(digest bytes, bytes)]⟩
            (digest bytes) = .ok bytes := by
          unfold read
          rw [file?_append, absent]
          simp [small]
        exact holds_of_read found

/-- No put takes a readable blob away. -/
theorem BlobStore.put_keeps {digest : List UInt8 → BlobHash} {store after : BlobStore}
    {bytes : List UInt8} {hash other : BlobHash}
    (stored : store.put digest bytes = .ok (hash, after)) (held : store.Holds digest other) :
    after.Holds digest other := by
  unfold put at stored
  split at stored
  · cases stored
  · split at stored
    · split at stored
      · cases stored
        exact held
      · cases stored
    · split at stored
      · cases stored
      · cases stored
        obtain ⟨kept, found, small⟩ := held
        refine ⟨kept, ?_, small⟩
        unfold read at found ⊢
        rw [file?_append]
        split at found
        · cases found
        · rename_i here
          rw [here]
          exact found

end Decodex.Source.Core
