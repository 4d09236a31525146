import Mathlib.Data.List.Basic
import Mathlib.Data.List.Induction
import Mathlib.Tactic.Common
import Mathlib.Tactic.Ring

/-!
# Byte strings

Fixed-width big-endian numbers with an exact reader, UTF-8 bytes of a text, and unambiguous
concatenation: an encoding is `Delimited` when a byte string that starts with an encoded
value determines the value and what follows it.
-/
namespace Decodex.Library

def bigEndian : Nat → Nat → List UInt8
  | 0, _ => []
  | width + 1, value => bigEndian width (value / 256) ++ [UInt8.ofNat value]

def fromBigEndian (bytes : List UInt8) : Nat :=
  bytes.foldl (fun value byte => value * 256 + byte.toNat) 0

/-- Read `width` bytes off the front, or fail when fewer are left. -/
def readBigEndian (width : Nat) (bytes : List UInt8) : Option (Nat × List UInt8) :=
  if width ≤ bytes.length then some (fromBigEndian (bytes.take width), bytes.drop width) else none

@[simp] theorem bigEndian_zero (value : Nat) : bigEndian 0 value = [] := rfl

theorem bigEndian_succ (width value : Nat) :
    bigEndian (width + 1) value = bigEndian width (value / 256) ++ [UInt8.ofNat value] := rfl

@[simp] theorem fromBigEndian_nil : fromBigEndian [] = 0 := rfl

@[simp] theorem bigEndian_length (width value : Nat) : (bigEndian width value).length = width := by
  induction width generalizing value with
  | zero => rfl
  | succ width ih => simp [bigEndian_succ, ih]

theorem fromBigEndian_append (bytes : List UInt8) (byte : UInt8) :
    fromBigEndian (bytes ++ [byte]) = fromBigEndian bytes * 256 + byte.toNat := by
  simp [fromBigEndian]

theorem fromBigEndian_bigEndian (width value : Nat) (fits : value < 256 ^ width) :
    fromBigEndian (bigEndian width value) = value := by
  induction width generalizing value with
  | zero =>
    have : value = 0 := by simpa using fits
    rw [this, bigEndian_zero, fromBigEndian_nil]
  | succ width ih =>
    have high : value / 256 < 256 ^ width := by
      rw [Nat.pow_succ] at fits
      omega
    rw [bigEndian_succ, fromBigEndian_append, ih _ high, UInt8.toNat_ofNat']
    omega

theorem fromBigEndian_lt (bytes : List UInt8) : fromBigEndian bytes < 256 ^ bytes.length := by
  induction bytes using List.reverseRecOn with
  | nil => simp
  | append_singleton bytes byte ih =>
    have := byte.toNat_lt
    rw [fromBigEndian_append, List.length_append, List.length_singleton, Nat.pow_succ]
    omega

theorem bigEndian_fromBigEndian (bytes : List UInt8) :
    bigEndian bytes.length (fromBigEndian bytes) = bytes := by
  induction bytes using List.reverseRecOn with
  | nil => rfl
  | append_singleton bytes byte ih =>
    have small := byte.toNat_lt
    have high : (fromBigEndian bytes * 256 + byte.toNat) / 256 = fromBigEndian bytes := by omega
    have low : UInt8.ofNat (fromBigEndian bytes * 256 + byte.toNat) = byte := by
      apply UInt8.toNat_inj.mp
      rw [UInt8.toNat_ofNat']
      omega
    rw [fromBigEndian_append, List.length_append, List.length_singleton, bigEndian_succ, high, low, ih]

theorem bigEndian_injective {width a b : Nat} (fitsA : a < 256 ^ width) (fitsB : b < 256 ^ width)
    (same : bigEndian width a = bigEndian width b) : a = b := by
  rw [← fromBigEndian_bigEndian width a fitsA, same, fromBigEndian_bigEndian width b fitsB]

theorem readBigEndian_append (width value : Nat) (fits : value < 256 ^ width)
    (rest : List UInt8) :
    readBigEndian width (bigEndian width value ++ rest) = some (value, rest) := by
  have taken : (bigEndian width value ++ rest).take width = bigEndian width value := by
    simp
  have left : (bigEndian width value ++ rest).drop width = rest := by simp
  simp [readBigEndian, taken, left, fromBigEndian_bigEndian width value fits]

/-- What was read stood in front, and nothing else was consumed. -/
theorem readBigEndian_some {width value : Nat} {bytes rest : List UInt8}
    (read : readBigEndian width bytes = some (value, rest)) :
    bytes = bigEndian width value ++ rest ∧ value < 256 ^ width := by
  unfold readBigEndian at read
  split at read
  · rename_i long
    obtain ⟨rfl, rfl⟩ := Prod.mk.inj (Option.some.inj read)
    have taken : (bytes.take width).length = width := by simp [long]
    refine ⟨?_, by simpa [taken] using fromBigEndian_lt (bytes.take width)⟩
    have back := bigEndian_fromBigEndian (bytes.take width)
    rw [taken] at back
    rw [back, List.take_append_drop]
  · cases read

def littleEndian (width value : Nat) : List UInt8 := (bigEndian width value).reverse

def fromLittleEndian (bytes : List UInt8) : Nat := fromBigEndian bytes.reverse

@[simp] theorem littleEndian_length (width value : Nat) :
    (littleEndian width value).length = width := by
  rw [littleEndian, List.length_reverse, bigEndian_length]

theorem fromLittleEndian_littleEndian (width value : Nat) (fits : value < 256 ^ width) :
    fromLittleEndian (littleEndian width value) = value := by
  rw [fromLittleEndian, littleEndian, List.reverse_reverse,
    fromBigEndian_bigEndian width value fits]

/-- The UTF-8 bytes of a text (`str::as_bytes`). -/
def utf8 (text : String) : List UInt8 := text.toUTF8.data.toList

theorem utf8_injective {a b : String} (same : utf8 a = utf8 b) : a = b := by
  unfold utf8 at same
  rw [String.toUTF8_eq_toByteArray, String.toUTF8_eq_toByteArray] at same
  exact String.toByteArray_inj.mp (ByteArray.ext (Array.toList_inj.mp same))

theorem utf8_append (a b : String) : utf8 (a ++ b) = utf8 a ++ utf8 b := by
  unfold utf8
  rw [String.toUTF8, String.toByteArray_append]
  exact ByteArray.toList_data_append

theorem utf8_length (text : String) : (utf8 text).length = text.utf8ByteSize := by
  unfold utf8
  rw [String.toUTF8_eq_toByteArray, Array.length_toList, ← String.size_toByteArray]
  rfl

/-- An ASCII text has one byte for each character. -/
theorem utf8_ofList_ascii {chars : List Char} (ascii : ∀ c ∈ chars, c.val ≤ 127) :
    utf8 (String.ofList chars) = chars.map fun c => c.val.toUInt8 := by
  unfold utf8
  rw [String.toUTF8_eq_toByteArray, String.toByteArray_ofList]
  unfold List.utf8Encode
  have encoded : chars.flatMap String.utf8EncodeChar = chars.map fun c => c.val.toUInt8 := by
    induction chars with
    | nil => rfl
    | cons c chars ih =>
      have single : String.utf8EncodeChar c = [c.val.toUInt8] := by
        have := ascii c (by simp)
        have small : c.val.toNat ≤ 127 := UInt32.le_iff_toNat_le.mp this
        rw [String.utf8EncodeChar, if_pos small]
        rfl
      rw [List.flatMap_cons, single, ih fun d member => ascii d (List.mem_cons_of_mem _ member)]
      rfl
  rw [encoded, List.data_toByteArray]

/-- Encodings of values with `P` can be told apart, and from what follows them. -/
def Delimited {α : Type*} (P : α → Prop) (encode : α → List UInt8) : Prop :=
  ∀ a b rest rest', P a → P b → encode a ++ rest = encode b ++ rest' → a = b ∧ rest = rest'

/-- A fixed-width injective encoding is delimited. -/
theorem Delimited.fixed {α : Type*} {P : α → Prop} {encode : α → List UInt8} (width : Nat)
    (length : ∀ a, P a → (encode a).length = width)
    (injective : ∀ a b, P a → P b → encode a = encode b → a = b) : Delimited P encode := by
  intro a b rest rest' pa pb same
  obtain ⟨front, back⟩ := List.append_inj same (by rw [length a pa, length b pb])
  exact ⟨injective a b pa pb front, back⟩

theorem delimited_bigEndian (width : Nat) :
    Delimited (fun value => value < 256 ^ width) (bigEndian width) :=
  .fixed width (fun value _ => bigEndian_length width value)
    fun _ _ fitsA fitsB same => bigEndian_injective fitsA fitsB same

/-- A length prefix delimits any bytes that fit it. -/
theorem delimited_lengthPrefix (width : Nat) :
    Delimited (fun bytes : List UInt8 => bytes.length < 256 ^ width)
      fun bytes => bigEndian width bytes.length ++ bytes := by
  intro a b rest rest' fitsA fitsB same
  simp only [List.append_assoc] at same
  obtain ⟨lengths, tail⟩ := delimited_bigEndian width _ _ _ _ fitsA fitsB same
  exact List.append_inj tail lengths

/-- Concatenated delimited encodings of equally many values are delimited. -/
theorem Delimited.flatMap {α : Type*} {P : α → Prop} {encode : α → List UInt8}
    (h : Delimited P encode) {l m : List α} {rest rest' : List UInt8}
    (sameLength : l.length = m.length) (pl : ∀ a ∈ l, P a) (pm : ∀ a ∈ m, P a)
    (same : l.flatMap encode ++ rest = m.flatMap encode ++ rest') : l = m ∧ rest = rest' := by
  induction l generalizing m with
  | nil =>
    have : m = [] := List.length_eq_zero_iff.mp sameLength.symm
    subst this
    exact ⟨rfl, same⟩
  | cons a l ih =>
    cases m with
    | nil => cases sameLength
    | cons b m =>
      simp only [List.flatMap_cons, List.append_assoc] at same
      obtain ⟨rfl, tail⟩ := h a b _ _ (pl a (by simp)) (pm b (by simp)) same
      obtain ⟨rfl, back⟩ := ih (Nat.succ.inj sameLength)
        (fun c member => pl c (List.mem_cons_of_mem _ member))
        (fun c member => pm c (List.mem_cons_of_mem _ member)) tail
      exact ⟨rfl, back⟩

end Decodex.Library
