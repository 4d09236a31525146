import Decodex.Library.Bytes

/-!
# Canonical identities

Source: crates/decodex-core/src/account.rs:8-30,579-585 and the identical predicates of
conversation.rs:1356-1362, process_generation.rs:624-640 and
provider_attempt.rs:525-546.
-/
namespace Decodex.Source.Core

open Decodex.Library

def isLowerHex (byte : UInt8) : Bool := (48 ≤ byte && byte ≤ 57) || (97 ≤ byte && byte ≤ 102)

/-- `is_canonical_uuid`: hyphens at bytes 8, 13, 18 and 23, lower-case hex elsewhere. -/
def isCanonicalUuid (value : String) : Bool :=
  (utf8 value).length == 36 &&
    (utf8 value).zipIdx.all fun (byte, index) =>
      if index == 8 || index == 13 || index == 18 || index == 23 then byte == 45
      else isLowerHex byte

/-- `is_canonical_uuid_v4`: version nibble 4 and variant nibble 8, 9, a or b. -/
def isCanonicalUuidV4 (value : String) : Bool :=
  isCanonicalUuid value && (utf8 value)[14]? == some 52 &&
    ([56, 57, 97, 98] : List UInt8).any fun byte => (utf8 value)[19]? == some byte

def isSha256 (value : String) : Bool :=
  (utf8 value).length == 64 && (utf8 value).all isLowerHex

/-- `char::is_control`: the Unicode category `Cc`. -/
def isControl (c : Char) : Bool := c.val < 32 || (127 ≤ c.val && c.val < 160)

/-- `is_bounded_provider_identity`. -/
def isBoundedProviderIdentity (value : String) (maxBytes : Nat) : Bool :=
  !value.isEmpty && value.utf8ByteSize ≤ maxBytes && !value.toList.any isControl

/-- A canonical lower-case UUID: the accepted values of the identity newtypes. -/
structure CanonicalUuid where
  text : String
  canonical : isCanonicalUuid text = true
  deriving DecidableEq

/-- A canonical version 4 UUID. -/
structure CanonicalUuidV4 where
  text : String
  canonical : isCanonicalUuidV4 text = true
  deriving DecidableEq

/-- The identity constructors of the source: parse or reject. -/
def CanonicalUuid.parse? (value : String) : Option CanonicalUuid :=
  if h : isCanonicalUuid value = true then some ⟨value, h⟩ else none

def CanonicalUuidV4.parse? (value : String) : Option CanonicalUuidV4 :=
  if h : isCanonicalUuidV4 value = true then some ⟨value, h⟩ else none

theorem CanonicalUuid.parse?_text (id : CanonicalUuid) : CanonicalUuid.parse? id.text = some id := by
  simp [parse?, id.canonical]

theorem CanonicalUuid.utf8_length (id : CanonicalUuid) : (utf8 id.text).length = 36 := by
  have := id.canonical
  unfold isCanonicalUuid at this
  simpa using (Bool.and_eq_true_iff.mp this).1

theorem CanonicalUuid.eq_of_utf8 {a b : CanonicalUuid} (same : utf8 a.text = utf8 b.text) :
    a = b := by
  cases a
  cases b
  cases utf8_injective same
  rfl

/-- A version 4 UUID is a UUID: stores key other rows with the text of one. -/
def CanonicalUuidV4.toUuid (id : CanonicalUuidV4) : CanonicalUuid :=
  ⟨id.text, by
    have := id.canonical
    simp only [isCanonicalUuidV4, Bool.and_eq_true] at this
    exact this.1.1⟩

abbrev AccountId := CanonicalUuid

example : isCanonicalUuidV4 "10000000-0000-4000-8000-000000000001" = true := by decide

end Decodex.Source.Core
