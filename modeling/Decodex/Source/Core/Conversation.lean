import Decodex.Source.Core.ContextPacks
import Decodex.Source.Core.ProcessGeneration

/-!
# Conversation values

Source: crates/decodex-core/src/conversation.rs:58-73 (bounds), 115-228 (states, roles,
kinds, metadata values), 296-377 (`HistoryMediaType`, `HistoryMetadata`), 905-958
(media type and credential key predicates). The regular expression behind
`contains_credential_material` is the parameter `containsCredentialMaterial`; a metadata map
stands for its JSON object text.
-/
namespace Decodex.Source.Core

open Decodex.Library
open Decodex.Source.Core.ContextPacks (ConversationError PossibleSideEffects)

def maxProviderThreadIdBytes : Nat := 512
def maxInlineHistoryBytes : Nat := 16 * 1024
def maxHistoryMetadataFields : Nat := 32
def maxHistoryMetadataKeyBytes : Nat := 64
def maxHistoryMetadataValueBytes : Nat := 256

inductive RuntimeSessionState where
  | starting | active | ended | diverged
  deriving DecidableEq, Repr

inductive TurnRole where
  | user | assistant | system | tool
  deriving DecidableEq, Repr

inductive HistoryItemKind where
  | message | reasoning | toolCall | toolResult | artifact | status
  deriving DecidableEq, Repr

inductive ItemStatus where
  | streaming | completed | failed
  deriving DecidableEq, Repr

/-- `Completed` and `Failed` are documented as immutable. -/
inductive TurnStatus where
  | active | completed | failed
  deriving DecidableEq, Repr

/-- `HistoryMetadataValue`, serialized untagged. -/
inductive HistoryMetadataValue where
  | text (value : String)
  | boolean (value : Bool)
  deriving DecidableEq, Repr

def isMediaTypeByte (byte : UInt8) : Bool :=
  (48 ≤ byte && byte ≤ 57) || (65 ≤ byte && byte ≤ 90) || (97 ≤ byte && byte ≤ 122) ||
    (utf8 "!#$&^_.+-").contains byte

/-- `is_canonical_media_type`: the first slash splits two nonempty token texts. -/
def isCanonicalMediaType (value : String) : Bool :=
  let bytes := utf8 value
  let typeName := bytes.takeWhile (· != 47)
  let subtype := bytes.drop (typeName.length + 1)
  bytes.length ≤ 128 && bytes.contains 47 && !typeName.isEmpty && !subtype.isEmpty &&
    (typeName ++ subtype).all isMediaTypeByte

structure HistoryMediaType where
  text : String
  canonical : isCanonicalMediaType text = true
  deriving DecidableEq

def credentialKeySuffixes : List String :=
  ["credential", "credentials", "password", "passphrase", "privatekey", "secret",
    "authorization", "bearer", "apikey", "cookie", "token", "session"]

/-- `is_credential_metadata_key`: ASCII letters and digits, lower case, by suffix. -/
def isCredentialMetadataKey (key : String) : Bool :=
  let normalized := (key.toList.filter fun c => c.val < 128 && c.isAlphanum).map Char.toLower
  credentialKeySuffixes.any fun suffix => suffix.toList.isSuffixOf normalized

/-- A flat metadata object, its keys in the order of the stored map. -/
abbrev MetadataObject := List (String × HistoryMetadataValue)

def validateMetadataField (containsCredentialMaterial : String → Bool)
    (field : String × HistoryMetadataValue) : Except ConversationError Unit :=
  if field.1.isEmpty || maxHistoryMetadataKeyBytes < field.1.utf8ByteSize then
    .error (.invalidBound "history metadata key")
  else if isCredentialMetadataKey field.1 then .error .credentialRejected
  else
    match field.2 with
    | .boolean _ => .ok ()
    | .text text =>
      if maxHistoryMetadataValueBytes < text.utf8ByteSize then
        .error (.invalidBound "history metadata value")
      else if containsCredentialMaterial text then .error .credentialRejected
      else .ok ()

/-- `HistoryMetadata::new`, which deserialization applies as well. -/
def validateMetadata (containsCredentialMaterial : String → Bool) (values : MetadataObject) :
    Except ConversationError Unit :=
  if maxHistoryMetadataFields < values.length then .error (.invalidBound "history metadata fields")
  else values.forM (validateMetadataField containsCredentialMaterial)

/-- Validated metadata. -/
structure HistoryMetadata (containsCredentialMaterial : String → Bool) where
  fields : MetadataObject
  valid : validateMetadata containsCredentialMaterial fields = .ok ()

def HistoryMetadata.empty (containsCredentialMaterial : String → Bool) :
    HistoryMetadata containsCredentialMaterial :=
  ⟨[], rfl⟩

end Decodex.Source.Core
