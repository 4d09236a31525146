import Mathlib.Data.List.Sort
import Decodex.Source.Core.Blob
import Decodex.Source.Core.Identity

/-!
# Context Packs: compile, encode, verify

Source: crates/decodex-core/src/conversation.rs:62-103 (bounds, errors), 262-294 (kinds,
dispositions), 395-540 (sources, policy), 566-706 (input, manifest), 808-901
(`from_persisted`, `verify`), 957-1076 (`compile_context_pack`), 1122-1354 (manifest,
encoding, verification).
`BlobHash::digest` is the parameter `digest`. The slice cursor of the verifier is carried as
the bytes behind it. Rendering and the credential scan are not part of this module.
-/
namespace Decodex.Source.Core.ContextPacks

open Decodex.Library

inductive ConversationError where
  | invalidIdentity (kind : String)
  | invalidBound (field : String)
  | invalidRevision (field : String)
  | payloadRequiresBlob
  | invalidBlobReference
  | credentialRejected
  | invalidContextPolicy
  | missingPinnedSource
  deriving DecidableEq, Repr

abbrev ConversationId := CanonicalUuid

abbrev ArtifactId := CanonicalUuid

def minContextPackBytes : Nat := 1024
def maxContextPackBytes : Nat := 256 * 1024
def maxContextRecentItems : Nat := 256
def maxContextSources : Nat := 512
def maxContextSourceInputBytes : Nat := 2 * 1024 * 1024

/-- `b"decodex/context-pack/2\0"`. -/
def contextPackMagic : List UInt8 := utf8 "decodex/context-pack/2" ++ [0]

inductive ContextSourceKind where
  | pinnedRevision | repositoryInstructions | openWiki | decision | fact | artifact | recentRaw
  deriving DecidableEq, Repr

inductive ContextSourceDisposition where
  | complete | truncated | omitted
  deriving DecidableEq, Repr

inductive PossibleSideEffects where
  | none | possible | unknown
  deriving DecidableEq, Repr

def contextKindTag : ContextSourceKind → UInt8
  | .pinnedRevision => 0
  | .repositoryInstructions => 1
  | .openWiki => 2
  | .decision => 3
  | .fact => 4
  | .artifact => 5
  | .recentRaw => 6

def sideEffectTag : PossibleSideEffects → UInt8
  | .none => 0
  | .possible => 1
  | .unknown => 2

def dispositionTag : ContextSourceDisposition → UInt8
  | .complete => 0
  | .truncated => 1
  | .omitted => 2

/-- An artifact source names itself as the artifact; no other source names one. -/
def canonicalArtifact (kind : ContextSourceKind) (sourceId : String) (revision : UInt64)
    (artifact : Option (ArtifactId × UInt64)) : Bool :=
  match kind, artifact with
  | .artifact, some (id, artifactRevision) => id.text == sourceId && artifactRevision == revision
  | .artifact, none => false
  | _, some _ => false
  | _, none => true

/-- A source as its constructors admit it. -/
structure ContextPackSource (digest : List UInt8 → BlobHash) where
  kind : ContextSourceKind
  sourceId : String
  revision : UInt64
  content : List UInt8
  contentDigest : BlobHash
  artifact : Option (ArtifactId × UInt64)
  idBound : 0 < (utf8 sourceId).length ∧ (utf8 sourceId).length ≤ 256
  revisionPositive : revision ≠ 0
  contentBound : content.length ≤ maxContextSourceInputBytes
  digested : contentDigest = digest content
  typed : canonicalArtifact kind sourceId revision artifact = true

variable (digest : List UInt8 → BlobHash)

structure PinnedContextSource where
  source : ContextPackSource digest
  pinned : source.kind = .pinnedRevision
  nonempty : source.content ≠ []

structure ContextPackPolicy where
  maxBytes : Nat
  recentItemLimit : Nat
  bytesBound : minContextPackBytes ≤ maxBytes ∧ maxBytes ≤ maxContextPackBytes
  itemsBound : 0 < recentItemLimit ∧ recentItemLimit ≤ maxContextRecentItems
  deriving DecidableEq

/-- `ContextPackPolicy::new`. -/
def ContextPackPolicy.new (maxBytes recentItemLimit : Nat) :
    Except ConversationError ContextPackPolicy :=
  if bytes : ¬(minContextPackBytes ≤ maxBytes ∧ maxBytes ≤ maxContextPackBytes) then
    .error .invalidContextPolicy
  else if items : recentItemLimit = 0 ∨ recentItemLimit > maxContextRecentItems then
    .error .invalidContextPolicy
  else .ok ⟨maxBytes, recentItemLimit, not_not.mp bytes, by omega⟩

def ContextPackPolicy.validate (policy : ContextPackPolicy) : Except ConversationError Unit := do
  let _ ← ContextPackPolicy.new policy.maxBytes policy.recentItemLimit
  .ok ()

structure ContextPackInput where
  conversationId : ConversationId
  possibleSideEffects : PossibleSideEffects
  policy : ContextPackPolicy
  pinned : PinnedContextSource digest
  optionalSources : List (ContextPackSource digest)

structure ContextSourceManifest where
  kind : ContextSourceKind
  sourceId : String
  revision : UInt64
  contentDigest : BlobHash
  originalByteLength : UInt64
  includedByteLength : UInt64
  includedDigest : BlobHash
  disposition : ContextSourceDisposition
  artifact : Option (ArtifactId × UInt64)
  deriving DecidableEq

def ContextSourceManifest.canonicalDisposition (source : ContextSourceManifest) : Bool :=
  match source.disposition with
  | .complete => source.originalByteLength > 0 &&
      source.includedByteLength == source.originalByteLength &&
      source.includedDigest == source.contentDigest
  | .truncated => source.includedByteLength > 0 &&
      source.includedByteLength < source.originalByteLength
  | .omitted => source.includedByteLength == 0 && source.includedDigest == digest []

/-- `ContextSourceManifest::validate`. -/
def ContextSourceManifest.validate (source : ContextSourceManifest) :
    Except ConversationError Unit :=
  if (utf8 source.sourceId).length = 0 ∨ (utf8 source.sourceId).length > 256 then
    .error (.invalidBound "context source identity")
  else if source.revision = 0 then .error (.invalidRevision "context source")
  else if source.originalByteLength.toNat > maxContextSourceInputBytes ∨
      source.includedByteLength > source.originalByteLength then
    .error .invalidContextPolicy
  else if !source.canonicalDisposition digest ∨
      !canonicalArtifact source.kind source.sourceId source.revision source.artifact then
    .error .invalidContextPolicy
  else .ok ()

/-- `ContextSourceManifest::from_persisted`. -/
def ContextSourceManifest.fromPersisted (manifest : ContextSourceManifest) :
    Except ConversationError ContextSourceManifest := do
  manifest.validate digest
  .ok manifest

/-- `u64::try_from` of a slice length. -/
def lengthU64 (length : Nat) : Except ConversationError UInt64 :=
  if length < UInt64.size then .ok (UInt64.ofNat length)
  else .error (.invalidBound "context source content")

/-- `source_manifest`. -/
def sourceManifest (source : ContextPackSource digest) (includedLength : Nat) :
    Except ConversationError ContextSourceManifest := do
  let originalByteLength ← lengthU64 source.content.length
  let includedByteLength ← lengthU64 includedLength
  let disposition : ContextSourceDisposition :=
    if includedLength = 0 then .omitted
    else if includedLength = source.content.length then .complete
    else .truncated
  ContextSourceManifest.fromPersisted digest {
    kind := source.kind
    sourceId := source.sourceId
    revision := source.revision
    contentDigest := source.contentDigest
    originalByteLength, includedByteLength
    includedDigest := digest (source.content.take includedLength)
    disposition
    artifact := source.artifact }

/-- `push_u16`: the pushed bytes, or a value that does not fit. -/
def pushU16 (value : Nat) : Except ConversationError (List UInt8) :=
  if value < 2 ^ 16 then .ok (bigEndian 2 value) else .error .invalidContextPolicy

def pushU32 (value : Nat) : Except ConversationError (List UInt8) :=
  if value < 2 ^ 32 then .ok (bigEndian 4 value) else .error .invalidContextPolicy

def pushBytesU16 (value : List UInt8) : Except ConversationError (List UInt8) := do
  let length ← pushU16 value.length
  .ok (length ++ value)

/-- The artifact suffix of a manifest entry. -/
def artifactBytes : Option (ArtifactId × UInt64) → List UInt8
  | some (id, revision) => 1 :: (utf8 id.text ++ bigEndian 8 revision.toNat)
  | none => [0]

/-- One round of the `digest_manifest` loop. -/
def manifestEntryBytes (source : ContextSourceManifest) :
    Except ConversationError (List UInt8) := do
  let sourceId ← pushBytesU16 (utf8 source.sourceId)
  .ok (contextKindTag source.kind :: (sourceId ++ (bigEndian 8 source.revision.toNat ++
    (utf8 source.contentDigest.toHex ++ (bigEndian 8 source.originalByteLength.toNat ++
      (bigEndian 8 source.includedByteLength.toNat ++ (utf8 source.includedDigest.toHex ++
        (dispositionTag source.disposition :: artifactBytes source.artifact))))))))

def manifestEntriesBytes : List ContextSourceManifest → Except ConversationError (List UInt8)
  | [] => .ok []
  | source :: rest => do
    let entry ← manifestEntryBytes source
    let entries ← manifestEntriesBytes rest
    .ok (entry ++ entries)

/-- The byte string `digest_manifest` hashes. -/
def manifestBytes (manifest : List ContextSourceManifest) :
    Except ConversationError (List UInt8) := do
  let count ← pushU16 manifest.length
  let entries ← manifestEntriesBytes manifest
  .ok (count ++ entries)

def digestManifest (manifest : List ContextSourceManifest) :
    Except ConversationError BlobHash := do
  let bytes ← manifestBytes manifest
  .ok (digest bytes)

/-- The header `encode_pack` writes and `verify_pack_encoding` expects. -/
def packHeader (conversationId : ConversationId) (possibleSideEffects : PossibleSideEffects)
    (policy : ContextPackPolicy) (sourceCount : Nat) (manifestDigest : BlobHash)
    (truncated : Bool) : Except ConversationError (List UInt8) := do
  let maxBytes ← pushU32 policy.maxBytes
  let recentItemLimit ← pushU16 policy.recentItemLimit
  let count ← pushU16 sourceCount
  .ok (contextPackMagic ++ (utf8 conversationId.text ++ (sideEffectTag possibleSideEffects ::
    (maxBytes ++ (recentItemLimit ++ (count ++ (utf8 manifestDigest.toHex ++
      [if truncated then 1 else 0])))))))

def encodedHeaderLength : Nat := contextPackMagic.length + 36 + 1 + 4 + 2 + 2 + 64 + 1

/-- The frame loop of `encode_pack`, from `position` on. -/
def encodeFrames : Nat → List (ContextPackSource digest × Nat) →
    Except ConversationError (List UInt8)
  | _, [] => .ok []
  | position, (source, included) :: rest =>
    if included = 0 then encodeFrames (position + 1) rest
    else do
      let encodedPosition ← pushU16 position
      let length ← pushU32 included
      let frames ← encodeFrames (position + 1) rest
      .ok (encodedPosition ++ (length ++ (source.content.take included ++ frames)))

/-- `encode_pack`. -/
def encodePack (conversationId : ConversationId) (possibleSideEffects : PossibleSideEffects)
    (policy : ContextPackPolicy) (manifestDigest : BlobHash) (truncated : Bool)
    (sources : List (ContextPackSource digest)) (represented : List Nat) :
    Except ConversationError (List UInt8) := do
  policy.validate
  let header ← packHeader conversationId possibleSideEffects policy sources.length
    manifestDigest truncated
  let frames ← encodeFrames digest 0 (sources.zip represented)
  if (header ++ frames).length > policy.maxBytes then .error .invalidContextPolicy
  else .ok (header ++ frames)

structure ContextPack where
  conversationId : ConversationId
  possibleSideEffects : PossibleSideEffects
  policy : ContextPackPolicy
  sourceManifest : List ContextSourceManifest
  manifestDigest : BlobHash
  bytes : List UInt8
  digest : BlobHash
  omittedSourceCount : Nat
  truncated : Bool
  deriving DecidableEq

def omittedCount (manifest : List ContextSourceManifest) : Nat :=
  (manifest.filter (·.disposition == .omitted)).length

def anyTruncated (manifest : List ContextSourceManifest) : Bool :=
  manifest.any (·.disposition != .complete)

/-- `pinned_is_complete` of `verify`. -/
def pinnedIsComplete : List ContextSourceManifest → Bool
  | [] => false
  | source :: _ => source.kind == .pinnedRevision && source.disposition == .complete &&
      source.includedByteLength > 0 && source.artifact.isNone

/-- `source_order_is_canonical` of `verify`, over the windows of two. -/
def sourceOrderIsCanonical : List ContextSourceManifest → Bool
  | first :: second :: rest =>
    contextKindTag first.kind ≤ contextKindTag second.kind && second.kind != .pinnedRevision &&
      sourceOrderIsCanonical (second :: rest)
  | _ => true

/-- The frame loop of `verify_pack_encoding`; the result is what the cursor left behind. -/
def verifyFrames : Nat → List ContextSourceManifest → List UInt8 →
    Except ConversationError (List UInt8)
  | _, [], bytes => .ok bytes
  | position, source :: sources, bytes =>
    if source.includedByteLength = 0 then verifyFrames (position + 1) sources bytes
    else
      match readBigEndian 2 bytes with
      | none => .error .invalidContextPolicy
      | some (encodedPosition, bytes) =>
        match readBigEndian 4 bytes with
        | none => .error .invalidContextPolicy
        | some (length, bytes) =>
          if encodedPosition ≠ position ∨ length ≠ source.includedByteLength.toNat ∨
              length > bytes.length then .error .invalidContextPolicy
          else if digest (bytes.take length) ≠ source.includedDigest then
            .error .invalidContextPolicy
          else verifyFrames (position + 1) sources (bytes.drop length)

/-- `verify_pack_encoding`. -/
def verifyPackEncoding (pack : ContextPack) : Except ConversationError Unit := do
  let expectedPrefix ← packHeader pack.conversationId pack.possibleSideEffects pack.policy
    pack.sourceManifest.length pack.manifestDigest pack.truncated
  if !expectedPrefix.isPrefixOf pack.bytes then .error .invalidContextPolicy
  else
    let rest ← verifyFrames digest 0 pack.sourceManifest
      (pack.bytes.drop expectedPrefix.length)
    if rest ≠ [] ∨ pack.omittedSourceCount ≠ omittedCount pack.sourceManifest then
      .error .invalidContextPolicy
    else .ok ()

/-- `ContextPack::verify`. -/
def ContextPack.verify (pack : ContextPack) : Except ConversationError Unit := do
  pack.policy.validate
  let canonicalManifest := pack.sourceManifest.all fun source => (source.validate digest).isOk
  if pack.sourceManifest.isEmpty ∨ pack.sourceManifest.length > maxContextSources ∨
      !canonicalManifest ∨ !pinnedIsComplete pack.sourceManifest ∨
      !sourceOrderIsCanonical pack.sourceManifest ∨ pack.bytes.isEmpty ∨
      pack.bytes.length > pack.policy.maxBytes ∨ pack.digest ≠ digest pack.bytes then
    .error .invalidContextPolicy
  else
    let manifestDigest ← digestManifest digest pack.sourceManifest
    if pack.manifestDigest ≠ manifestDigest ∨
        pack.omittedSourceCount ≠ omittedCount pack.sourceManifest ∨
        pack.truncated ≠ anyTruncated pack.sourceManifest then
      .error .invalidContextPolicy
    else verifyPackEncoding digest pack

/-- `ContextPack::from_persisted`. -/
def ContextPack.fromPersisted (conversationId : ConversationId)
    (possibleSideEffects : PossibleSideEffects) (policy : ContextPackPolicy)
    (manifest : List ContextSourceManifest) (bytes : List UInt8) (packDigest : BlobHash) :
    Except ConversationError ContextPack := do
  let manifestDigest ← digestManifest digest manifest
  let pack : ContextPack := {
    conversationId, possibleSideEffects, policy, manifestDigest, bytes
    sourceManifest := manifest
    digest := packDigest
    omittedSourceCount := omittedCount manifest
    truncated := anyTruncated manifest }
  pack.verify digest
  .ok pack

/-- `usize::checked_add`. -/
def checkedAdd (a b : Nat) : Option Nat := if a + b < 2 ^ 64 then some (a + b) else none

/-- `try_fold` over the content lengths. -/
def aggregateSourceBytes (start : Nat) (sources : List (ContextPackSource digest)) : Option Nat :=
  sources.foldlM (fun total source => checkedAdd total source.content.length) start

/-- The pinned source, then the optional ones in a stable sort by kind tag. -/
def orderedSources (input : ContextPackInput digest) : List (ContextPackSource digest) :=
  input.pinned.source ::
    input.optionalSources.insertionSort fun a b => contextKindTag a.kind ≤ contextKindTag b.kind

/-- The `eligible` flags: raw recent sources count only from the newest bounded tail. -/
def eligibleFlags (firstEligible : Nat) : Nat → List (ContextPackSource digest) → List Bool
  | _, [] => []
  | recentSeen, source :: rest =>
    if source.kind ≠ .recentRaw then true :: eligibleFlags firstEligible recentSeen rest
    else decide (recentSeen + 1 > firstEligible) :: eligibleFlags firstEligible (recentSeen + 1) rest

/-- The allocation loop over the optional sources and their flags. -/
def allocate : Nat → List (ContextPackSource digest × Bool) → List Nat
  | _, [] => []
  | remaining, (source, eligible) :: rest =>
    if !eligible || remaining ≤ 6 then 0 :: allocate remaining rest
    else
      let remainingSelected := ((source, eligible) :: rest).countP (·.2)
      let fairShare := (remaining - 6) / max remainingSelected 1
      let selected := min source.content.length fairShare
      selected :: allocate (remaining - (6 + selected)) rest

/-- The `eligible` flags of the ordered sources. -/
def eligibleSources (input : ContextPackInput digest) : List Bool :=
  let sources := orderedSources digest input
  let recentCount := sources.countP (·.kind == .recentRaw)
  eligibleFlags digest (recentCount - input.policy.recentItemLimit) 0 sources

/-- `represented`: the pinned source whole, then what is allotted to the others. -/
def representedLengths (input : ContextPackInput digest) : List Nat :=
  let pinnedLength := input.pinned.source.content.length
  let remaining := input.policy.maxBytes - encodedHeaderLength - 6 - pinnedLength
  pinnedLength ::
    allocate digest remaining (((orderedSources digest input).zip (eligibleSources digest input)).drop 1)

/-- The rest of `compile_context_pack`, from the represented lengths on. -/
def assemblePack (input : ContextPackInput digest) (sources : List (ContextPackSource digest))
    (represented : List Nat) : Except ConversationError ContextPack := do
  let manifest ← (sources.zip represented).mapM fun entry => sourceManifest digest entry.1 entry.2
  let manifestDigest ← digestManifest digest manifest
  let bytes ← encodePack digest input.conversationId input.possibleSideEffects input.policy
    manifestDigest (anyTruncated manifest) sources represented
  let pack : ContextPack := {
    conversationId := input.conversationId
    possibleSideEffects := input.possibleSideEffects
    policy := input.policy
    sourceManifest := manifest
    manifestDigest, bytes
    digest := digest bytes
    omittedSourceCount := omittedCount manifest
    truncated := anyTruncated manifest }
  pack.verify digest
  .ok pack

/-- `compile_context_pack`. -/
def compileContextPack (input : ContextPackInput digest) :
    Except ConversationError ContextPack := do
  input.policy.validate
  if input.optionalSources.length ≥ maxContextSources ∨
      input.optionalSources.any (·.kind == .pinnedRevision) then
    .error .invalidContextPolicy
  else
    match aggregateSourceBytes digest input.pinned.source.content.length input.optionalSources with
    | none => .error .invalidContextPolicy
    | some aggregate =>
      if aggregate > maxContextSourceInputBytes then .error .invalidContextPolicy
      else if encodedHeaderLength + 6 + input.pinned.source.content.length >
          input.policy.maxBytes then .error .invalidContextPolicy
      else
        assemblePack digest input (orderedSources digest input) (representedLengths digest input)

end Decodex.Source.Core.ContextPacks
