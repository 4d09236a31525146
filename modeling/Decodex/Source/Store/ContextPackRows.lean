import Decodex.Source.Core.ContextPacks
import Decodex.Source.Store.Error

/-!
# Persisted Context Packs

Source: database/src/continuations.rs:64-77 (`PersistedContextSourceManifest`), 898-939
(`persist_context_pack`), 941-1074 (`read_context_pack`, `serialize_context_manifest`,
`parse_context_manifest`), 1076-1110 (column texts).
`serde_json` is the pair of parameters `toJson` and `fromJson`; the blob store is the
parameter `readBlob`. The columns no reader uses (id, creation time) are left out.
-/
namespace Decodex.Source.Store.ContextPackRows

open Decodex.Source.Core Decodex.Source.Core.ContextPacks

structure PersistedContextSourceManifest where
  kind : ContextSourceKind
  sourceId : String
  revision : UInt64
  contentDigest : String
  originalByteLength : UInt64
  includedByteLength : UInt64
  includedDigest : String
  disposition : String
  artifactId : Option String
  artifactRevision : Option UInt64
  deriving DecidableEq

/-- `.map_err(|_| incompatible(reason))`. -/
def orIncompatible {ε α : Type} (reason : String) : Except ε α → Except StoreError α
  | .ok value => .ok value
  | .error _ => .error (incompatible reason)

/-- The same for a parser that only says whether it succeeded. -/
def someOrIncompatible {α : Type} (reason : String) : Option α → Except StoreError α
  | some value => .ok value
  | none => .error (incompatible reason)

def dispositionText : ContextSourceDisposition → String
  | .complete => "complete"
  | .truncated => "truncated"
  | .omitted => "omitted"

def parseDisposition (value : String) : Except StoreError ContextSourceDisposition :=
  if value = "complete" then .ok .complete
  else if value = "truncated" then .ok .truncated
  else if value = "omitted" then .ok .omitted
  else .error (incompatible "Context Pack source disposition")

def sideEffectsText : PossibleSideEffects → String
  | .none => "none"
  | .possible => "possible"
  | .unknown => "unknown"

def parseSideEffects (value : String) : Except StoreError PossibleSideEffects :=
  if value = "none" then .ok .none
  else if value = "possible" then .ok .possible
  else if value = "unknown" then .ok .unknown
  else .error (incompatible "Context Pack side-effect state")

def persistedSource (source : ContextSourceManifest) : PersistedContextSourceManifest where
  kind := source.kind
  sourceId := source.sourceId
  revision := source.revision
  contentDigest := source.contentDigest.toHex
  originalByteLength := source.originalByteLength
  includedByteLength := source.includedByteLength
  includedDigest := source.includedDigest.toHex
  disposition := dispositionText source.disposition
  artifactId := source.artifact.map (·.1.text)
  artifactRevision := source.artifact.map (·.2)

def serializeContextManifest (toJson : List PersistedContextSourceManifest → Option String)
    (pack : ContextPack) : Except StoreError String :=
  match toJson (pack.sourceManifest.map persistedSource) with
  | some text => .ok text
  | none => .error (.invalidInput "Context Pack manifest is invalid")

/-- The artifact reference of a stored row: both columns or neither. -/
def parseArtifact : Option String → Option UInt64 →
    Except StoreError (Option (ArtifactId × UInt64))
  | some id, some revision => do
    let id ← someOrIncompatible "Context Pack Artifact" (CanonicalUuid.parse? id)
    .ok (some (id, revision))
  | none, none => .ok none
  | _, _ => .error (incompatible "Context Pack Artifact")

variable (digest : List UInt8 → BlobHash)

def parseSource (row : PersistedContextSourceManifest) :
    Except StoreError ContextSourceManifest := do
  let artifact ← parseArtifact row.artifactId row.artifactRevision
  let contentDigest ← someOrIncompatible "Context Pack source digest"
    (BlobHash.parse row.contentDigest)
  let includedDigest ← someOrIncompatible "Context Pack included digest"
    (BlobHash.parse row.includedDigest)
  let disposition ← parseDisposition row.disposition
  orIncompatible "Context Pack manifest source" (ContextSourceManifest.fromPersisted digest {
    kind := row.kind
    sourceId := row.sourceId
    revision := row.revision
    contentDigest
    originalByteLength := row.originalByteLength
    includedByteLength := row.includedByteLength
    includedDigest, disposition, artifact })

def parseContextManifest (fromJson : String → Option (List PersistedContextSourceManifest))
    (value : String) : Except StoreError (List ContextSourceManifest) := do
  let rows ← someOrIncompatible "Context Pack manifest" (fromJson value)
  rows.mapM (parseSource digest)

/-- The columns of `context_packs` that `read_context_pack` reads. -/
structure ContextPackRow where
  conversationId : String
  packRevision : Int
  possibleSideEffects : String
  policyMaxBytes : Int
  policyRecentItemLimit : Int
  manifestJson : String
  manifestSha256 : String
  compiledSha256 : String
  byteLength : Int
  truncated : Bool
  omittedSourceCount : Int
  deriving DecidableEq

/-- The row `persist_context_pack` inserts. -/
def contextPackRow (pack : ContextPack) (manifestJson : String) : ContextPackRow where
  conversationId := pack.conversationId.text
  packRevision := 1
  possibleSideEffects := sideEffectsText pack.possibleSideEffects
  policyMaxBytes := pack.policy.maxBytes
  policyRecentItemLimit := pack.policy.recentItemLimit
  manifestJson := manifestJson
  manifestSha256 := pack.manifestDigest.toHex
  compiledSha256 := pack.digest.toHex
  byteLength := pack.bytes.length
  truncated := pack.truncated
  omittedSourceCount := pack.omittedSourceCount

/-- `usize::try_from` of a stored integer. -/
def nonnegative (reason : String) (value : Int) : Except StoreError Nat :=
  if 0 ≤ value then .ok value.toNat else .error (incompatible reason)

/-- `read_context_pack`; the record's other fields repeat the row. -/
def readContextPack (fromJson : String → Option (List PersistedContextSourceManifest))
    (readBlob : BlobHash → Option (List UInt8)) (expectedConversationId : ContextPacks.ConversationId)
    (row : ContextPackRow) : Except StoreError ContextPack := do
  let conversationId ← someOrIncompatible "Context Pack Conversation"
    (CanonicalUuid.parse? row.conversationId)
  if conversationId ≠ expectedConversationId ∨ row.packRevision ≠ 1 then
    .error (incompatible "Context Pack lineage")
  else
    let possibleSideEffects ← parseSideEffects row.possibleSideEffects
    let maxBytes ← nonnegative "Context Pack policy" row.policyMaxBytes
    let recentItemLimit ← nonnegative "Context Pack policy" row.policyRecentItemLimit
    let policy ← orIncompatible "Context Pack policy"
      (ContextPackPolicy.new maxBytes recentItemLimit)
    let manifest ← parseContextManifest digest fromJson row.manifestJson
    let compiledDigest ← someOrIncompatible "Context Pack digest"
      (BlobHash.parse row.compiledSha256)
    match readBlob compiledDigest with
    | none => .error .blob
    | some bytes =>
      let pack ← orIncompatible "Context Pack content" (ContextPack.fromPersisted digest
        conversationId possibleSideEffects policy manifest bytes compiledDigest)
      let byteLength ← nonnegative "Context Pack length" row.byteLength
      let omittedSourceCount ← nonnegative "Context Pack omission count" row.omittedSourceCount
      if pack.manifestDigest.toHex ≠ row.manifestSha256 ∨ pack.bytes.length ≠ byteLength ∨
          pack.truncated ≠ row.truncated ∨ pack.omittedSourceCount ≠ omittedSourceCount then
        .error (incompatible "Context Pack metadata")
      else .ok pack

theorem parseDisposition_text (disposition : ContextSourceDisposition) :
    parseDisposition (dispositionText disposition) = .ok disposition := by
  cases disposition <;> decide

theorem parseSideEffects_text (possibleSideEffects : PossibleSideEffects) :
    parseSideEffects (sideEffectsText possibleSideEffects) = .ok possibleSideEffects := by
  cases possibleSideEffects <;> decide

theorem parseArtifact_persisted (artifact : Option (ArtifactId × UInt64)) :
    parseArtifact (artifact.map (·.1.text)) (artifact.map (·.2)) = .ok artifact := by
  cases artifact with
  | none => rfl
  | some artifact =>
    simp [parseArtifact, CanonicalUuid.parse?_text, someOrIncompatible, bind, Except.bind]

/-- A validated manifest entry survives its row. -/
theorem parseSource_persistedSource {source : ContextSourceManifest}
    (validated : source.validate digest = .ok ()) :
    parseSource digest (persistedSource source) = .ok source := by
  unfold parseSource persistedSource
  simp [parseArtifact_persisted, BlobHash.parse_toHex, parseDisposition_text, someOrIncompatible,
    ContextSourceManifest.fromPersisted, validated, orIncompatible, bind, Except.bind]

theorem mapM_parseSource {manifest : List ContextSourceManifest}
    (validated : ∀ source ∈ manifest, source.validate digest = .ok ()) :
    (manifest.map persistedSource).mapM (parseSource digest) = .ok manifest := by
  induction manifest with
  | nil => rfl
  | cons source manifest ih =>
    have head := parseSource_persistedSource digest (validated source (by simp))
    have tail := ih fun other member => validated other (List.mem_cons_of_mem _ member)
    simp [List.map_cons, List.mapM_cons, head, tail, bind, Except.bind, pure, Except.pure]

theorem parseContextManifest_serialized {pack : ContextPack}
    {toJson : List PersistedContextSourceManifest → Option String}
    {fromJson : String → Option (List PersistedContextSourceManifest)} {text : String}
    (validated : ∀ source ∈ pack.sourceManifest, source.validate digest = .ok ())
    (written : toJson (pack.sourceManifest.map persistedSource) = some text)
    (read : fromJson text = some (pack.sourceManifest.map persistedSource)) :
    serializeContextManifest toJson pack = .ok text ∧
      parseContextManifest digest fromJson text = .ok pack.sourceManifest := by
  refine ⟨by simp [serializeContextManifest, written], ?_⟩
  unfold parseContextManifest
  simp only [read, someOrIncompatible, bind, Except.bind]
  exact mapM_parseSource digest validated

end Decodex.Source.Store.ContextPackRows
