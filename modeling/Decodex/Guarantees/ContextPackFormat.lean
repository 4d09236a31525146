import Decodex.Source.Core.ContextPacks

/-!
# The Context Pack format is unambiguous

An independent description of an accepted pack's bytes: a fixed header, then one frame for
each manifest entry that includes bytes, in manifest order, and nothing else. The verifier
accepts exactly such bytes; the hashed manifest encoding determines the manifest. Hence, where
the digest separates the manifest encodings involved, equal bytes are equal packs.
-/
namespace Decodex.Guarantees.ContextPackFormat

open Decodex.Library Decodex.Source.Core Decodex.Source.Core.ContextPacks

/-- The fixed header for the given fields. -/
def headerBytes (conversationId : ConversationId) (possibleSideEffects : PossibleSideEffects)
    (policy : ContextPackPolicy) (sourceCount : Nat) (manifestDigest : BlobHash)
    (truncated : Bool) : List UInt8 :=
  contextPackMagic ++ (utf8 conversationId.text ++ (sideEffectTag possibleSideEffects ::
    (bigEndian 4 policy.maxBytes ++ (bigEndian 2 policy.recentItemLimit ++
      (bigEndian 2 sourceCount ++ (utf8 manifestDigest.toHex ++
        [if truncated then 1 else 0]))))))

/-- The frames of manifest entries beside their payloads, from `position` on. -/
def framesBytes : Nat → List (ContextSourceManifest × List UInt8) → List UInt8
  | _, [] => []
  | position, (source, payload) :: rest =>
    (if source.includedByteLength = 0 then []
      else bigEndian 2 position ++ (bigEndian 4 payload.length ++ payload)) ++
        framesBytes (position + 1) rest

variable (digest : List UInt8 → BlobHash)

/-- `payloads` are the represented bytes of the manifest entries, digest for digest. -/
def Represents (manifest : List ContextSourceManifest) (payloads : List (List UInt8)) : Prop :=
  List.Forall₂ (fun source payload => payload.length = source.includedByteLength.toNat ∧
    (source.includedByteLength ≠ 0 → digest payload = source.includedDigest)) manifest payloads

/-- The pack's bytes are its header and the frames of `payloads`, with nothing left over. -/
def Framed (pack : ContextPack) (payloads : List (List UInt8)) : Prop :=
  Represents digest pack.sourceManifest payloads ∧
    pack.bytes = headerBytes pack.conversationId pack.possibleSideEffects pack.policy
      pack.sourceManifest.length pack.manifestDigest pack.truncated ++
        framesBytes 0 (pack.sourceManifest.zip payloads)

/-- Entries that pass `ContextSourceManifest::validate`. -/
def Validated (source : ContextSourceManifest) : Prop := source.validate digest = .ok ()

theorem pushU16_eq_ok {value : Nat} {bytes : List UInt8} :
    pushU16 value = .ok bytes ↔ value < 256 ^ 2 ∧ bytes = bigEndian 2 value := by
  unfold pushU16
  split <;> simp_all [eq_comm]

theorem pushU32_eq_ok {value : Nat} {bytes : List UInt8} :
    pushU32 value = .ok bytes ↔ value < 256 ^ 4 ∧ bytes = bigEndian 4 value := by
  unfold pushU32
  split <;> simp_all [eq_comm]

theorem policy_fits (policy : ContextPackPolicy) :
    policy.maxBytes < 256 ^ 4 ∧ policy.recentItemLimit < 256 ^ 2 := by
  have bytes := policy.bytesBound.2
  have items := policy.itemsBound.2
  unfold maxContextPackBytes at bytes
  unfold maxContextRecentItems at items
  omega

theorem packHeader_eq_ok {conversationId : ConversationId}
    {possibleSideEffects : PossibleSideEffects} {policy : ContextPackPolicy} {sourceCount : Nat}
    {manifestDigest : BlobHash} {truncated : Bool} {bytes : List UInt8} :
    packHeader conversationId possibleSideEffects policy sourceCount manifestDigest truncated =
      .ok bytes ↔ sourceCount < 256 ^ 2 ∧
        bytes = headerBytes conversationId possibleSideEffects policy sourceCount manifestDigest
          truncated := by
  obtain ⟨maxFits, recentFits⟩ := policy_fits policy
  have maxBytes := pushU32_eq_ok.mpr ⟨maxFits, rfl⟩
  have recentItemLimit := pushU16_eq_ok.mpr ⟨recentFits, rfl⟩
  unfold packHeader
  simp only [maxBytes, recentItemLimit, bind, Except.bind]
  cases count : pushU16 sourceCount with
  | error error =>
    have : ¬sourceCount < 256 ^ 2 := fun fits => by
      rw [pushU16_eq_ok.mpr ⟨fits, rfl⟩] at count
      cases count
    constructor
    · intro written
      cases written
    · rintro ⟨fits, _⟩
      exact absurd fits this
  | ok countBytes =>
    obtain ⟨fits, rfl⟩ := pushU16_eq_ok.mp count
    constructor
    · rintro ⟨⟩
      exact ⟨fits, rfl⟩
    · rintro ⟨_, rfl⟩
      rfl

theorem headerBytes_length (conversationId : ConversationId)
    (possibleSideEffects : PossibleSideEffects) (policy : ContextPackPolicy) (sourceCount : Nat)
    (manifestDigest : BlobHash) (truncated : Bool) :
    (headerBytes conversationId possibleSideEffects policy sourceCount manifestDigest
      truncated).length = encodedHeaderLength := by
  simp only [headerBytes, encodedHeaderLength, List.length_append, List.length_cons,
    List.length_nil, bigEndian_length, CanonicalUuid.utf8_length, BlobHash.utf8_toHex_length]

/-- The frame loop of the verifier consumes exactly the frames of some payloads that the
manifest represents. -/
theorem verifyFrames_eq_ok {position : Nat} {manifest : List ContextSourceManifest}
    {bytes rest : List UInt8} (fits : position + manifest.length ≤ 256 ^ 2)
    (bounded : ∀ source ∈ manifest, source.includedByteLength.toNat < 256 ^ 4) :
    verifyFrames digest position manifest bytes = .ok rest ↔
      ∃ payloads, Represents digest manifest payloads ∧
        bytes = framesBytes position (manifest.zip payloads) ++ rest := by
  induction manifest generalizing position bytes with
  | nil =>
    simp only [verifyFrames, Except.ok.injEq, Represents, List.forall₂_nil_left_iff]
    simp [framesBytes]
  | cons source manifest ih =>
    rw [List.length_cons] at fits
    have tail := fun bytes => @ih (position + 1) bytes (by omega)
      fun other member => bounded other (List.mem_cons_of_mem _ member)
    have short := bounded source (by simp)
    have here : position < 256 ^ 2 := by omega
    by_cases empty : source.includedByteLength = 0
    · simp only [verifyFrames, empty, if_true, tail]
      constructor
      · rintro ⟨payloads, represents, rfl⟩
        exact ⟨[] :: payloads, .cons ⟨by simp [empty], fun h => absurd empty h⟩ represents, by
          simp [framesBytes, empty]⟩
      · rintro ⟨payloads, represents, rfl⟩
        cases represents with
        | cons _ represents => exact ⟨_, represents, by simp [framesBytes, empty]⟩
    · constructor
      · intro accepted
        simp only [verifyFrames, empty, if_false] at accepted
        split at accepted
        · cases accepted
        · rename_i encodedPosition afterPosition positionRead
          split at accepted
          · cases accepted
          · rename_i length afterLength lengthRead
            split at accepted
            · cases accepted
            · rename_i checks
              split at accepted
              · cases accepted
              · rename_i digestMatches
                push Not at checks
                obtain ⟨rfl, rfl, long⟩ := checks
                obtain ⟨rfl, _⟩ := readBigEndian_some positionRead
                obtain ⟨rfl, _⟩ := readBigEndian_some lengthRead
                obtain ⟨payloads, represents, rest⟩ := (tail _).mp accepted
                refine ⟨afterLength.take source.includedByteLength.toNat :: payloads,
                  .cons ⟨by simpa using long, fun _ => not_not.mp digestMatches⟩ represents, ?_⟩
                have taken : (afterLength.take source.includedByteLength.toNat).length =
                    source.includedByteLength.toNat := by simpa using long
                rw [List.zip_cons_cons, framesBytes, if_neg empty, taken]
                simp only [List.append_assoc, ← rest, List.take_append_drop]
      · rintro ⟨payloads, represents, rfl⟩
        cases represents with
        | @cons _ payload _ payloads head represents =>
          obtain ⟨payloadLength, payloadDigest⟩ := head
          simp only [List.zip_cons_cons, framesBytes, verifyFrames, empty, if_false,
            List.append_assoc]
          rw [readBigEndian_append 2 position here]
          dsimp only
          rw [readBigEndian_append 4 payload.length (by omega)]
          dsimp only
          rw [if_neg (by simp [payloadLength]), List.take_left, if_neg (by
            simpa using payloadDigest empty), List.drop_left]
          exact (tail _).mpr ⟨payloads, represents, rfl⟩

theorem policy_validate (policy : ContextPackPolicy) : policy.validate = .ok () := by
  have bytes := policy.bytesBound
  have items := policy.itemsBound
  unfold ContextPackPolicy.validate ContextPackPolicy.new
  rw [dif_neg (by simpa using bytes), dif_neg (by omega)]
  rfl

theorem validate_isOk {source : ContextSourceManifest} :
    (source.validate digest).isOk = true ↔ Validated digest source := by
  unfold Validated
  cases source.validate digest <;> simp [Except.isOk, Except.toBool]

/-- What a validated entry says about its fields. -/
theorem validated_iff {source : ContextSourceManifest} : Validated digest source ↔
    0 < (utf8 source.sourceId).length ∧ (utf8 source.sourceId).length ≤ 256 ∧
    source.revision ≠ 0 ∧ source.originalByteLength.toNat ≤ maxContextSourceInputBytes ∧
    source.includedByteLength ≤ source.originalByteLength ∧
    source.canonicalDisposition digest = true ∧
    canonicalArtifact source.kind source.sourceId source.revision source.artifact = true := by
  unfold Validated ContextSourceManifest.validate
  by_cases id : (utf8 source.sourceId).length = 0 ∨ (utf8 source.sourceId).length > 256
  · rw [if_pos id]
    simp only [reduceCtorEq, false_iff]
    omega
  · rw [if_neg id]
    by_cases revision : source.revision = 0
    · simp [revision]
    · rw [if_neg revision]
      by_cases lengths : source.originalByteLength.toNat > maxContextSourceInputBytes ∨
          source.includedByteLength > source.originalByteLength
      · rw [if_pos lengths]
        simp only [reduceCtorEq, false_iff]
        rintro ⟨_, _, _, original, included, _⟩
        rcases lengths with long | beyond
        · omega
        · exact absurd included (UInt64.not_le.mpr beyond)
      · rw [if_neg lengths]
        obtain ⟨original, included⟩ := not_or.mp lengths
        by_cases canonical : source.canonicalDisposition digest = true
        · by_cases artifact : canonicalArtifact source.kind source.sourceId source.revision
            source.artifact = true
          · rw [if_neg (by simp [canonical, artifact])]
            exact iff_of_true rfl ⟨by omega, by omega, revision, by omega,
              UInt64.not_lt.mp included, canonical, artifact⟩
          · simp [artifact]
        · simp [canonical]

theorem Validated.included_lt {source : ContextSourceManifest} (h : Validated digest source) :
    source.includedByteLength.toNat < 256 ^ 4 := by
  obtain ⟨_, _, _, original, included, _⟩ := (validated_iff digest).mp h
  have := UInt64.le_iff_toNat_le.mp included
  unfold maxContextSourceInputBytes at original
  omega

/-- Everything `verify` establishes about a pack. -/
structure Accepted (pack : ContextPack) : Prop where
  bounded : pack.sourceManifest.length ≤ maxContextSources
  validated : ∀ source ∈ pack.sourceManifest, Validated digest source
  pinned : pinnedIsComplete pack.sourceManifest = true
  ordered : sourceOrderIsCanonical pack.sourceManifest = true
  bytesBound : pack.bytes.length ≤ pack.policy.maxBytes
  digested : pack.digest = digest pack.bytes
  manifestDigested : digestManifest digest pack.sourceManifest = .ok pack.manifestDigest
  omitted : pack.omittedSourceCount = omittedCount pack.sourceManifest
  truncated : pack.truncated = anyTruncated pack.sourceManifest
  framed : ∃ payloads, Framed digest pack payloads

theorem pinned_nonempty {manifest : List ContextSourceManifest}
    (h : pinnedIsComplete manifest = true) : manifest.isEmpty = false := by
  cases manifest with
  | nil => cases h
  | cons => rfl

theorem verifyPackEncoding_eq_ok {pack : ContextPack}
    (bounded : pack.sourceManifest.length ≤ maxContextSources)
    (validated : ∀ source ∈ pack.sourceManifest, Validated digest source)
    (omitted : pack.omittedSourceCount = omittedCount pack.sourceManifest) :
    verifyPackEncoding digest pack = .ok () ↔ ∃ payloads, Framed digest pack payloads := by
  have fits : pack.sourceManifest.length < 256 ^ 2 := by
    unfold maxContextSources at bounded
    omega
  have header := packHeader_eq_ok.mpr (And.intro fits (Eq.refl (headerBytes pack.conversationId
    pack.possibleSideEffects pack.policy pack.sourceManifest.length pack.manifestDigest
    pack.truncated)))
  have frames := @verifyFrames_eq_ok digest 0 pack.sourceManifest
  unfold verifyPackEncoding Framed
  simp only [header, bind, Except.bind, omitted]
  generalize headerBytes pack.conversationId pack.possibleSideEffects pack.policy
    pack.sourceManifest.length pack.manifestDigest pack.truncated = expected at *
  constructor
  · intro accepted
    split at accepted
    · cases accepted
    · rename_i starts
      simp only [Bool.not_eq_true', Bool.not_eq_false, List.isPrefixOf_iff_prefix] at starts
      obtain ⟨behind, split⟩ := starts
      rw [← split, List.drop_left] at accepted
      cases read : verifyFrames digest 0 pack.sourceManifest behind with
      | error error => simp [read] at accepted
      | ok rest =>
        have : rest = [] := by
          by_contra left
          simp [read, left] at accepted
        subst this
        obtain ⟨payloads, represents, rfl⟩ := (frames (by omega)
          fun source member => (validated source member).included_lt).mp read
        exact ⟨payloads, represents, by simpa using split.symm⟩
  · rintro ⟨payloads, represents, bytes⟩
    have read := (@frames (framesBytes 0 (pack.sourceManifest.zip payloads)) [] (by omega)
      fun source member => (validated source member).included_lt).mpr
        ⟨payloads, represents, by simp⟩
    simp [bytes, read]

theorem framed_nonempty {pack : ContextPack} {payloads : List (List UInt8)}
    (framed : Framed digest pack payloads) : pack.bytes.isEmpty = false := by
  rw [← Bool.not_eq_true, List.isEmpty_iff, ← List.length_eq_zero_iff, framed.2,
    List.length_append, headerBytes_length]
  unfold encodedHeaderLength
  omega

/-- `ContextPack::verify` accepts exactly the described packs. -/
theorem verify_eq_ok {pack : ContextPack} : pack.verify digest = .ok () ↔ Accepted digest pack := by
  have validatedIff : (pack.sourceManifest.all fun source => (source.validate digest).isOk) = true ↔
      ∀ source ∈ pack.sourceManifest, Validated digest source := by
    simp only [List.all_eq_true, validate_isOk]
  unfold ContextPack.verify
  simp only [policy_validate, bind, Except.bind]
  constructor
  · intro accepted
    split at accepted
    · cases accepted
    · rename_i checks
      push Not at checks
      obtain ⟨_, bounded, validated, pinned, ordered, _, bytesBound, digested⟩ := checks
      simp only [ne_eq, Bool.not_eq_true', Bool.not_eq_false] at validated pinned ordered
      rw [validatedIff] at validated
      cases manifestDigest : digestManifest digest pack.sourceManifest with
      | error error => simp [manifestDigest] at accepted
      | ok expected =>
        simp only [manifestDigest] at accepted
        split at accepted
        · cases accepted
        · rename_i bound
          push Not at bound
          obtain ⟨rfl, omitted, truncated⟩ := bound
          exact ⟨bounded, validated, pinned, ordered, bytesBound, digested, manifestDigest,
            omitted, truncated, (verifyPackEncoding_eq_ok digest bounded validated omitted).mp
              accepted⟩
  · intro h
    obtain ⟨payloads, framed⟩ := h.framed
    have bounded := h.bounded
    have bytesBound := h.bytesBound
    have nonempty := pinned_nonempty h.pinned
    rw [if_neg (by simp [validatedIff.mpr h.validated, h.pinned, h.ordered, ← h.digested,
      framed_nonempty digest framed, nonempty, bounded, bytesBound])]
    simp only [h.manifestDigested]
    rw [if_neg (by simp [h.omitted, h.truncated])]
    exact (verifyPackEncoding_eq_ok digest h.bounded h.validated h.omitted).mpr ⟨payloads, framed⟩

/-- The pack `from_persisted` builds before it verifies. -/
def persistedPack (conversationId : ConversationId) (possibleSideEffects : PossibleSideEffects)
    (policy : ContextPackPolicy) (manifest : List ContextSourceManifest) (bytes : List UInt8)
    (packDigest manifestDigest : BlobHash) : ContextPack where
  conversationId := conversationId
  possibleSideEffects := possibleSideEffects
  policy := policy
  sourceManifest := manifest
  manifestDigest := manifestDigest
  bytes := bytes
  digest := packDigest
  omittedSourceCount := omittedCount manifest
  truncated := anyTruncated manifest

theorem fromPersisted_eq_ok {conversationId : ConversationId}
    {possibleSideEffects : PossibleSideEffects} {policy : ContextPackPolicy}
    {manifest : List ContextSourceManifest} {bytes : List UInt8} {packDigest : BlobHash}
    {pack : ContextPack} :
    ContextPack.fromPersisted digest conversationId possibleSideEffects policy manifest bytes
      packDigest = .ok pack ↔
      pack = persistedPack conversationId possibleSideEffects policy manifest bytes packDigest
        pack.manifestDigest ∧ Accepted digest pack := by
  unfold ContextPack.fromPersisted
  cases digested : digestManifest digest manifest with
  | error error =>
    simp only [bind, Except.bind, reduceCtorEq, false_iff]
    rintro ⟨same, accepted⟩
    have := accepted.manifestDigested
    rw [same] at this
    simp [persistedPack, digested] at this
  | ok manifestDigest =>
    simp only [bind, Except.bind]
    constructor
    · intro built
      split at built
      · cases built
      · rename_i verified
        cases built
        exact ⟨rfl, (verify_eq_ok digest).mp verified⟩
    · rintro ⟨same, accepted⟩
      have agreed := accepted.manifestDigested
      rw [same] at agreed
      simp only [persistedPack, digested, Except.ok.injEq] at agreed
      rw [← agreed] at same
      have verified := (verify_eq_ok digest).mpr accepted
      rw [same] at verified ⊢
      unfold persistedPack at verified
      rw [verified]
      rfl

theorem contextKindTag_injective {a b : ContextSourceKind}
    (same : contextKindTag a = contextKindTag b) : a = b := by
  cases a <;> cases b <;> first | rfl | (revert same; decide)

theorem dispositionTag_injective {a b : ContextSourceDisposition}
    (same : dispositionTag a = dispositionTag b) : a = b := by
  cases a <;> cases b <;> first | rfl | (revert same; decide)

theorem sideEffectTag_injective {a b : PossibleSideEffects}
    (same : sideEffectTag a = sideEffectTag b) : a = b := by
  cases a <;> cases b <;> first | rfl | (revert same; decide)

theorem delimited_u64 : Delimited (fun _ : UInt64 => True) fun value => bigEndian 8 value.toNat :=
  .fixed 8 (fun value _ => bigEndian_length 8 value.toNat) fun a b _ _ same =>
    UInt64.toNat_inj.mp (bigEndian_injective (by have := a.toNat_lt; omega)
      (by have := b.toNat_lt; omega) same)

theorem delimited_hash : Delimited (fun _ : BlobHash => True) fun hash => utf8 hash.toHex :=
  .fixed 64 (fun hash _ => hash.utf8_toHex_length) fun _ _ _ _ same =>
    BlobHash.eq_of_utf8_toHex same

theorem delimited_uuid : Delimited (fun _ : CanonicalUuid => True) fun id => utf8 id.text :=
  .fixed 36 (fun id _ => id.utf8_length) fun _ _ _ _ same => CanonicalUuid.eq_of_utf8 same

theorem delimited_artifact : Delimited (fun _ => True) artifactBytes := by
  intro a b rest rest' _ _ same
  cases a with
  | none =>
    cases b with
    | none => exact ⟨rfl, by simpa [artifactBytes] using same⟩
    | some b => simp [artifactBytes] at same
  | some a =>
    cases b with
    | none => simp [artifactBytes] at same
    | some b =>
      simp only [artifactBytes, List.cons_append, List.append_assoc, List.cons.injEq,
        true_and] at same
      obtain ⟨ids, tail⟩ := delimited_uuid _ _ _ _ trivial trivial same
      obtain ⟨revisions, tail⟩ := delimited_u64 _ _ _ _ trivial trivial tail
      exact ⟨congrArg some (Prod.ext ids revisions), tail⟩

/-- The bytes of one entry whose source id fits its length prefix. -/
def entryBytes (source : ContextSourceManifest) : List UInt8 :=
  contextKindTag source.kind :: ((bigEndian 2 (utf8 source.sourceId).length ++
    utf8 source.sourceId) ++ (bigEndian 8 source.revision.toNat ++
    (utf8 source.contentDigest.toHex ++ (bigEndian 8 source.originalByteLength.toNat ++
      (bigEndian 8 source.includedByteLength.toNat ++ (utf8 source.includedDigest.toHex ++
        (dispositionTag source.disposition :: artifactBytes source.artifact)))))))

/-- Every field of an entry is delimited, so the entry is. -/
theorem delimited_entry :
    Delimited (fun source => (utf8 source.sourceId).length < 256 ^ 2) entryBytes := by
  intro a b rest rest' fitsA fitsB same
  rcases a with ⟨kind, id, revision, content, original, included, represented, disposition, artifact⟩
  rcases b with ⟨kind', id', revision', content', original', included', represented',
    disposition', artifact'⟩
  simp only [entryBytes, List.cons_append, List.append_assoc, List.cons.injEq] at same
  obtain ⟨kinds, same⟩ := same
  have ids := delimited_lengthPrefix 2 (utf8 id) (utf8 id') _ _ fitsA fitsB
    (by simpa only [List.append_assoc] using same)
  obtain ⟨ids, same⟩ := ids
  obtain ⟨revisions, same⟩ := delimited_u64 _ _ _ _ trivial trivial same
  obtain ⟨contents, same⟩ := delimited_hash _ _ _ _ trivial trivial same
  obtain ⟨originals, same⟩ := delimited_u64 _ _ _ _ trivial trivial same
  obtain ⟨includeds, same⟩ := delimited_u64 _ _ _ _ trivial trivial same
  obtain ⟨representeds, same⟩ := delimited_hash _ _ _ _ trivial trivial same
  obtain ⟨dispositions, same⟩ := List.cons.inj same
  obtain ⟨artifacts, same⟩ := delimited_artifact _ _ _ _ trivial trivial same
  refine ⟨?_, same⟩
  rw [contextKindTag_injective kinds, utf8_injective ids, revisions, contents, originals,
    includeds, representeds, dispositionTag_injective dispositions, artifacts]

theorem manifestEntryBytes_eq_ok {source : ContextSourceManifest} {bytes : List UInt8} :
    manifestEntryBytes source = .ok bytes ↔
      (utf8 source.sourceId).length < 256 ^ 2 ∧ bytes = entryBytes source := by
  unfold manifestEntryBytes pushBytesU16
  cases length : pushU16 (utf8 source.sourceId).length with
  | error error =>
    simp only [bind, Except.bind, reduceCtorEq, false_iff]
    rintro ⟨fits, _⟩
    rw [pushU16_eq_ok.mpr ⟨fits, rfl⟩] at length
    cases length
  | ok lengthBytes =>
    obtain ⟨fits, rfl⟩ := pushU16_eq_ok.mp length
    simp only [bind, Except.bind, Except.ok.injEq]
    constructor
    · rintro rfl
      exact ⟨fits, rfl⟩
    · rintro ⟨_, rfl⟩
      rfl

theorem manifestEntriesBytes_eq_ok {manifest : List ContextSourceManifest} {bytes : List UInt8} :
    manifestEntriesBytes manifest = .ok bytes ↔
      (∀ source ∈ manifest, (utf8 source.sourceId).length < 256 ^ 2) ∧
        bytes = manifest.flatMap entryBytes := by
  induction manifest generalizing bytes with
  | nil => simp [manifestEntriesBytes, eq_comm]
  | cons source manifest ih =>
    unfold manifestEntriesBytes
    cases entry : manifestEntryBytes source with
    | error error =>
      simp only [bind, Except.bind, reduceCtorEq, false_iff]
      rintro ⟨fits, _⟩
      rw [manifestEntryBytes_eq_ok.mpr ⟨fits source (by simp), rfl⟩] at entry
      cases entry
    | ok entryEncoded =>
      obtain ⟨fits, rfl⟩ := manifestEntryBytes_eq_ok.mp entry
      cases entries : manifestEntriesBytes manifest with
      | error error =>
        simp only [bind, Except.bind, reduceCtorEq, false_iff]
        rintro ⟨all, _⟩
        rw [ih.mpr ⟨fun other member => all other (List.mem_cons_of_mem _ member), rfl⟩] at entries
        cases entries
      | ok encoded =>
        obtain ⟨others, rfl⟩ := ih.mp entries
        simp only [bind, Except.bind, Except.ok.injEq, List.forall_mem_cons, List.flatMap_cons]
        constructor
        · rintro rfl
          exact ⟨⟨fits, others⟩, rfl⟩
        · rintro ⟨_, rfl⟩
          rfl

theorem manifestBytes_eq_ok {manifest : List ContextSourceManifest} {bytes : List UInt8} :
    manifestBytes manifest = .ok bytes ↔ manifest.length < 256 ^ 2 ∧
      (∀ source ∈ manifest, (utf8 source.sourceId).length < 256 ^ 2) ∧
        bytes = bigEndian 2 manifest.length ++ manifest.flatMap entryBytes := by
  unfold manifestBytes
  cases count : pushU16 manifest.length with
  | error error =>
    simp only [bind, Except.bind, reduceCtorEq, false_iff]
    rintro ⟨fits, _⟩
    rw [pushU16_eq_ok.mpr ⟨fits, rfl⟩] at count
    cases count
  | ok countBytes =>
    obtain ⟨fits, rfl⟩ := pushU16_eq_ok.mp count
    cases entries : manifestEntriesBytes manifest with
    | error error =>
      simp only [bind, Except.bind, reduceCtorEq, false_iff]
      rintro ⟨_, all, _⟩
      rw [manifestEntriesBytes_eq_ok.mpr ⟨all, rfl⟩] at entries
      cases entries
    | ok encoded =>
      obtain ⟨all, rfl⟩ := manifestEntriesBytes_eq_ok.mp entries
      simp only [bind, Except.bind, Except.ok.injEq]
      constructor
      · rintro rfl
        exact ⟨fits, all, rfl⟩
      · rintro ⟨_, _, rfl⟩
        rfl

/-- The bytes `digest_manifest` hashes determine the manifest. -/
theorem manifestBytes_injective {l m : List ContextSourceManifest} {bytes : List UInt8}
    (left : manifestBytes l = .ok bytes) (right : manifestBytes m = .ok bytes) : l = m := by
  obtain ⟨fitsL, idsL, rfl⟩ := manifestBytes_eq_ok.mp left
  obtain ⟨fitsM, idsM, same⟩ := manifestBytes_eq_ok.mp right
  obtain ⟨lengths, entries⟩ := delimited_bigEndian 2 _ _ _ _ fitsL fitsM same
  have flat : l.flatMap entryBytes ++ [] = m.flatMap entryBytes ++ [] := by rw [entries]
  exact (delimited_entry.flatMap lengths idsL idsM flat).1

theorem policy_eq {a b : ContextPackPolicy} (maxBytes : a.maxBytes = b.maxBytes)
    (recent : a.recentItemLimit = b.recentItemLimit) : a = b := by
  cases a
  cases b
  cases maxBytes
  cases recent
  rfl

theorem headerBytes_injective {a b : ContextPack} (fitsA : a.sourceManifest.length < 256 ^ 2)
    (fitsB : b.sourceManifest.length < 256 ^ 2)
    (same : headerBytes a.conversationId a.possibleSideEffects a.policy a.sourceManifest.length
        a.manifestDigest a.truncated =
      headerBytes b.conversationId b.possibleSideEffects b.policy b.sourceManifest.length
        b.manifestDigest b.truncated) :
    a.conversationId = b.conversationId ∧ a.possibleSideEffects = b.possibleSideEffects ∧
      a.policy = b.policy ∧ a.manifestDigest = b.manifestDigest ∧ a.truncated = b.truncated := by
  obtain ⟨maxA, recentA⟩ := policy_fits a.policy
  obtain ⟨maxB, recentB⟩ := policy_fits b.policy
  have same := List.append_cancel_left same
  obtain ⟨conversations, same⟩ := delimited_uuid _ _ _ _ trivial trivial same
  obtain ⟨effects, same⟩ := List.cons.inj same
  obtain ⟨maxBytes, same⟩ := delimited_bigEndian 4 _ _ _ _ maxA maxB same
  obtain ⟨recent, same⟩ := delimited_bigEndian 2 _ _ _ _ recentA recentB same
  obtain ⟨_, same⟩ := delimited_bigEndian 2 _ _ _ _ fitsA fitsB same
  obtain ⟨digests, same⟩ := delimited_hash _ _ _ _ trivial trivial same
  refine ⟨conversations, sideEffectTag_injective effects, policy_eq maxBytes recent, digests, ?_⟩
  revert same
  cases a.truncated <;> cases b.truncated <;> decide

/-- Equal frames of one manifest carry equal payloads. -/
theorem framesBytes_injective {position : Nat} {manifest : List ContextSourceManifest}
    {payloads payloads' : List (List UInt8)} (left : Represents digest manifest payloads)
    (right : Represents digest manifest payloads')
    (same : framesBytes position (manifest.zip payloads) =
      framesBytes position (manifest.zip payloads')) : payloads = payloads' := by
  induction manifest generalizing position payloads payloads' with
  | nil =>
    cases left
    cases right
    rfl
  | cons source manifest ih =>
    cases left with
    | @cons _ payload _ payloads head left =>
      cases right with
      | @cons _ payload' _ payloads' head' right =>
        have lengths : payload.length = payload'.length := head.1.trans head'.1.symm
        simp only [List.zip_cons_cons, framesBytes] at same
        have frames : (if source.includedByteLength = 0 then []
            else bigEndian 2 position ++ (bigEndian 4 payload.length ++ payload)).length =
            (if source.includedByteLength = 0 then []
              else bigEndian 2 position ++ (bigEndian 4 payload'.length ++ payload')).length := by
          split <;> simp [lengths]
        obtain ⟨front, back⟩ := List.append_inj same frames
        have payloadsEq : payload = payload' := by
          by_cases empty : source.includedByteLength = 0
          · have none : payload.length = 0 := by simp [head.1, empty]
            have none' : payload'.length = 0 := lengths ▸ none
            rw [List.length_eq_zero_iff.mp none, List.length_eq_zero_iff.mp none']
          · rw [if_neg empty, if_neg empty, lengths] at front
            exact List.append_cancel_left (List.append_cancel_left front)
        rw [payloadsEq, ih left right back]

/-- A pack that `from_persisted` can return. -/
def Persisted (pack : ContextPack) : Prop :=
  ∃ conversationId possibleSideEffects policy manifest bytes packDigest,
    ContextPack.fromPersisted digest conversationId possibleSideEffects policy manifest bytes
      packDigest = .ok pack

theorem Persisted.accepted {pack : ContextPack} (h : Persisted digest pack) :
    Accepted digest pack := by
  obtain ⟨_, _, _, _, _, _, built⟩ := h
  exact ((fromPersisted_eq_ok digest).mp built).2

/-- Two accepted packs with equal bytes are equal, if the digest separates the encodings of
their two manifests. -/
theorem accepted_eq_of_bytes {a b : ContextPack} (left : Accepted digest a)
    (right : Accepted digest b) (same : a.bytes = b.bytes)
    (separates : ∀ encoded encoded', manifestBytes a.sourceManifest = .ok encoded →
      manifestBytes b.sourceManifest = .ok encoded' → digest encoded = digest encoded' →
        encoded = encoded') : a = b := by
  obtain ⟨payloads, _, bytesA⟩ := left.framed
  obtain ⟨payloads', _, bytesB⟩ := right.framed
  have small : ∀ pack, Accepted digest pack → pack.sourceManifest.length < 256 ^ 2 := by
    intro pack accepted
    have := accepted.bounded
    unfold maxContextSources at this
    omega
  have headers := same
  rw [bytesA, bytesB] at headers
  obtain ⟨headers, _⟩ := List.append_inj headers (by rw [headerBytes_length, headerBytes_length])
  obtain ⟨conversations, effects, policies, digests, truncated⟩ :=
    headerBytes_injective (small a left) (small b right) headers
  have manifests : a.sourceManifest = b.sourceManifest := by
    have digestedA := left.manifestDigested
    have digestedB := right.manifestDigested
    unfold digestManifest at digestedA digestedB
    cases encodedA : manifestBytes a.sourceManifest with
    | error error => simp [encodedA, bind, Except.bind] at digestedA
    | ok encoded =>
      cases encodedB : manifestBytes b.sourceManifest with
      | error error => simp [encodedB, bind, Except.bind] at digestedB
      | ok encoded' =>
        simp only [encodedA, encodedB, bind, Except.bind, Except.ok.injEq] at digestedA digestedB
        have := separates encoded encoded' encodedA encodedB
          (by rw [digestedA, digestedB, digests])
        exact manifestBytes_injective encodedA (this ▸ encodedB)
  have omitted := left.omitted
  rw [manifests, ← right.omitted] at omitted
  have packDigests := left.digested
  rw [same, ← right.digested] at packDigests
  cases a
  cases b
  simp_all

/-- `from_persisted` accepts only the header and the non-empty frames of the manifest, with
nothing left over; the hashed manifest encoding is injective; and where the digest separates
the manifest encodings of two accepted packs, equal bytes mean equal packs that carry the
same payload for the same source. -/
theorem contextPack_encoding_unambiguous :
    (∀ conversationId possibleSideEffects policy manifest bytes packDigest pack,
      ContextPack.fromPersisted digest conversationId possibleSideEffects policy manifest bytes
        packDigest = .ok pack →
      ∃ encoded payloads, manifestBytes manifest = .ok encoded ∧
        Represents digest manifest payloads ∧
        bytes = headerBytes conversationId possibleSideEffects policy manifest.length
          (digest encoded) (anyTruncated manifest) ++ framesBytes 0 (manifest.zip payloads)) ∧
    (∀ l m bytes, (∀ source ∈ l, Validated digest source) →
      (∀ source ∈ m, Validated digest source) → manifestBytes l = .ok bytes →
        manifestBytes m = .ok bytes → l = m) ∧
    ∀ a b, Persisted digest a → Persisted digest b → a.bytes = b.bytes →
      (∀ encoded encoded', manifestBytes a.sourceManifest = .ok encoded →
        manifestBytes b.sourceManifest = .ok encoded' → digest encoded = digest encoded' →
          encoded = encoded') →
      a = b ∧ ∀ payloads payloads', Framed digest a payloads → Framed digest b payloads' →
        payloads = payloads' := by
  refine ⟨?_, fun l m bytes _ _ left right => manifestBytes_injective left right, ?_⟩
  · intro conversationId possibleSideEffects policy manifest bytes packDigest pack built
    obtain ⟨same, accepted⟩ := (fromPersisted_eq_ok digest).mp built
    obtain ⟨payloads, represents, framed⟩ := accepted.framed
    have digested := accepted.manifestDigested
    unfold digestManifest at digested
    cases encoding : manifestBytes pack.sourceManifest with
    | error error => simp [encoding, bind, Except.bind] at digested
    | ok encoded =>
      simp only [encoding, bind, Except.bind, Except.ok.injEq] at digested
      rw [← digested] at same framed
      subst same
      exact ⟨encoded, payloads, encoding, represents, framed⟩
  · intro a b left right same separates
    have equal := accepted_eq_of_bytes digest left.accepted right.accepted same separates
    subst equal
    refine ⟨rfl, fun payloads payloads' framed framed' => ?_⟩
    exact framesBytes_injective digest framed.1 framed'.1
      (List.append_cancel_left (framed.2.symm.trans framed'.2))

end Decodex.Guarantees.ContextPackFormat
