import Decodex.Guarantees.ContextPackFormat
import Decodex.Source.Store.ContextPackRows

/-!
# Context Pack compilation, verification and persistence agree

Under four conditions on the input no later step of `compile_context_pack` can fail, and
without them it fails. What it returns fits its policy, passes `verify`, and comes back
unchanged from `from_persisted` and from the stored manifest rows.
-/
namespace Decodex.Guarantees.ContextPackCompile

open Decodex.Library Decodex.Source.Core Decodex.Source.Core.ContextPacks
open Decodex.Guarantees.ContextPackFormat
open Decodex.Source.Store Decodex.Source.Store.ContextPackRows

variable (digest : List UInt8 → BlobHash)

/-- Bytes of the frame for an included length. -/
def frameSize (included : Nat) : Nat := if included = 0 then 0 else 6 + included

theorem allocate_length (remaining : Nat) (entries : List (ContextPackSource digest × Bool)) :
    (allocate digest remaining entries).length = entries.length := by
  induction entries generalizing remaining with
  | nil => rfl
  | cons entry entries ih =>
    rcases entry with ⟨source, eligible⟩
    unfold allocate
    split <;> simp [ih]

/-- No source is allotted more than it has. -/
theorem allocate_within (remaining : Nat) (entries : List (ContextPackSource digest × Bool)) :
    List.Forall₂ (fun entry included => included ≤ entry.1.content.length) entries
      (allocate digest remaining entries) := by
  induction entries generalizing remaining with
  | nil => exact .nil
  | cons entry entries ih =>
    rcases entry with ⟨source, eligible⟩
    unfold allocate
    split
    · exact .cons (Nat.zero_le _) (ih _)
    · exact .cons (Nat.min_le_left _ _) (ih _)

/-- The frames of the allotted bytes fit in what remained. -/
theorem allocate_frames_le (remaining : Nat) (entries : List (ContextPackSource digest × Bool)) :
    ((allocate digest remaining entries).map frameSize).sum ≤ remaining := by
  induction entries generalizing remaining with
  | nil => exact Nat.zero_le _
  | cons entry entries ih =>
    rcases entry with ⟨source, eligible⟩
    unfold allocate
    split
    · simpa [frameSize] using ih remaining
    · rename_i admitted
      have room : 6 < remaining := by
        simp only [Bool.or_eq_true, decide_eq_true_eq, not_or, not_le] at admitted
        exact admitted.2
      dsimp only
      generalize (((source, eligible) :: entries).countP (·.2)) = count
      have share : (remaining - 6) / max count 1 ≤ remaining - 6 := Nat.div_le_self _ _
      have selected := Nat.min_le_right source.content.length ((remaining - 6) / max count 1)
      generalize min source.content.length ((remaining - 6) / max count 1) = included at *
      have rest := ih (remaining - (6 + included))
      have frame : frameSize included ≤ 6 + included := by
        unfold frameSize
        split <;> omega
      rw [List.map_cons, List.sum_cons]
      omega

/-- The manifest entry of a source with `included` represented bytes. -/
def manifestOf (entry : ContextPackSource digest × Nat) : ContextSourceManifest where
  kind := entry.1.kind
  sourceId := entry.1.sourceId
  revision := entry.1.revision
  contentDigest := entry.1.contentDigest
  originalByteLength := UInt64.ofNat entry.1.content.length
  includedByteLength := UInt64.ofNat entry.2
  includedDigest := digest (entry.1.content.take entry.2)
  disposition := if entry.2 = 0 then .omitted
    else if entry.2 = entry.1.content.length then .complete else .truncated
  artifact := entry.1.artifact

theorem toNat_ofNat_of_le {length : Nat} (small : length ≤ maxContextSourceInputBytes) :
    (UInt64.ofNat length).toNat = length := by
  unfold maxContextSourceInputBytes at small
  rw [UInt64.toNat_ofNat']
  omega

/-- A represented prefix yields a validated entry: no constructor check can fail. -/
theorem manifestOf_validated {entry : ContextPackSource digest × Nat}
    (within : entry.2 ≤ entry.1.content.length) : Validated digest (manifestOf digest entry) := by
  rcases entry with ⟨source, included⟩
  have original := toNat_ofNat_of_le source.contentBound
  have represented := toNat_ofNat_of_le (Nat.le_trans within source.contentBound)
  dsimp only at within represented
  rw [validated_iff]
  refine ⟨source.idBound.1, source.idBound.2, source.revisionPositive, ?_, ?_, ?_, source.typed⟩
  · simpa only [manifestOf, original] using source.contentBound
  · rw [UInt64.le_iff_toNat_le]
    simpa only [manifestOf, original, represented] using within
  · unfold ContextSourceManifest.canonicalDisposition manifestOf
    dsimp only
    by_cases empty : included = 0
    · simp [empty]
    · by_cases whole : included = source.content.length
      · have : 0 < UInt64.ofNat source.content.length := by
          rw [UInt64.lt_iff_toNat_lt, original]
          simp only [UInt64.toNat_zero]
          omega
        simp [whole, show source.content.length ≠ 0 by omega, this, source.digested]
      · have positive : 0 < UInt64.ofNat included := by
          rw [UInt64.lt_iff_toNat_lt, represented]
          simp only [UInt64.toNat_zero]
          omega
        have less : UInt64.ofNat included < UInt64.ofNat source.content.length := by
          rw [UInt64.lt_iff_toNat_lt, represented, original]
          omega
        simp [empty, whole, positive, less]

theorem sourceManifest_eq_ok {entry : ContextPackSource digest × Nat}
    (within : entry.2 ≤ entry.1.content.length) :
    sourceManifest digest entry.1 entry.2 = .ok (manifestOf digest entry) := by
  have bound := entry.1.contentBound
  unfold maxContextSourceInputBytes at bound
  have valid := manifestOf_validated digest within
  unfold Validated manifestOf at valid
  unfold sourceManifest lengthU64 ContextSourceManifest.fromPersisted manifestOf
  rw [if_pos (by unfold UInt64.size; omega), if_pos (by unfold UInt64.size; omega)]
  simp [bind, Except.bind, valid]

theorem mapM_sourceManifest {entries : List (ContextPackSource digest × Nat)}
    (within : ∀ entry ∈ entries, entry.2 ≤ entry.1.content.length) :
    (entries.mapM fun entry => sourceManifest digest entry.1 entry.2) =
      .ok (entries.map (manifestOf digest)) := by
  induction entries with
  | nil => rfl
  | cons entry entries ih =>
    have head := sourceManifest_eq_ok digest (within entry (by simp))
    have tail := ih fun other member => within other (List.mem_cons_of_mem _ member)
    simp [List.mapM_cons, head, tail, bind, Except.bind, pure, Except.pure]

/-- The represented bytes of each source. -/
def payloadOf (entry : ContextPackSource digest × Nat) : List UInt8 :=
  entry.1.content.take entry.2

theorem payloads_represent {entries : List (ContextPackSource digest × Nat)}
    (within : ∀ entry ∈ entries, entry.2 ≤ entry.1.content.length) :
    Represents digest (entries.map (manifestOf digest)) (entries.map (payloadOf digest)) := by
  unfold Represents
  rw [List.forall₂_map_left_iff, List.forall₂_map_right_iff, List.forall₂_same]
  intro entry member
  have fits := toNat_ofNat_of_le (Nat.le_trans (within entry member) entry.1.contentBound)
  refine ⟨?_, fun _ => rfl⟩
  simp only [payloadOf, manifestOf, fits, List.length_take]
  exact Nat.min_eq_left (within entry member)

/-- The frame loop of `encode_pack` writes the frames of those payloads. -/
theorem encodeFrames_eq_ok {position : Nat} {entries : List (ContextPackSource digest × Nat)}
    (fits : position + entries.length ≤ 256 ^ 2)
    (within : ∀ entry ∈ entries, entry.2 ≤ entry.1.content.length) :
    encodeFrames digest position entries = .ok (framesBytes position
      ((entries.map (manifestOf digest)).zip (entries.map (payloadOf digest)))) := by
  induction entries generalizing position with
  | nil => rfl
  | cons entry entries ih =>
    rw [List.length_cons] at fits
    have tail := @ih (position + 1) (by omega)
      fun other member => within other (List.mem_cons_of_mem _ member)
    rcases entry with ⟨source, included⟩
    have inside : included ≤ source.content.length := within (source, included) List.mem_cons_self
    have small := Nat.le_trans inside source.contentBound
    have read := toNat_ofNat_of_le small
    unfold maxContextSourceInputBytes at small
    have zeroIff : UInt64.ofNat included = 0 ↔ included = 0 := by
      rw [← UInt64.toNat_inj, read]
      rfl
    have positionBytes := pushU16_eq_ok.mpr ⟨show position < 256 ^ 2 by omega, rfl⟩
    have lengthBytes := pushU32_eq_ok.mpr ⟨show included < 256 ^ 4 by omega, rfl⟩
    simp only [encodeFrames, List.map_cons, List.zip_cons_cons, framesBytes, manifestOf, payloadOf,
      zeroIff, List.length_take, Nat.min_eq_left inside]
    by_cases empty : included = 0
    · simp only [empty, if_true, List.nil_append]
      exact tail
    · simp only [empty, if_false, positionBytes, lengthBytes, tail, bind, Except.bind,
        List.append_assoc]

theorem framesBytes_length (position : Nat) {entries : List (ContextPackSource digest × Nat)}
    (within : ∀ entry ∈ entries, entry.2 ≤ entry.1.content.length) :
    (framesBytes position ((entries.map (manifestOf digest)).zip
      (entries.map (payloadOf digest)))).length =
      ((entries.map (·.2)).map frameSize).sum := by
  induction entries generalizing position with
  | nil => rfl
  | cons entry entries ih =>
    have tail := ih (position + 1) fun other member => within other (List.mem_cons_of_mem _ member)
    rcases entry with ⟨source, included⟩
    have inside : included ≤ source.content.length := within (source, included) List.mem_cons_self
    have read := toNat_ofNat_of_le (Nat.le_trans inside source.contentBound)
    have zeroIff : UInt64.ofNat included = 0 ↔ included = 0 := by
      rw [← UInt64.toNat_inj, read]
      rfl
    simp only [List.map_cons, List.zip_cons_cons, framesBytes, List.length_append, tail,
      List.sum_cons, manifestOf, payloadOf, zeroIff, frameSize]
    by_cases empty : included = 0
    · simp [empty]
    · simp only [empty, if_false, List.length_append, bigEndian_length, List.length_take,
        Nat.min_eq_left inside]
      omega

section Input

variable (input : ContextPackInput digest)

/-- The pinned and the optional bytes together. -/
def sourceBytes : Nat :=
  input.pinned.source.content.length +
    (input.optionalSources.map (·.content.length)).sum

/-- The conditions under which a pack is compiled. -/
def Compilable : Prop :=
  input.optionalSources.length < 512 ∧
    (∀ source ∈ input.optionalSources, source.kind ≠ .pinnedRevision) ∧
    sourceBytes digest input ≤ 2 * 1024 * 1024 ∧
    encodedHeaderLength + 6 + input.pinned.source.content.length ≤ input.policy.maxBytes

def entriesOf : List (ContextPackSource digest × Nat) :=
  (orderedSources digest input).zip (representedLengths digest input)

theorem eligibleFlags_length (firstEligible recentSeen : Nat)
    (sources : List (ContextPackSource digest)) :
    (eligibleFlags digest firstEligible recentSeen sources).length = sources.length := by
  induction sources generalizing recentSeen with
  | nil => rfl
  | cons source sources ih =>
    unfold eligibleFlags
    split <;> simp [ih]

theorem orderedSources_length :
    (orderedSources digest input).length = input.optionalSources.length + 1 := by
  simp [orderedSources, List.length_insertionSort]

theorem representedLengths_length :
    (representedLengths digest input).length = (orderedSources digest input).length := by
  simp [representedLengths, allocate_length, eligibleSources, eligibleFlags_length, orderedSources_length]

/-- The ordered optional sources beside their allotted lengths. -/
theorem entriesOf_cons : ∃ entries, entriesOf digest input =
    (input.pinned.source, input.pinned.source.content.length) :: entries ∧
    (entries.map (·.1)) = (orderedSources digest input).tail ∧
    (∀ entry ∈ entries, entry.2 ≤ entry.1.content.length) ∧
    ((entries.map (·.2)).map frameSize).sum ≤ input.policy.maxBytes - encodedHeaderLength - 6 -
      input.pinned.source.content.length := by
  set room := input.policy.maxBytes - encodedHeaderLength - 6 -
    input.pinned.source.content.length with roomEq
  set tagged := ((orderedSources digest input).zip (eligibleSources digest input)).drop 1 with taggedEq
  have lengths : (orderedSources digest input).tail.length = (allocate digest room tagged).length := by
    rw [allocate_length, taggedEq]
    simp [eligibleSources, eligibleFlags_length]
  have names : tagged.map (·.1) = (orderedSources digest input).tail := by
    have all : ((orderedSources digest input).zip (eligibleSources digest input)).map (·.1) =
        orderedSources digest input :=
      List.map_fst_zip (by simp [eligibleSources, eligibleFlags_length])
    rw [taggedEq, List.map_drop, all, List.drop_one]
  refine ⟨(orderedSources digest input).tail.zip (allocate digest room tagged), ?_,
    List.map_fst_zip (Nat.le_of_eq lengths), ?_, ?_⟩
  · unfold entriesOf representedLengths
    dsimp only
    rw [← roomEq, ← taggedEq]
    rfl
  · have within := allocate_within digest room tagged
    intro entry member
    rw [← names, List.zip_map_left] at member
    obtain ⟨⟨tag, included⟩, known, rfl⟩ := List.mem_map.mp member
    exact (List.forall₂_iff_zip.mp within).2 known
  · rw [List.map_snd_zip (Nat.le_of_eq lengths.symm)]
    exact allocate_frames_le digest room tagged

theorem entriesOf_within :
    ∀ entry ∈ entriesOf digest input, entry.2 ≤ entry.1.content.length := by
  obtain ⟨entries, split, _, within, _⟩ := entriesOf_cons digest input
  rw [split]
  simpa using within

theorem entriesOf_sources : (entriesOf digest input).map (·.1) = orderedSources digest input :=
  List.map_fst_zip (Nat.le_of_eq (representedLengths_length digest input).symm)

/-- The manifest the compiler binds. -/
def compiledManifest : List ContextSourceManifest :=
  (entriesOf digest input).map (manifestOf digest)

def compiledBytes (manifestDigest : BlobHash) : List UInt8 :=
  headerBytes input.conversationId input.possibleSideEffects input.policy
    (compiledManifest digest input).length manifestDigest
    (anyTruncated (compiledManifest digest input)) ++
      framesBytes 0 ((compiledManifest digest input).zip
        ((entriesOf digest input).map (payloadOf digest)))

theorem compiledManifest_length :
    (compiledManifest digest input).length = input.optionalSources.length + 1 := by
  have := congrArg List.length (entriesOf_sources digest input)
  rw [List.length_map, orderedSources_length] at this
  rw [compiledManifest, List.length_map, this]

theorem compiledManifest_validated :
    ∀ source ∈ compiledManifest digest input, Validated digest source := by
  intro source member
  obtain ⟨entry, known, rfl⟩ := List.mem_map.mp member
  exact manifestOf_validated digest (entriesOf_within digest input entry known)

theorem compiledManifest_kinds : (compiledManifest digest input).map (·.kind) =
    (orderedSources digest input).map (·.kind) := by
  rw [← entriesOf_sources digest input, compiledManifest, List.map_map, List.map_map]
  rfl

theorem compiledManifest_pinned : pinnedIsComplete (compiledManifest digest input) = true := by
  obtain ⟨entries, split, _⟩ := entriesOf_cons digest input
  have nonempty : input.pinned.source.content.length ≠ 0 :=
    fun h => input.pinned.nonempty (List.length_eq_zero_iff.mp h)
  have typed := input.pinned.source.typed
  have kind := input.pinned.pinned
  have positive : 0 < UInt64.ofNat input.pinned.source.content.length := by
    rw [UInt64.lt_iff_toNat_lt, toNat_ofNat_of_le input.pinned.source.contentBound]
    simp only [UInt64.toNat_zero]
    omega
  rw [kind] at typed
  have untyped : input.pinned.source.artifact = none := by
    cases artifact : input.pinned.source.artifact with
    | none => rfl
    | some reference =>
      rw [artifact] at typed
      cases typed
  unfold compiledManifest
  rw [split]
  simp [pinnedIsComplete, manifestOf, kind, nonempty, positive, untyped]

/-- A list with non-decreasing tags and no pinned entry behind the first is canonical. -/
theorem sourceOrderIsCanonical_of_kinds {manifest : List ContextSourceManifest}
    (ordered : (manifest.map (·.kind)).Pairwise fun a b => contextKindTag a ≤ contextKindTag b)
    (unpinned : ∀ source ∈ manifest.tail, source.kind ≠ .pinnedRevision) :
    sourceOrderIsCanonical manifest = true := by
  induction manifest with
  | nil => rfl
  | cons first rest ih =>
    cases rest with
    | nil => rfl
    | cons second rest =>
      rw [List.map_cons, List.pairwise_cons] at ordered
      have tail := ih ordered.2 fun source member => unpinned source (List.mem_cons_of_mem _ member)
      have tags := ordered.1 second.kind (by simp)
      have kind := unpinned second (by simp)
      simp [sourceOrderIsCanonical, tags, kind, tail]

theorem compiledManifest_ordered
    (unpinned : ∀ source ∈ input.optionalSources, source.kind ≠ .pinnedRevision) :
    sourceOrderIsCanonical (compiledManifest digest input) = true := by
  have kinds := compiledManifest_kinds digest input
  have sorted : (input.optionalSources.insertionSort
      fun a b => contextKindTag a.kind ≤ contextKindTag b.kind).Pairwise
        fun a b => contextKindTag a.kind ≤ contextKindTag b.kind := by
    have : IsTrans (ContextPackSource digest)
        fun a b => contextKindTag a.kind ≤ contextKindTag b.kind :=
      ⟨fun _ _ _ ab bc => UInt8.le_trans ab bc⟩
    have : Std.Total fun a b : ContextPackSource digest =>
        contextKindTag a.kind ≤ contextKindTag b.kind := ⟨fun _ _ => UInt8.le_total _ _⟩
    exact List.pairwise_insertionSort _ _
  apply sourceOrderIsCanonical_of_kinds
  · rw [kinds]
    unfold orderedSources
    rw [List.map_cons, List.pairwise_cons, List.pairwise_map]
    refine ⟨fun kind _ => ?_, sorted⟩
    rw [input.pinned.pinned]
    exact UInt8.zero_le
  · intro source member
    have kindMember : source.kind ∈ ((compiledManifest digest input).map (·.kind)).tail := by
      rw [← List.map_tail]
      exact List.mem_map_of_mem member
    rw [kinds] at kindMember
    simp only [orderedSources, List.map_cons, List.tail_cons, List.mem_map,
      List.mem_insertionSort] at kindMember
    obtain ⟨optional, known, same⟩ := kindMember
    rw [← same]
    exact unpinned optional known

/-- The checked sum is the sum, as long as it fits. -/
theorem aggregateSourceBytes_eq_some {start total : Nat}
    {sources : List (ContextPackSource digest)} (fits : start < 2 ^ 64) :
    aggregateSourceBytes digest start sources = some total ↔
      total = start + (sources.map (·.content.length)).sum ∧ total < 2 ^ 64 := by
  unfold aggregateSourceBytes
  induction sources generalizing start with
  | nil =>
    simp only [List.foldlM_nil, List.map_nil, List.sum_nil, pure, Option.some.injEq]
    omega
  | cons source sources ih =>
    rw [List.foldlM_cons, List.map_cons, List.sum_cons]
    unfold checkedAdd at ih ⊢
    by_cases next : start + source.content.length < 2 ^ 64
    · simp only [next, if_true, bind, Option.bind, ih next]
      omega
    · simp only [next, if_false, bind, Option.bind, reduceCtorEq, false_iff]
      omega

theorem aggregateSourceBytes_of_small
    (small : sourceBytes digest input ≤ maxContextSourceInputBytes) :
    aggregateSourceBytes digest input.pinned.source.content.length input.optionalSources =
      some (sourceBytes digest input) := by
  have pinned := input.pinned.source.contentBound
  unfold maxContextSourceInputBytes at small pinned
  exact (aggregateSourceBytes_eq_some digest (by omega)).mpr ⟨rfl, by omega⟩

/-- The pack the compiler returns, for the digest of its manifest. -/
def compiledPack (manifestDigest : BlobHash) : ContextPack :=
  persistedPack input.conversationId input.possibleSideEffects input.policy
    (compiledManifest digest input) (compiledBytes digest input manifestDigest)
    (digest (compiledBytes digest input manifestDigest)) manifestDigest

variable {input} (compilable : Compilable digest input)
include compilable

theorem compiledBytes_length (manifestDigest : BlobHash) :
    (compiledBytes digest input manifestDigest).length ≤ input.policy.maxBytes := by
  obtain ⟨entries, split, _, _, frames⟩ := entriesOf_cons digest input
  have room := compilable.2.2.2
  have nonempty : input.pinned.source.content.length ≠ 0 :=
    fun h => input.pinned.nonempty (List.length_eq_zero_iff.mp h)
  unfold compiledBytes compiledManifest
  rw [List.length_append, headerBytes_length,
    framesBytes_length digest 0 (entriesOf_within digest input), split]
  simp only [List.map_cons, List.sum_cons, frameSize, if_neg nonempty] at frames ⊢
  omega

theorem compiledPack_accepted {encoded : List UInt8}
    (encoding : manifestBytes (compiledManifest digest input) = .ok encoded) :
    Accepted digest (compiledPack digest input (digest encoded)) := by
  have count := compilable.1
  refine {
    bounded := ?_
    validated := compiledManifest_validated digest input
    pinned := compiledManifest_pinned digest input
    ordered := compiledManifest_ordered digest input compilable.2.1
    bytesBound := compiledBytes_length digest compilable _
    digested := rfl
    manifestDigested := ?_
    omitted := rfl
    truncated := rfl
    framed := ⟨_, payloads_represent digest (entriesOf_within digest input), rfl⟩ }
  · have := compiledManifest_length digest input
    unfold compiledPack persistedPack maxContextSources
    dsimp only
    omega
  · unfold digestManifest compiledPack persistedPack
    dsimp only
    rw [encoding]
    rfl

theorem encodePack_eq_ok (manifestDigest : BlobHash) :
    encodePack digest input.conversationId input.possibleSideEffects input.policy manifestDigest
      (anyTruncated (compiledManifest digest input)) (orderedSources digest input)
      (representedLengths digest input) = .ok (compiledBytes digest input manifestDigest) := by
  have count := compilable.1
  have lengths := orderedSources_length digest input
  have same : (compiledManifest digest input).length = (orderedSources digest input).length := by
    rw [compiledManifest_length, lengths]
  have entries : (entriesOf digest input).length = (orderedSources digest input).length := by
    rw [← same, compiledManifest, List.length_map]
  have header := packHeader_eq_ok.mpr ⟨show (orderedSources digest input).length < 256 ^ 2 by omega,
    Eq.refl (headerBytes input.conversationId input.possibleSideEffects input.policy
      (orderedSources digest input).length manifestDigest
      (anyTruncated (compiledManifest digest input)))⟩
  have frames := @encodeFrames_eq_ok digest 0 (entriesOf digest input) (by omega)
    (entriesOf_within digest input)
  have bound := compiledBytes_length digest compilable manifestDigest
  unfold compiledBytes at bound ⊢
  rw [same] at bound ⊢
  unfold encodePack
  unfold entriesOf at frames
  simp only [policy_validate, header, frames, bind, Except.bind]
  exact if_neg (Nat.not_lt.mpr bound)

theorem assemblePack_eq_ok {encoded : List UInt8}
    (encoding : manifestBytes (compiledManifest digest input) = .ok encoded) :
    assemblePack digest input (orderedSources digest input) (representedLengths digest input) =
      .ok (compiledPack digest input (digest encoded)) := by
  have entries := mapM_sourceManifest digest (entriesOf_within digest input)
  have written := encodePack_eq_ok digest compilable (digest encoded)
  have verified := (verify_eq_ok digest).mpr (compiledPack_accepted digest compilable encoding)
  unfold entriesOf at entries
  unfold compiledPack persistedPack compiledManifest entriesOf at *
  unfold assemblePack digestManifest
  simp only [entries, encoding, written, verified, bind, Except.bind]

/-- Once the four conditions hold, every later step succeeds. -/
theorem compileContextPack_eq_ok : ∃ encoded,
    manifestBytes (compiledManifest digest input) = .ok encoded ∧
      compileContextPack digest input = .ok (compiledPack digest input (digest encoded)) := by
  have count := compilable.1
  have lengths := compiledManifest_length digest input
  obtain ⟨encoded, encoding⟩ : ∃ encoded,
      manifestBytes (compiledManifest digest input) = .ok encoded := by
    refine ⟨_, manifestBytes_eq_ok.mpr ⟨by omega, fun source member => ?_, rfl⟩⟩
    have := ((validated_iff digest).mp (compiledManifest_validated digest input source member)).2.1
    omega
  refine ⟨encoded, encoding, ?_⟩
  have small : sourceBytes digest input ≤ maxContextSourceInputBytes := compilable.2.2.1
  have unpinned : input.optionalSources.any (·.kind == .pinnedRevision) = false := by
    rw [List.any_eq_false]
    intro source member
    simpa using compilable.2.1 source member
  unfold compileContextPack
  simp only [policy_validate, bind, Except.bind]
  rw [if_neg (by simpa [maxContextSources, unpinned] using count),
    aggregateSourceBytes_of_small digest input small]
  dsimp only
  rw [if_neg (Nat.not_lt.mpr small), if_neg (Nat.not_lt.mpr compilable.2.2.2)]
  exact assemblePack_eq_ok digest compilable encoding

omit compilable in
/-- Without one of the conditions, a guard of the compiler fails. -/
theorem compilable_of_ok {pack : ContextPack}
    (compiled : compileContextPack digest input = .ok pack) : Compilable digest input := by
  unfold compileContextPack at compiled
  simp only [policy_validate, bind, Except.bind] at compiled
  split at compiled
  · cases compiled
  · rename_i counted
    obtain ⟨count, unpinned⟩ := not_or.mp counted
    split at compiled
    · cases compiled
    · rename_i aggregate summed
      split at compiled
      · cases compiled
      · rename_i small
        split at compiled
        · cases compiled
        · rename_i room
          have pinned := input.pinned.source.contentBound
          unfold maxContextSourceInputBytes at pinned small
          have total := ((aggregateSourceBytes_eq_some digest (by omega)).mp summed).1
          refine ⟨by simpa [maxContextSources] using count, fun source member kind => ?_, ?_,
            Nat.not_lt.mp room⟩
          · exact unpinned (List.any_eq_true.mpr ⟨source, member, by simp [kind]⟩)
          · unfold sourceBytes
            omega

end Input

/-- An accepted pack is read back from its row exactly as it was written. -/
theorem readContextPack_row {pack : ContextPack} (accepted : Accepted digest pack)
    {toJson : List PersistedContextSourceManifest → Option String}
    {fromJson : String → Option (List PersistedContextSourceManifest)} {text : String}
    (written : toJson (pack.sourceManifest.map persistedSource) = some text)
    (read : fromJson text = some (pack.sourceManifest.map persistedSource))
    {readBlob : BlobHash → Option (List UInt8)} (stored : readBlob pack.digest = some pack.bytes) :
    readContextPack digest fromJson readBlob pack.conversationId (contextPackRow pack text) =
      .ok pack := by
  have same : pack = persistedPack pack.conversationId pack.possibleSideEffects pack.policy
      pack.sourceManifest pack.bytes pack.digest pack.manifestDigest := by
    unfold persistedPack
    rw [← accepted.omitted, ← accepted.truncated]
  have rebuilt := (fromPersisted_eq_ok digest).mpr ⟨same, accepted⟩
  have parsed := (parseContextManifest_serialized digest accepted.validated written read).2
  have policy : ContextPackPolicy.new pack.policy.maxBytes pack.policy.recentItemLimit =
      .ok pack.policy := by
    have bytes := pack.policy.bytesBound
    have items := pack.policy.itemsBound
    unfold ContextPackPolicy.new
    rw [dif_neg (by simpa using bytes), dif_neg (by omega)]
  unfold readContextPack contextPackRow
  simp [CanonicalUuid.parse?_text, someOrIncompatible, parseSideEffects_text, nonnegative, policy,
    orIncompatible, parsed, BlobHash.parse_toHex, stored, rebuilt, bind, Except.bind]

/-- Compilation succeeds exactly for fewer than 512 optional sources, none of them pinned, at
most 2 MiB of source bytes, and a policy with room for the header and the pinned frame. What
it returns fits the policy, verifies, and is rebuilt unchanged both from its own fields and
from its stored rows, for any faithful JSON encoding of the manifest rows. -/
theorem compileContextPack_agrees (input : ContextPackInput digest) :
    ((∃ pack, compileContextPack digest input = .ok pack) ↔ Compilable digest input) ∧
    ∀ pack, compileContextPack digest input = .ok pack →
      pack.bytes.length ≤ input.policy.maxBytes ∧ pack.verify digest = .ok () ∧
      ContextPack.fromPersisted digest pack.conversationId pack.possibleSideEffects pack.policy
        pack.sourceManifest pack.bytes pack.digest = .ok pack ∧
      ∀ toJson fromJson text, toJson (pack.sourceManifest.map persistedSource) = some text →
        fromJson text = some (pack.sourceManifest.map persistedSource) →
        serializeContextManifest toJson pack = .ok text ∧
        (do
          let manifest ← parseContextManifest digest fromJson text
          orIncompatible "Context Pack content" (ContextPack.fromPersisted digest
            pack.conversationId pack.possibleSideEffects pack.policy manifest pack.bytes
            pack.digest)) = .ok pack ∧
        ∀ readBlob, readBlob pack.digest = some pack.bytes →
          readContextPack digest fromJson readBlob pack.conversationId
            (contextPackRow pack text) = .ok pack := by
  refine ⟨⟨fun ⟨pack, compiled⟩ => compilable_of_ok digest compiled, fun compilable => ?_⟩, ?_⟩
  · obtain ⟨encoded, _, compiled⟩ := compileContextPack_eq_ok digest compilable
    exact ⟨_, compiled⟩
  · intro pack compiled
    have compilable := compilable_of_ok digest compiled
    obtain ⟨encoded, encoding, result⟩ := compileContextPack_eq_ok digest compilable
    rw [compiled, Except.ok.injEq] at result
    subst result
    have accepted := compiledPack_accepted digest compilable encoding
    have rebuilt := (fromPersisted_eq_ok digest).mpr ⟨rfl, accepted⟩
    refine ⟨compiledBytes_length digest compilable _, (verify_eq_ok digest).mpr accepted, rebuilt,
      ?_⟩
    intro toJson fromJson text written read
    have parsed := parseContextManifest_serialized digest accepted.validated written read
    refine ⟨parsed.1, ?_, fun readBlob stored =>
      readContextPack_row digest accepted written read stored⟩
    rw [parsed.2]
    change orIncompatible _ (ContextPack.fromPersisted digest _ _ _ _ _ _) = _
    exact congrArg (orIncompatible _) rebuilt

end Decodex.Guarantees.ContextPackCompile
