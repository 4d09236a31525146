import Decodex.Guarantees.ContextPackAllocation
import Decodex.Source.Core.ContextPackRendering

/-!
# A pack of texts renders

The frames of a pack hold what the budget left of each source, cut at any byte. Where the
sources are texts without NUL, the frame loop reads each frame as the longest text it begins
with, and a separator is shorter than the frame it stands for.
-/
namespace Decodex.Guarantees.ContextPackRendering

open Decodex.Library Decodex.Library.Utf8
open Decodex.Source.Core Decodex.Source.Core.ContextPacks
open Decodex.Guarantees.ContextPackFormat Decodex.Guarantees.ContextPackCompile
open Decodex.Guarantees.Samples Decodex.Guarantees.ContextPackAllocation

variable (digest : List UInt8 → BlobHash)

/-- Valid UTF-8 without NUL. -/
def PlainText (content : List UInt8) : Prop :=
  ∃ text, content = utf8 text ∧ '\x00' ∉ text.toList

/-- What is kept of a plain text cut at any byte is read back as the longest text in it. -/
theorem representedText_cut {content : List UInt8} (plain : PlainText content) (length : Nat) :
    ∃ text, representedText (content.take length) = .ok text ∧
      LongestText (content.take length) text ∧ '\x00' ∉ text.toList := by
  obtain ⟨whole, rfl, nulFree⟩ := plain
  rw [utf8_eq_charBytes]
  obtain ⟨kept, stub, inside, cut, beginning⟩ := cut_chars whole.toList length
  have longest := beginning.longest kept
  rw [cut]
  refine ⟨String.ofList kept, ?_, longest, fun nul => ?_⟩
  · have read : fromUtf8 (charBytes kept) = .ok (String.ofList kept) := by
      rw [← utf8_ofList, fromUtf8_utf8]
    unfold representedText
    by_cases none : stub = []
    · rw [none, List.append_nil, read]
    · rw [fromUtf8_cut kept beginning none]
      dsimp only
      rw [if_pos rfl, List.take_left, read]
  · rw [String.toList_ofList] at nul
    exact nulFree (inside.subset nul)

/-- A text cut nowhere is read back whole. -/
theorem longestText_whole {text other : String} (longest : LongestText (utf8 text) other) :
    other = text := by
  apply utf8_injective
  have above := longest.2 text List.prefix_rfl
  exact longest.1.eq_of_length (Nat.le_antisymm longest.1.length_le above)

theorem longestText_nil {other : String} (longest : LongestText [] other) : other = "" := by
  have empty : utf8 other = utf8 "" := List.prefix_nil.mp longest.1
  exact utf8_injective empty

theorem pushText_empty (output : String) : pushText output "" = output := by
  simp [pushText]

theorem empty_pushText (text : String) : pushText "" text = text := by
  simp [pushText]

/-- Pushed one after the other, the texts are joined. -/
theorem foldl_pushText (texts : List String) (output : String) :
    texts.foldl pushText output =
      "\n\n".intercalate ((output :: texts).filter (· ≠ "")) := by
  induction texts generalizing output with
  | nil => by_cases empty : output = "" <;> simp [empty]
  | cons text texts ih =>
    rw [List.foldl_cons, ih]
    by_cases pushed : text = ""
    · simp [pushed, pushText_empty, List.filter_cons]
    · by_cases empty : output = ""
      · simp [pushed, empty, empty_pushText]
      · have joined : pushText output text = output ++ "\n\n" ++ text := by
          simp [pushText, pushed, empty]
        simp [pushed, empty, joined, String.append_assoc]

theorem pushText_length (output text : String) (included : Nat)
    (within : (utf8 text).length ≤ included) :
    (utf8 (pushText output text)).length ≤ (utf8 output).length + frameSize included := by
  unfold pushText frameSize
  by_cases empty : text = ""
  · simp [empty]
  · have some : (utf8 text).length ≠ 0 := fun none =>
      empty (utf8_injective (List.length_eq_zero_iff.mp none))
    split <;> split <;> simp only [utf8_append, List.length_append] <;>
      first | omega | (have : (utf8 "\n\n").length = 2 := by decide); omega

/-- What is pushed later comes later. -/
theorem prefix_foldl_pushText (texts : List String) (output : String) :
    utf8 output <+: utf8 (texts.foldl pushText output) := by
  induction texts generalizing output with
  | nil => exact List.prefix_rfl
  | cons text texts ih =>
    refine List.IsPrefix.trans ?_ (ih (pushText output text))
    unfold pushText
    split <;> simp only [utf8_append, List.append_assoc] <;> exact List.prefix_append _ _

/-- The loop reads back the frames of the encoder, each as the longest text in it. -/
theorem renderFrames_eq_ok {position : Nat} {entries : List (ContextPackSource digest × Nat)}
    (fits : position + entries.length ≤ 256 ^ 2)
    (within : ∀ entry ∈ entries, entry.2 ≤ entry.1.content.length)
    (plain : ∀ entry ∈ entries, PlainText entry.1.content) (output : String) :
    ∃ texts, List.Forall₂ LongestText (entries.map (payloadOf digest)) texts ∧
      renderFrames position (entries.map (manifestOf digest))
          (framesBytes position ((entries.map (manifestOf digest)).zip
            (entries.map (payloadOf digest)))) output =
        .ok ([], texts.foldl pushText output) ∧
      (utf8 (texts.foldl pushText output)).length ≤
        (utf8 output).length + ((entries.map (·.2)).map frameSize).sum := by
  induction entries generalizing position output with
  | nil => exact ⟨[], .nil, rfl, Nat.le_refl _⟩
  | cons entry entries ih =>
    rw [List.length_cons] at fits
    have inside := within entry List.mem_cons_self
    have small := Nat.le_trans inside entry.1.contentBound
    have read := toNat_ofNat_of_le small
    have empty : (manifestOf digest entry).includedByteLength = 0 ↔ entry.2 = 0 := by
      rw [← UInt64.toNat_inj]
      exact Iff.of_eq (congrArg (· = 0) read)
    obtain ⟨text, represented, longest, nulFree⟩ :=
      representedText_cut (plain entry List.mem_cons_self) entry.2
    have length : (payloadOf digest entry).length = entry.2 := by
      rw [payloadOf, List.length_take, Nat.min_eq_left inside]
    obtain ⟨texts, others, rendered, bound⟩ := @ih (position + 1) (by omega)
      (fun other member => within other (List.mem_cons_of_mem _ member))
      (fun other member => plain other (List.mem_cons_of_mem _ member)) (pushText output text)
    refine ⟨text :: texts, .cons longest others, ?_, ?_⟩
    · simp only [List.map_cons, List.zip_cons_cons, framesBytes, renderFrames, empty,
        List.foldl_cons]
      split
      · rename_i none
        rw [none, List.take_zero] at longest
        rw [longestText_nil longest, pushText_empty] at rendered
        rw [longestText_nil longest, pushText_empty, List.nil_append, rendered]
      · rw [List.append_assoc, readBigEndian_append 2 position (by omega)]
        dsimp only
        rw [List.append_assoc, readBigEndian_append 4 _ (by
          unfold maxContextSourceInputBytes at small
          omega)]
        dsimp only
        rw [if_neg (by rw [List.length_append]; omega), if_neg (by
          rw [length]
          simp only [ne_eq, not_true_eq_false, false_or, not_not]
          exact read.symm)]
        rw [List.take_left, List.drop_left, payloadOf, represented]
        dsimp only
        rw [if_neg (by simpa using nulFree), rendered]
    · have pushed := pushText_length output text entry.2 (by
        have := longest.1.length_le
        rw [List.length_take] at this
        omega)
      simp only [List.map_cons, List.sum_cons, List.foldl_cons]
      omega

section Input

variable {input : ContextPackInput digest}

/-- What the manifest says is represented of each source. -/
def includedPrefixes (input : ContextPackInput digest) (manifest : List ContextSourceManifest) :
    List (List UInt8) :=
  ((orderedSources digest input).zip manifest).map fun entry =>
    entry.1.content.take entry.2.includedByteLength.toNat

theorem includedPrefixes_compiled :
    includedPrefixes digest input (compiledManifest digest input) =
      (entriesOf digest input).map (payloadOf digest) := by
  unfold includedPrefixes
  rw [← entriesOf_sources, compiledManifest, List.zip_map', List.map_map]
  apply List.map_congr_left
  intro entry member
  have fits := toNat_ofNat_of_le
    (Nat.le_trans (entriesOf_within digest input entry member) entry.1.contentBound)
  change entry.1.content.take (UInt64.ofNat entry.2).toNat = _
  rw [fits]
  rfl

/-- Every input of plain texts that compiles renders. The output is within the policy's bound,
is the longest texts that the represented bytes begin with, in the order of the manifest and
with a blank line between those that have content, and starts with the whole pinned text. -/
theorem plain_pack_renders {pack : ContextPack}
    (compiled : compileContextPack digest input = .ok pack)
    (pinned : PlainText input.pinned.source.content)
    (optional : ∀ source ∈ input.optionalSources, PlainText source.content) :
    ∃ output texts, pack.renderModelInput digest = .ok output ∧
      (utf8 output).length ≤ input.policy.maxBytes ∧
      List.Forall₂ LongestText (includedPrefixes digest input pack.sourceManifest) texts ∧
      output = "\n\n".intercalate (texts.filter (· ≠ "")) ∧
      input.pinned.source.content <+: utf8 output := by
  have compilable := compilable_of_ok digest compiled
  obtain ⟨encoded, encoding, result⟩ := compileContextPack_eq_ok digest compilable
  rw [compiled, Except.ok.injEq] at result
  subst result
  have count := compiledManifest_length digest input
  have entries : (entriesOf digest input).length = input.optionalSources.length + 1 := by
    rw [← count, compiledManifest, List.length_map]
  have plain : ∀ entry ∈ entriesOf digest input, PlainText entry.1.content := by
    intro entry member
    have known : entry.1 ∈ orderedSources digest input := by
      rw [← entriesOf_sources]
      exact List.mem_map_of_mem member
    rcases List.mem_cons.mp known with own | other
    · rwa [own]
    · exact optional entry.1 (List.mem_insertionSort _ |>.mp other)
  have small := compilable.1
  obtain ⟨texts, longest, rendered, length⟩ := @renderFrames_eq_ok digest 0 _ (by omega)
    (entriesOf_within digest input) plain ""
  have starts : input.pinned.source.content <+: utf8 (texts.foldl pushText "") := by
    obtain ⟨rest, split, _⟩ := entriesOf_cons digest input
    rw [split, List.map_cons] at longest
    cases longest with
    | cons first others =>
      obtain ⟨text, whole, _⟩ := pinned
      rw [payloadOf, List.take_length, whole] at first
      rw [longestText_whole first, List.foldl_cons, empty_pushText, whole]
      exact prefix_foldl_pushText _ _
  have header := headerBytes_length input.conversationId input.possibleSideEffects input.policy
    (compiledManifest digest input).length (digest encoded)
    (anyTruncated (compiledManifest digest input))
  have frames : (compiledBytes digest input (digest encoded)).drop encodedHeaderLength =
      framesBytes 0 ((compiledManifest digest input).zip
        ((entriesOf digest input).map (payloadOf digest))) := by
    rw [compiledBytes, ← header, List.drop_left]
  have bound : (utf8 (texts.foldl pushText "")).length ≤ input.policy.maxBytes := by
    have total := compiledBytes_length digest compilable (digest encoded)
    have framed := framesBytes_length digest 0 (entriesOf_within digest input)
    have none : (utf8 "").length = 0 := by decide
    unfold compiledBytes at total
    rw [List.length_append] at total
    rw [none, ← framed] at length
    change _ + (framesBytes 0 _).length ≤ _ at total
    unfold compiledManifest at total
    omega
  have some : texts.foldl pushText "" ≠ "" := by
    intro none
    rw [none] at starts
    exact input.pinned.nonempty (List.prefix_nil.mp starts)
  refine ⟨texts.foldl pushText "", texts, ?_, bound, ?_, ?_, starts⟩
  · have verified := (verify_eq_ok digest).mpr (compiledPack_accepted digest compilable encoding)
    unfold ContextPack.renderModelInput
    rw [verified]
    change (renderFrames 0 (compiledManifest digest input)
      ((compiledBytes digest input (digest encoded)).drop encodedHeaderLength) "" >>= _) = _
    rw [frames]
    unfold compiledManifest
    rw [rendered]
    exact if_neg (not_or.mpr ⟨not_not.mpr rfl, not_or.mpr ⟨some, Nat.not_lt.mpr bound⟩⟩)
  · change List.Forall₂ _ (includedPrefixes digest input (compiledManifest digest input)) texts
    rwa [includedPrefixes_compiled]
  · rw [foldl_pushText, List.filter_cons_of_neg (by simp)]

end Input

theorem plainText_utf8 {text : String} (nulFree : '\x00' ∉ text.toList) : PlainText (utf8 text) :=
  ⟨text, rfl, nulFree⟩

theorem sampleInput_plain : PlainText sampleInput.pinned.source.content ∧
    ∀ source ∈ sampleInput.optionalSources, PlainText source.content := by
  constructor
  · refine ⟨String.ofList (List.replicate 877 'x'), ?_, ?_⟩
    · rw [utf8_ofList_ascii]
      · rw [List.map_replicate]
        rfl
      · intro c member
        rw [List.eq_of_mem_replicate member]
        decide
    · rw [String.toList_ofList]
      intro member
      exact absurd (List.eq_of_mem_replicate member) (by decide)
  · intro source member
    rcases List.mem_cons.mp member with rfl | member
    · exact plainText_utf8 (by decide)
    · rw [List.mem_singleton.mp member]
      exact plainText_utf8 (by decide)

theorem sampleInput_renders : ∃ pack output texts,
    compileContextPack sampleBlobDigest sampleInput = .ok pack ∧
      pack.renderModelInput sampleBlobDigest = .ok output ∧
      (utf8 output).length ≤ sampleInput.policy.maxBytes ∧
      List.Forall₂ LongestText (includedPrefixes sampleBlobDigest sampleInput pack.sourceManifest)
        texts ∧
      output = "\n\n".intercalate (texts.filter (· ≠ "")) ∧
      sampleInput.pinned.source.content <+: utf8 output := by
  obtain ⟨encoded, _, compiled⟩ := compileContextPack_eq_ok sampleBlobDigest sampleInput_compilable
  obtain ⟨output, texts, rest⟩ := plain_pack_renders sampleBlobDigest compiled sampleInput_plain.1
    sampleInput_plain.2
  exact ⟨_, output, texts, compiled, rest⟩

end Decodex.Guarantees.ContextPackRendering
