import Decodex.Guarantees.ContextPackAllocation

/-!
# The newest recent history in a tight Context Pack

`compile_context_pack` promises to keep the newest bounded tail of raw recent input. The
window does that, but inside the window the budget is given out oldest first and every source
pays its frame out of the shares behind it, so a share that runs dry does so for the newest
sources. Which sources of the window are represented is decided by the room they require; the
newest are kept exactly when the room is enough for the newest one or too small for the oldest.
-/
namespace Decodex.Guarantees.ContextPackRecency

open Decodex.Library Decodex.Library.FairShare
open Decodex.Source.Core Decodex.Source.Core.ContextPacks
open Decodex.Guarantees.ContextPackFormat Decodex.Guarantees.ContextPackCompile
open Decodex.Guarantees.Samples Decodex.Guarantees.ContextPackAllocation

variable (digest : List UInt8 → BlobHash)

/-- Where a recent entry with content is represented, so is every newer one. -/
def KeepsNewest (manifest : List ContextSourceManifest) : Prop :=
  (recentEntries manifest).Pairwise fun older newer =>
    older.originalByteLength ≠ 0 → newer.originalByteLength ≠ 0 →
      older.disposition ≠ .omitted → newer.disposition ≠ .omitted

/-- The position of the first non-empty source. -/
def oldestPosition (lengths : List Nat) : Nat := lengths.findIdx (· ≠ 0)

/-- The position of the last non-empty source. -/
def newestPosition (lengths : List Nat) : Nat :=
  lengths.length - 1 - lengths.reverse.findIdx (· ≠ 0)

section Input

variable (input : ContextPackInput digest)

/-- The content lengths of the window, oldest first. -/
def windowLengths : List Nat := contentLengths digest (newestRecent digest input)

/-- The room that the source at a position of the window requires behind the pinned source:
the other sources and the older ones of the window are served before it. -/
def roomFor (position : Nat) : Nat :=
  requiredRoom 6 (contentLengths digest (otherSources digest input) ++
    (windowLengths digest input).take position) ((windowLengths digest input).length - position)

/-- The window has no content, or the room is too small even for its oldest source with content,
or it is enough for the newest one. -/
def WindowFits : Prop :=
  (∀ length ∈ windowLengths digest input, length = 0) ∨
    room digest input < roomFor digest input (oldestPosition (windowLengths digest input)) ∨
      roomFor digest input (newestPosition (windowLengths digest input)) ≤ room digest input

theorem oldestPosition_le {lengths : List Nat} {position : Nat} (inside : position < lengths.length)
    (some : lengths[position] ≠ 0) : oldestPosition lengths ≤ position := by
  by_contra before
  have := List.not_of_lt_findIdx (Nat.lt_of_not_le before)
  simp [some] at this

theorem oldestPosition_some {lengths : List Nat} (some : ∃ length ∈ lengths, length ≠ 0) :
    ∃ inside : oldestPosition lengths < lengths.length, lengths[oldestPosition lengths] ≠ 0 := by
  have inside : lengths.findIdx (· ≠ 0) < lengths.length :=
    List.findIdx_lt_length.mpr (by simpa using some)
  have found := List.findIdx_getElem (w := inside)
  exact ⟨inside, of_decide_eq_true found⟩

theorem le_newestPosition {lengths : List Nat} {position : Nat} (inside : position < lengths.length)
    (some : lengths[position] ≠ 0) : position ≤ newestPosition lengths := by
  have inReverse : lengths.length - 1 - position < lengths.reverse.length := by
    rw [List.length_reverse]
    omega
  have mirrored : lengths.reverse[lengths.length - 1 - position] ≠ 0 := by
    rw [List.getElem_reverse]
    have : lengths.length - 1 - (lengths.length - 1 - position) = position := by omega
    simpa only [this] using some
  have := oldestPosition_le _ mirrored
  unfold oldestPosition at this
  unfold newestPosition
  omega

theorem newestPosition_some {lengths : List Nat} (some : ∃ length ∈ lengths, length ≠ 0) :
    ∃ inside : newestPosition lengths < lengths.length, lengths[newestPosition lengths] ≠ 0 := by
  have mirroredSome : ∃ length ∈ lengths.reverse, length ≠ 0 := by simpa using some
  obtain ⟨inside, mirrored⟩ := oldestPosition_some mirroredSome
  rw [List.getElem_reverse] at mirrored
  rw [List.length_reverse] at inside
  refine ⟨?_, mirrored⟩
  unfold newestPosition
  omega

theorem roomFor_mono {older newer : Nat} (order : older ≤ newer)
    (inside : newer < (windowLengths digest input).length) :
    roomFor digest input older ≤ roomFor digest input newer := by
  have taken : (windowLengths digest input).take newer = (windowLengths digest input).take older ++
      ((windowLengths digest input).take newer).drop older := by
    have := List.take_append_drop older ((windowLengths digest input).take newer)
    rw [List.take_take, Nat.min_eq_left order] at this
    exact this.symm
  have between : (((windowLengths digest input).take newer).drop older).length +
      ((windowLengths digest input).length - newer) =
        (windowLengths digest input).length - older := by
    rw [List.length_drop, List.length_take]
    omega
  have := requiredRoom_le_of_append (by decide : 0 < 6)
    (contentLengths digest (otherSources digest input) ++ (windowLengths digest input).take older)
    (((windowLengths digest input).take newer).drop older)
    ((windowLengths digest input).length - newer)
  rw [between, List.append_assoc, ← taken] at this
  exact this

theorem newestEntries_length :
    (newestEntries digest input).length = (windowLengths digest input).length := by
  have := given_length digest input
  rw [newestEntries, windowLengths, contentLengths, List.length_zip, List.length_drop,
    List.length_map]
  omega

/-- A source of the window is represented exactly when it has content and its room is there. -/
theorem newestEntries_represented {position : Nat}
    (inside : position < (newestEntries digest input).length) :
    (newestEntries digest input)[position].2 ≠ 0 ↔
      (newestEntries digest input)[position].1.content.length ≠ 0 ∧
        roomFor digest input position ≤ room digest input := by
  have within : position < (windowLengths digest input).length := by
    rwa [← newestEntries_length]
  set others := contentLengths digest (otherSources digest input) with othersEq
  set lengths := windowLengths digest input with lengthsEq
  have split : others ++ lengths = (others ++ lengths.take position) ++
      lengths[position] :: lengths.drop (position + 1) := by
    rw [List.append_assoc, List.getElem_cons_drop, List.take_append_drop]
  have front : (others ++ lengths.take position).length =
      (otherSources digest input).length + position := by
    rw [List.length_append, List.length_take, othersEq, contentLengths, List.length_map]
    omega
  have behind : (lengths.drop (position + 1)).length + 1 = lengths.length - position := by
    rw [List.length_drop]
    omega
  have share := share_ne_zero_iff 6 (room digest input) (others ++ lengths.take position)
    (lengths.drop (position + 1)) lengths[position]
  rw [← split, front, behind] at share
  have shared : (given digest input)[(otherSources digest input).length + position]? =
      some (newestEntries digest input)[position].2 := by
    simp only [newestEntries, List.getElem_zip, List.getElem_drop]
    rw [List.getElem?_eq_getElem]
  have asked : (newestEntries digest input)[position].1.content.length = lengths[position] := by
    simp [newestEntries, lengthsEq, windowLengths, contentLengths]
  rw [asked]
  change (∃ share, (given digest input)[_]? = some share ∧ share ≠ 0) ↔ _ at share
  rw [shared] at share
  simp only [Option.some.injEq, exists_eq_left'] at share
  exact share

theorem manifestOf_omitted (entry : ContextPackSource digest × Nat) :
    (manifestOf digest entry).disposition = .omitted ↔ entry.2 = 0 := by
  unfold manifestOf
  dsimp only
  split
  · simp_all
  · split <;> simp_all

theorem manifestOf_empty (entry : ContextPackSource digest × Nat) :
    (manifestOf digest entry).originalByteLength = 0 ↔ entry.1.content.length = 0 := by
  rw [← UInt64.toNat_inj, (manifestOf_describes digest entry).original]
  rfl

/-- The claim over the sources of the window. -/
theorem keepsNewest_iff_window : KeepsNewest (compiledManifest digest input) ↔
    (newestEntries digest input).Pairwise fun older newer =>
      older.1.content.length ≠ 0 → newer.1.content.length ≠ 0 → older.2 ≠ 0 → newer.2 ≠ 0 := by
  have older : ∀ entry ∈ (olderEntries digest input).map (manifestOf digest),
      entry.disposition = .omitted := by
    intro entry member
    obtain ⟨known, inside, rfl⟩ := List.mem_map.mp member
    obtain ⟨source, _, rfl⟩ := List.mem_map.mp inside
    rfl
  have window : KeepsNewest (compiledManifest digest input) ↔
      ((newestEntries digest input).map (manifestOf digest)).Pairwise fun older newer =>
        older.originalByteLength ≠ 0 → newer.originalByteLength ≠ 0 →
          older.disposition ≠ .omitted → newer.disposition ≠ .omitted := by
    unfold KeepsNewest
    rw [recentEntries_eq, List.pairwise_append]
    constructor
    · exact fun kept => kept.2.1
    · intro kept
      refine ⟨?_, kept, fun entry member _ _ _ _ shown => absurd (older entry member) shown⟩
      exact List.pairwise_of_forall_mem_list fun entry member _ _ _ _ shown =>
        absurd (older entry member) shown
  rw [window, List.pairwise_map]
  simp only [ne_eq, manifestOf_omitted, manifestOf_empty]

theorem keepsNewest_iff :
    KeepsNewest (compiledManifest digest input) ↔ WindowFits digest input := by
  have count := newestEntries_length digest input
  have asked : ∀ position (inside : position < (newestEntries digest input).length)
      (mirrored : position < (windowLengths digest input).length),
      (newestEntries digest input)[position].1.content.length =
        (windowLengths digest input)[position] := by
    intro position inside mirrored
    simp [newestEntries, windowLengths, contentLengths]
  rw [keepsNewest_iff_window, List.pairwise_iff_getElem]
  constructor
  · intro kept
    by_cases some : ∃ length ∈ windowLengths digest input, length ≠ 0
    · obtain ⟨oldestInside, oldest⟩ := oldestPosition_some some
      obtain ⟨newestInside, newest⟩ := newestPosition_some some
      refine .inr ?_
      by_contra neither
      obtain ⟨enough, short⟩ := not_or.mp neither
      rw [Nat.not_lt] at enough
      rcases Nat.lt_or_eq_of_le (oldestPosition_le newestInside newest) with order | same
      · have := kept _ _ (by rwa [count]) (by rwa [count]) order
        rw [newestEntries_represented, newestEntries_represented, asked _ _ oldestInside,
          asked _ _ newestInside] at this
        exact short (this oldest newest ⟨oldest, enough⟩).2
      · rw [← same] at short
        exact short enough
    · exact .inl fun length member => not_not.mp fun nonzero => some ⟨length, member, nonzero⟩
  · intro fits older newer olderInside newerInside order
    rw [newestEntries_represented, newestEntries_represented, asked _ _ (count ▸ olderInside),
      asked _ _ (count ▸ newerInside)]
    intro olderSome newerSome represented
    refine ⟨newerSome, ?_⟩
    rw [count] at olderInside newerInside
    rcases fits with empty | dry | enough
    · exact absurd (empty _ (List.getElem_mem newerInside)) newerSome
    · have := roomFor_mono digest input (oldestPosition_le olderInside olderSome) olderInside
      omega
    · obtain ⟨newestInside, _⟩ := newestPosition_some ⟨_, List.getElem_mem newerInside, newerSome⟩
      have := roomFor_mono digest input (le_newestPosition newerInside newerSome) newestInside
      omega

theorem recentEntries_described : List.Forall₂ (Describes digest) (recentSources digest input)
    (recentEntries (compiledManifest digest input)) := by
  have sources : ((olderEntries digest input) ++ (newestEntries digest input)).map (·.1) =
      recentSources digest input := by
    have := given_length digest input
    rw [List.map_append, olderEntries, newestEntries, List.map_map,
      List.map_fst_zip (by rw [List.length_drop]; omega), ← recent_split]
    simp [Function.comp_def]
  rw [recentEntries_eq, ← List.map_append, ← sources, List.forall₂_map_left_iff,
    List.forall₂_map_right_iff, List.forall₂_same]
  exact fun entry _ => manifestOf_describes digest entry

end Input

/-- The manifest lists the raw recent sources oldest first. The newest of them that have content
are kept exactly when the window has none, or when the room behind the pinned source is below
what the oldest one of the window with content requires, or is what the newest one requires. -/
theorem newest_history_is_kept_iff {input : ContextPackInput digest} {pack : ContextPack}
    (compiled : compileContextPack digest input = .ok pack) :
    List.Forall₂ (Describes digest) (recentSources digest input)
        (recentEntries pack.sourceManifest) ∧
      (KeepsNewest pack.sourceManifest ↔ WindowFits digest input) := by
  have compilable := compilable_of_ok digest compiled
  obtain ⟨encoded, _, result⟩ := compileContextPack_eq_ok digest compilable
  rw [compiled, Except.ok.injEq] at result
  subst result
  exact ⟨recentEntries_described digest input, keepsNewest_iff digest input⟩

theorem sampleInput_room : room sampleBlobDigest sampleInput = 8 := by
  rw [room, sampleInput_lengths.1]
  decide

theorem sampleInput_windowFails : ¬ WindowFits sampleBlobDigest sampleInput := by
  unfold WindowFits
  rw [sampleInput_room]
  decide

theorem sampleInput_loses_newest : ∃ pack,
    compileContextPack sampleBlobDigest sampleInput = .ok pack ∧
      List.Forall₂ (Describes sampleBlobDigest) (recentSources sampleBlobDigest sampleInput)
        (recentEntries pack.sourceManifest) ∧
      (KeepsNewest pack.sourceManifest ↔ WindowFits sampleBlobDigest sampleInput) := by
  obtain ⟨encoded, _, compiled⟩ := compileContextPack_eq_ok sampleBlobDigest sampleInput_compilable
  exact ⟨_, compiled, newest_history_is_kept_iff sampleBlobDigest compiled⟩

/-- One byte of the older source is represented and none of the newest. -/
theorem older_recent_outlives_newest : ∃ pack,
    compileContextPack sampleBlobDigest sampleInput = .ok pack ∧
      (recentEntries pack.sourceManifest).map (fun entry =>
        (entry.originalByteLength, entry.includedByteLength, entry.disposition)) =
          [(6, 1, .truncated), (6, 0, .omitted)] ∧
      ¬ KeepsNewest pack.sourceManifest := by
  obtain ⟨encoded, _, compiled⟩ := compileContextPack_eq_ok sampleBlobDigest sampleInput_compilable
  refine ⟨_, compiled, ?_, fun kept => ?_⟩
  · change (recentEntries (compiledManifest sampleBlobDigest sampleInput)).map _ = _
    rw [recentEntries_eq, newestEntries, given, sampleInput_room]
    decide
  · exact sampleInput_windowFails ((keepsNewest_iff sampleBlobDigest sampleInput).mp kept)

end Decodex.Guarantees.ContextPackRecency
