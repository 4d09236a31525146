import Decodex.Guarantees.ContextPackCompile
import Decodex.Guarantees.Samples
import Decodex.Library.FairShare

/-!
# What a Context Pack represents of each source

The pinned source comes first and whole, the optional ones in a stable order by kind tag, and
raw recent sources outside the newest ones not at all. The allocation loop is the fair share
of the room behind the pinned frame, given to the eligible sources in order, so it has a floor:
when the eligible sources are bounded and the room holds as many of them, they are all complete.
With its subtractions checked the loop computes the same.
-/
namespace Decodex.Guarantees.ContextPackAllocation

open Decodex.Library Decodex.Library.FairShare
open Decodex.Source.Core Decodex.Source.Core.ContextPacks
open Decodex.Guarantees.Samples
open Decodex.Guarantees.ContextPackFormat Decodex.Guarantees.ContextPackCompile

variable (digest : List UInt8 → BlobHash)

/-- Sorted by kind tag, and sources of one kind in the order they had. -/
structure StablySorted (sorted original : List (ContextPackSource digest)) : Prop where
  reordered : sorted.Perm original
  byTag : sorted.Pairwise fun a b => contextKindTag a.kind ≤ contextKindTag b.kind
  stable : ∀ kind, sorted.filter (·.kind == kind) = original.filter (·.kind == kind)

def sortedByTag (sources : List (ContextPackSource digest)) : List (ContextPackSource digest) :=
  sources.insertionSort fun a b => contextKindTag a.kind ≤ contextKindTag b.kind

theorem sortedByTag_stable (sources : List (ContextPackSource digest)) :
    StablySorted digest (sortedByTag digest sources) sources := by
  have transitive : IsTrans (ContextPackSource digest)
      fun a b => contextKindTag a.kind ≤ contextKindTag b.kind :=
    ⟨fun _ _ _ ab bc => UInt8.le_trans ab bc⟩
  have total : Std.Total fun a b : ContextPackSource digest =>
      contextKindTag a.kind ≤ contextKindTag b.kind := ⟨fun _ _ => UInt8.le_total _ _⟩
  have reordered : (sortedByTag digest sources).Perm sources := List.perm_insertionSort _ _
  refine ⟨reordered, List.pairwise_insertionSort _ _, fun kind => ?_⟩
  have alike : (sources.filter (·.kind == kind)).Pairwise
      fun a b => contextKindTag a.kind ≤ contextKindTag b.kind := by
    apply List.pairwise_of_forall_mem_list
    intro a left b right
    have first : a.kind = kind := by simpa using (List.mem_filter.mp left).2
    have second : b.kind = kind := by simpa using (List.mem_filter.mp right).2
    rw [first, second]
    exact UInt8.le_refl _
  have kept : (sources.filter (·.kind == kind)).Sublist (sortedByTag digest sources) :=
    List.sublist_insertionSort alike List.filter_sublist
  have inside := kept.filter (·.kind == kind)
  rw [List.filter_filter, show (fun a : ContextPackSource digest => (a.kind == kind && a.kind == kind))
    = fun a => a.kind == kind from funext fun a => Bool.and_self _] at inside
  exact (inside.eq_of_length (reordered.filter _).length_eq.symm).symm

/-- In a list where `p` is never lost, the elements with `p` come last. -/
theorem eq_filter_append_filter {α : Type*} {p : α → Bool} {l : List α}
    (closed : l.Pairwise fun a b => p a = true → p b = true) :
    l = l.filter (fun a => !p a) ++ l.filter p := by
  induction l with
  | nil => rfl
  | cons a l ih =>
    obtain ⟨own, rest⟩ := List.pairwise_cons.mp closed
    cases first : p a with
    | false =>
      simp only [List.filter_cons, first, Bool.not_false, if_true, List.cons_append]
      rw [if_neg (by simp), ← ih rest]
    | true =>
      have all : ∀ b ∈ a :: l, p b = true :=
        List.forall_mem_cons.mpr ⟨first, fun b member => own b member first⟩
      have none : (a :: l).filter (fun b => !p b) = [] := by
        simpa [List.filter_eq_nil_iff] using all
      rw [none, List.filter_eq_self.mpr all, List.nil_append]

section Input

variable (input : ContextPackInput digest)

/-- The optional sources that are not raw recent ones, in the order of the pack. -/
def otherSources : List (ContextPackSource digest) :=
  (sortedByTag digest input.optionalSources).filter fun source => !(source.kind == .recentRaw)

/-- The raw recent sources, oldest first. -/
def recentSources : List (ContextPackSource digest) :=
  input.optionalSources.filter (·.kind == .recentRaw)

/-- The raw recent sources outside the newest `recent_item_limit`. -/
def olderRecent : List (ContextPackSource digest) :=
  (recentSources digest input).take
    ((recentSources digest input).length - input.policy.recentItemLimit)

/-- The newest `recent_item_limit` raw recent sources. -/
def newestRecent : List (ContextPackSource digest) :=
  (recentSources digest input).drop
    ((recentSources digest input).length - input.policy.recentItemLimit)

theorem recent_split :
    olderRecent digest input ++ newestRecent digest input = recentSources digest input :=
  List.take_append_drop _ _

theorem sortedByTag_split : sortedByTag digest input.optionalSources =
    otherSources digest input ++ (olderRecent digest input ++ newestRecent digest input) := by
  obtain ⟨_, byTag, stable⟩ := sortedByTag_stable digest input.optionalSources
  rw [recent_split, recentSources, ← stable]
  apply eq_filter_append_filter
  refine byTag.imp fun {a b} tags recent => ?_
  have kind : a.kind = .recentRaw := by simpa using recent
  rw [kind] at tags
  cases other : b.kind <;> rw [other] at tags <;> first | rfl | (revert tags; decide)

theorem otherSources_kind : ∀ source ∈ otherSources digest input, source.kind ≠ .recentRaw :=
  fun source member => by simpa using (List.mem_filter.mp member).2

theorem recentSources_kind : ∀ source ∈ recentSources digest input, source.kind = .recentRaw :=
  fun source member => by simpa using (List.mem_filter.mp member).2

theorem olderRecent_kind : ∀ source ∈ olderRecent digest input, source.kind = .recentRaw :=
  fun source member => recentSources_kind digest input source (List.mem_of_mem_take member)

theorem newestRecent_kind : ∀ source ∈ newestRecent digest input, source.kind = .recentRaw :=
  fun source member => recentSources_kind digest input source (List.mem_of_mem_drop member)

theorem eligibleFlags_others (first seen : Nat) (sources : List (ContextPackSource digest))
    (others : ∀ source ∈ sources, source.kind ≠ .recentRaw)
    (rest : List (ContextPackSource digest)) :
    eligibleFlags digest first seen (sources ++ rest) =
      sources.map (fun _ => true) ++ eligibleFlags digest first seen rest := by
  induction sources with
  | nil => rfl
  | cons source sources ih =>
    simp only [List.cons_append, eligibleFlags, others source List.mem_cons_self, ne_eq,
      not_false_eq_true, if_true, List.map_cons]
    rw [ih fun other member => others other (List.mem_cons_of_mem _ member)]

theorem eligibleFlags_recent (first seen : Nat) {sources : List (ContextPackSource digest)}
    (recent : ∀ source ∈ sources, source.kind = .recentRaw)
    (rest : List (ContextPackSource digest)) (eligible : Bool)
    (decided : ∀ position, seen < position → position ≤ seen + sources.length →
      decide (position > first) = eligible) :
    eligibleFlags digest first seen (sources ++ rest) =
      sources.map (fun _ => eligible) ++
        eligibleFlags digest first (seen + sources.length) rest := by
  induction sources generalizing seen with
  | nil => rfl
  | cons source sources ih =>
    have own := decided (seen + 1) (Nat.lt_succ_self _) (by simp)
    simp only [List.cons_append, eligibleFlags, recent source List.mem_cons_self, ne_eq,
      not_true_eq_false, if_false, List.map_cons, own]
    rw [ih (seen + 1) fun other member => recent other (List.mem_cons_of_mem _ member)]
    · rw [List.length_cons, Nat.add_assoc, Nat.add_comm 1]
    · intro position after within
      apply decided position (by omega)
      rw [List.length_cons]
      omega

/-- The pinned source and the other sources count, and of the recent ones the newest. -/
theorem eligibleSources_eq : eligibleSources digest input =
    true :: ((otherSources digest input).map (fun _ => true) ++
      ((olderRecent digest input).map (fun _ => false) ++
        (newestRecent digest input).map fun _ => true)) := by
  have pinned : input.pinned.source.kind ≠ .recentRaw := by
    rw [input.pinned.pinned]
    decide
  have ordered : orderedSources digest input = input.pinned.source ::
      (otherSources digest input ++ (olderRecent digest input ++ newestRecent digest input)) :=
    congrArg (input.pinned.source :: ·) (sortedByTag_split digest input)
  have count : (orderedSources digest input).countP (·.kind == .recentRaw) =
      (recentSources digest input).length := by
    rw [orderedSources, List.countP_cons_of_neg (by simpa using pinned), recentSources,
      (List.perm_insertionSort _ _).countP_eq, List.countP_eq_length_filter]
  have older : (olderRecent digest input).length =
      (recentSources digest input).length - input.policy.recentItemLimit := by
    rw [olderRecent, List.length_take]
    omega
  unfold eligibleSources
  dsimp only
  rw [count, ← older, ordered]
  have front := eligibleFlags_others digest (olderRecent digest input).length 0
    (input.pinned.source :: otherSources digest input)
    (List.forall_mem_cons.mpr ⟨pinned, otherSources_kind digest input⟩)
    (olderRecent digest input ++ newestRecent digest input)
  rw [List.cons_append] at front
  rw [front, List.map_cons, List.cons_append]
  rw [eligibleFlags_recent digest _ 0 (olderRecent_kind digest input) _ false
    fun position _ within => by
      rw [Nat.zero_add] at within
      simpa using within]
  have back := eligibleFlags_recent digest (olderRecent digest input).length
    (0 + (olderRecent digest input).length) (newestRecent_kind digest input) []
    true fun position after _ => by
      rw [Nat.zero_add] at after
      simpa using after
  rw [List.append_nil] at back
  rw [back]
  simp [eligibleFlags]

/-- The given values in the marked places, and nothing in the others. -/
def spread : List Bool → List Nat → List Nat
  | [], _ => []
  | false :: flags, given => 0 :: spread flags given
  | true :: flags, [] => 0 :: spread flags []
  | true :: flags, value :: given => value :: spread flags given

theorem spread_marked {α : Type*} (marked : List α) (flags : List Bool) {given : List Nat}
    (enough : marked.length ≤ given.length) :
    spread (marked.map (fun _ => true) ++ flags) given =
      given.take marked.length ++ spread flags (given.drop marked.length) := by
  induction marked generalizing given with
  | nil => simp
  | cons _ marked ih =>
    cases given with
    | nil => simp at enough
    | cons value given =>
      rw [List.length_cons, List.length_cons, Nat.add_le_add_iff_right] at enough
      simp only [List.map_cons, List.cons_append, spread, ih enough, List.length_cons,
        List.take_succ_cons, List.drop_succ_cons]

theorem spread_unmarked {α : Type*} (unmarked : List α) (flags : List Bool) (given : List Nat) :
    spread (unmarked.map (fun _ => false) ++ flags) given =
      unmarked.map (fun _ => 0) ++ spread flags given := by
  induction unmarked with
  | nil => rfl
  | cons _ unmarked ih => simp only [List.map_cons, List.cons_append, spread, ih]

theorem zip_map_self {α β : Type*} (l : List α) (f : α → β) :
    l.zip (l.map f) = l.map fun a => (a, f a) := by
  induction l with
  | nil => rfl
  | cons a l ih => simp only [List.map_cons, List.zip_cons_cons, ih]

/-- The loop gives the eligible sources their fair shares and the others nothing. -/
theorem allocate_eq_spread (remaining : Nat)
    (entries : List (ContextPackSource digest × Bool)) :
    allocate digest remaining entries = spread (entries.map (·.2))
      (shares 6 remaining ((entries.filter (·.2)).map (·.1.content.length))) := by
  induction entries generalizing remaining with
  | nil => rfl
  | cons entry entries ih =>
    rcases entry with ⟨source, eligible⟩
    cases eligible with
    | false =>
      unfold allocate
      simp [spread, ih]
    | true =>
      have count : ((source, true) :: entries).countP (·.2) = (entries.filter (·.2)).length + 1 := by
        rw [List.countP_cons_of_pos rfl, List.countP_eq_length_filter]
      unfold allocate
      simp only [Bool.not_true, Bool.false_or, decide_eq_true_eq, count, List.map_cons,
        List.filter_cons, if_true, shares, List.length_map]
      split
      · simp [spread, ih]
      · rw [Nat.max_eq_left (Nat.le_add_left _ _)]
        simp [spread, ih]

/-- The room the loop starts with. -/
def room : Nat :=
  input.policy.maxBytes - encodedHeaderLength - 6 - input.pinned.source.content.length

def contentLengths (sources : List (ContextPackSource digest)) : List Nat :=
  sources.map (·.content.length)

/-- What the eligible optional sources are given. -/
def given : List Nat :=
  shares 6 (room digest input) (contentLengths digest (otherSources digest input) ++
    contentLengths digest (newestRecent digest input))

theorem given_length : (given digest input).length =
    (otherSources digest input).length + (newestRecent digest input).length := by
  simp [given, contentLengths]

/-- The other sources, each with what it is given. -/
def otherEntries : List (ContextPackSource digest × Nat) :=
  (otherSources digest input).zip ((given digest input).take (otherSources digest input).length)

/-- The older recent sources get nothing. -/
def olderEntries : List (ContextPackSource digest × Nat) :=
  (olderRecent digest input).map fun source => (source, 0)

/-- The newest recent sources, each with what it is given. -/
def newestEntries : List (ContextPackSource digest × Nat) :=
  (newestRecent digest input).zip ((given digest input).drop (otherSources digest input).length)

theorem entriesOf_eq : entriesOf digest input =
    (input.pinned.source, input.pinned.source.content.length) ::
      (otherEntries digest input ++ (olderEntries digest input ++ newestEntries digest input)) := by
  unfold otherEntries olderEntries newestEntries
  set others := otherSources digest input with othersEq
  set older := olderRecent digest input with olderEq
  set newest := newestRecent digest input with newestEq
  have ordered : orderedSources digest input = input.pinned.source :: (others ++ (older ++ newest)) :=
    congrArg (input.pinned.source :: ·) (sortedByTag_split digest input)
  have flags : eligibleSources digest input = true :: (others.map (fun _ => true) ++
      (older.map (fun _ => false) ++ newest.map fun _ => true)) := eligibleSources_eq digest input
  have length : (given digest input).length = others.length + newest.length :=
    given_length digest input
  have tagged : ((orderedSources digest input).zip (eligibleSources digest input)).drop 1 =
      others.map (·, true) ++ (older.map (·, false) ++ newest.map (·, true)) := by
    rw [ordered, flags, List.zip_cons_cons, List.drop_one, List.tail_cons,
      List.zip_append (by simp), List.zip_append (by simp), zip_map_self, zip_map_self,
      zip_map_self]
  have eligible : ((others.map (·, true) ++ (older.map (·, false) ++ newest.map (·, true))).filter
      (·.2)).map (·.1.content.length) = contentLengths digest others ++ contentLengths digest newest := by
    simp [List.filter_map, Function.comp_def, contentLengths]
  have represented : representedLengths digest input = input.pinned.source.content.length ::
      ((given digest input).take others.length ++ (older.map (fun _ => 0) ++
        (given digest input).drop others.length)) := by
    unfold representedLengths
    dsimp only
    rw [tagged, allocate_eq_spread, eligible]
    change _ :: spread _ (given digest input) = _
    simp only [List.map_append, List.map_map, Function.comp_def]
    rw [spread_marked others _ (by omega), spread_unmarked]
    have rest : ((given digest input).drop others.length).length = newest.length := by
      rw [List.length_drop]
      omega
    have back := spread_marked newest [] (Nat.le_of_eq rest.symm)
    rw [List.append_nil] at back
    rw [back, ← rest, List.take_length, List.drop_length]
    simp [spread]
  unfold entriesOf
  rw [ordered, represented, List.zip_cons_cons, List.zip_append (by simp [length]),
    List.zip_append (by simp), zip_map_self]

theorem otherEntries_kind : ∀ entry ∈ otherEntries digest input, entry.1.kind ≠ .recentRaw :=
  fun entry member => otherSources_kind digest input entry.1 (List.of_mem_zip member).1

theorem olderEntries_kind : ∀ entry ∈ olderEntries digest input, entry.1.kind = .recentRaw := by
  intro entry member
  obtain ⟨source, known, rfl⟩ := List.mem_map.mp member
  exact olderRecent_kind digest input source known

theorem newestEntries_kind : ∀ entry ∈ newestEntries digest input, entry.1.kind = .recentRaw :=
  fun entry member => newestRecent_kind digest input entry.1 (List.of_mem_zip member).1

theorem compiledManifest_eq : compiledManifest digest input =
    manifestOf digest (input.pinned.source, input.pinned.source.content.length) ::
      ((otherEntries digest input).map (manifestOf digest) ++
        ((olderEntries digest input).map (manifestOf digest) ++
          (newestEntries digest input).map (manifestOf digest))) := by
  rw [compiledManifest, entriesOf_eq, List.map_cons, List.map_append, List.map_append]

end Input

/-- The entry is that of the source. -/
structure Describes (source : ContextPackSource digest) (entry : ContextSourceManifest) : Prop where
  kind : entry.kind = source.kind
  sourceId : entry.sourceId = source.sourceId
  revision : entry.revision = source.revision
  contentDigest : entry.contentDigest = source.contentDigest
  artifact : entry.artifact = source.artifact
  original : entry.originalByteLength.toNat = source.content.length

theorem manifestOf_describes (entry : ContextPackSource digest × Nat) :
    Describes digest entry.1 (manifestOf digest entry) :=
  ⟨rfl, rfl, rfl, rfl, rfl, toNat_ofNat_of_le entry.1.contentBound⟩

/-- The raw recent entries, oldest first. -/
def recentEntries (manifest : List ContextSourceManifest) : List ContextSourceManifest :=
  manifest.filter (·.kind == .recentRaw)

/-- The optional entries that may be represented: all but the recent ones outside the window. -/
def eligibleEntries (policy : ContextPackPolicy) (manifest : List ContextSourceManifest) :
    List ContextSourceManifest :=
  manifest.tail.filter (fun entry => !(entry.kind == .recentRaw)) ++
    (recentEntries manifest).drop ((recentEntries manifest).length - policy.recentItemLimit)

/-- Order, window and floor of an allocation. -/
structure Allotted (input : ContextPackInput digest) (manifest : List ContextSourceManifest) :
    Prop where
  listed : ∃ sorted, StablySorted digest sorted input.optionalSources ∧
    List.Forall₂ (Describes digest) (input.pinned.source :: sorted) manifest
  pinned : ∃ first rest, manifest = first :: rest ∧ first.disposition = .complete ∧
    first.includedByteLength.toNat = input.pinned.source.content.length
  windowed : ∀ entry ∈ (recentEntries manifest).take
    ((recentEntries manifest).length - input.policy.recentItemLimit), entry.disposition = .omitted
  within : ∀ entry ∈ manifest, entry.includedByteLength.toNat ≤ entry.originalByteLength.toNat
  floor : ∀ most,
    (∀ entry ∈ eligibleEntries input.policy manifest, entry.originalByteLength.toNat ≤ most) →
    (eligibleEntries input.policy manifest).length * (6 + most) ≤
      input.policy.maxBytes - encodedHeaderLength - 6 - input.pinned.source.content.length →
    ∀ entry ∈ eligibleEntries input.policy manifest, entry.originalByteLength ≠ 0 →
      entry.disposition = .complete

section Compiled

variable (input : ContextPackInput digest)

theorem compiledManifest_listed :
    List.Forall₂ (Describes digest)
      (input.pinned.source :: sortedByTag digest input.optionalSources)
      (compiledManifest digest input) := by
  have sources : (entriesOf digest input).map (·.1) =
      input.pinned.source :: sortedByTag digest input.optionalSources := entriesOf_sources digest input
  rw [← sources, compiledManifest, List.forall₂_map_left_iff, List.forall₂_map_right_iff,
    List.forall₂_same]
  exact fun entry _ => manifestOf_describes digest entry

theorem filter_recent {entries : List (ContextPackSource digest × Nat)}
    (recent : ∀ entry ∈ entries, entry.1.kind = .recentRaw) :
    (entries.map (manifestOf digest)).filter (·.kind == .recentRaw) =
        entries.map (manifestOf digest) ∧
      (entries.map (manifestOf digest)).filter (fun entry => !(entry.kind == .recentRaw)) = [] := by
  rw [List.filter_eq_self, List.filter_eq_nil_iff]
  constructor <;>
  · intro entry member
    obtain ⟨known, inside, rfl⟩ := List.mem_map.mp member
    simp [manifestOf, recent known inside]

theorem filter_others {entries : List (ContextPackSource digest × Nat)}
    (others : ∀ entry ∈ entries, entry.1.kind ≠ .recentRaw) :
    (entries.map (manifestOf digest)).filter (·.kind == .recentRaw) = [] ∧
      (entries.map (manifestOf digest)).filter (fun entry => !(entry.kind == .recentRaw)) =
        entries.map (manifestOf digest) := by
  rw [List.filter_eq_self, List.filter_eq_nil_iff]
  constructor <;>
  · intro entry member
    obtain ⟨known, inside, rfl⟩ := List.mem_map.mp member
    simp [manifestOf, others known inside]

theorem recentEntries_eq : recentEntries (compiledManifest digest input) =
    (olderEntries digest input).map (manifestOf digest) ++
      (newestEntries digest input).map (manifestOf digest) := by
  rw [recentEntries, compiledManifest_eq,
    List.filter_cons_of_neg (by simp [manifestOf, input.pinned.pinned]),
    List.filter_append, List.filter_append,
    (filter_others digest (otherEntries_kind digest input)).1,
    (filter_recent digest (olderEntries_kind digest input)).1,
    (filter_recent digest (newestEntries_kind digest input)).1, List.nil_append]

/-- Outside the window are the entries of the older recent sources. -/
theorem recentEntries_window : (recentEntries (compiledManifest digest input)).length -
    input.policy.recentItemLimit = (olderEntries digest input).length := by
  have shared := given_length digest input
  have split := congrArg List.length (recent_split digest input)
  have older : (olderRecent digest input).length =
      (recentSources digest input).length - input.policy.recentItemLimit := by
    rw [olderRecent, List.length_take]
    omega
  rw [List.length_append] at split
  rw [recentEntries_eq, olderEntries, newestEntries]
  simp only [List.length_append, List.length_map, List.length_zip, List.length_drop]
  omega

theorem eligibleEntries_eq :
    eligibleEntries input.policy (compiledManifest digest input) =
      ((otherSources digest input ++ newestRecent digest input).zip (given digest input)).map
        (manifestOf digest) := by
  have shared := given_length digest input
  have front : ((given digest input).take (otherSources digest input).length).length =
      (otherSources digest input).length := by
    rw [List.length_take]
    omega
  have newest : (recentEntries (compiledManifest digest input)).drop
      ((recentEntries (compiledManifest digest input)).length - input.policy.recentItemLimit) =
        (newestEntries digest input).map (manifestOf digest) := by
    rw [recentEntries_window, recentEntries_eq]
    exact List.drop_left' (by rw [List.length_map])
  have others : (compiledManifest digest input).tail.filter
      (fun entry => !(entry.kind == .recentRaw)) =
        (otherEntries digest input).map (manifestOf digest) := by
    rw [compiledManifest_eq, List.tail_cons, List.filter_append, List.filter_append,
      (filter_others digest (otherEntries_kind digest input)).2,
      (filter_recent digest (olderEntries_kind digest input)).2,
      (filter_recent digest (newestEntries_kind digest input)).2, List.append_nil, List.append_nil]
  unfold eligibleEntries
  rw [others, newest, ← List.map_append, otherEntries, newestEntries, ← List.zip_append front.symm,
    List.take_append_drop]

theorem compiledManifest_floor {most : Nat}
    (small : ∀ entry ∈ eligibleEntries input.policy (compiledManifest digest input),
      entry.originalByteLength.toNat ≤ most)
    (enough : (eligibleEntries input.policy (compiledManifest digest input)).length * (6 + most) ≤
      room digest input) :
    ∀ entry ∈ eligibleEntries input.policy (compiledManifest digest input),
      entry.originalByteLength ≠ 0 → entry.disposition = .complete := by
  have entries := eligibleEntries_eq digest input
  have count := given_length digest input
  set sources := otherSources digest input ++ newestRecent digest input with sourcesEq
  have lengths : (given digest input).length = sources.length := by
    rw [count, sourcesEq, List.length_append]
  have asked : contentLengths digest (otherSources digest input) ++
      contentLengths digest (newestRecent digest input) = contentLengths digest sources := by
    rw [sourcesEq]
    simp [contentLengths]
  have bounded : ∀ source ∈ sources, source.content.length ≤ most := by
    intro source member
    obtain ⟨position, inside, rfl⟩ := List.getElem_of_mem member
    have listed : manifestOf digest (sources[position], (given digest input)[position]) ∈
        eligibleEntries input.policy (compiledManifest digest input) := by
      rw [entries, List.mem_map]
      refine ⟨_, ?_, rfl⟩
      rw [List.mem_iff_getElem]
      exact ⟨position, by rw [List.length_zip]; omega, by rw [List.getElem_zip]⟩
    have := small _ listed
    rwa [(manifestOf_describes digest _).original] at this
  have total : (eligibleEntries input.policy (compiledManifest digest input)).length =
      (contentLengths digest sources).length := by
    rw [entries, contentLengths, List.length_map, List.length_map, List.length_zip, lengths,
      Nat.min_self]
  have whole : given digest input = contentLengths digest sources := by
    unfold given
    rw [asked]
    refine shares_eq_self most (fun length member => ?_) (Nat.le_trans (Nat.le_of_eq ?_) enough)
    · obtain ⟨source, known, rfl⟩ := List.mem_map.mp member
      exact bounded source known
    · rw [total]
  intro entry member nonempty
  rw [entries, whole, contentLengths, zip_map_self, List.map_map] at member
  obtain ⟨source, _, rfl⟩ := List.mem_map.mp member
  have read := (manifestOf_describes digest (source, source.content.length)).original
  have some : source.content.length ≠ 0 := by
    intro none
    rw [none] at read
    exact nonempty (UInt64.toNat_inj.mp read)
  simp [manifestOf, some]

theorem compiledManifest_allotted : Allotted digest input (compiledManifest digest input) where
  listed := ⟨sortedByTag digest input.optionalSources,
    sortedByTag_stable digest input.optionalSources, compiledManifest_listed digest input⟩
  pinned := by
    have nonempty : input.pinned.source.content.length ≠ 0 :=
      fun none => input.pinned.nonempty (List.length_eq_zero_iff.mp none)
    refine ⟨_, _, compiledManifest_eq digest input, ?_, ?_⟩
    · simp [manifestOf, nonempty]
    · exact toNat_ofNat_of_le input.pinned.source.contentBound
  windowed := by
    intro entry member
    rw [recentEntries_window, recentEntries_eq, List.take_left' (by rw [List.length_map])] at member
    obtain ⟨known, inside, rfl⟩ := List.mem_map.mp member
    obtain ⟨source, _, rfl⟩ := List.mem_map.mp inside
    rfl
  within := by
    intro entry member
    obtain ⟨known, inside, rfl⟩ := List.mem_map.mp member
    have within := entriesOf_within digest input known inside
    have included := toNat_ofNat_of_le (Nat.le_trans within known.1.contentBound)
    rw [(manifestOf_describes digest known).original]
    exact Nat.le_trans (Nat.le_of_eq included) within
  floor := fun _ small enough => compiledManifest_floor digest input small enough

end Compiled

/-- A subtraction that reports when it would underflow. -/
def checkedSub (a b : Nat) : Option Nat := if b ≤ a then some (a - b) else none

/-- The allocation loop with each subtraction checked. -/
def allocateChecked : Nat → List (ContextPackSource digest × Bool) → Option (List Nat)
  | _, [] => some []
  | remaining, (source, eligible) :: rest =>
    if !eligible || remaining ≤ 6 then (allocateChecked remaining rest).map (0 :: ·)
    else do
      let remainingSelected := ((source, eligible) :: rest).countP (·.2)
      let shared ← checkedSub remaining 6
      let selected := min source.content.length (shared / max remainingSelected 1)
      let left ← checkedSub remaining (6 + selected)
      (allocateChecked left rest).map (selected :: ·)

/-- The represented lengths with each subtraction checked. -/
def representedLengthsChecked (input : ContextPackInput digest) : Option (List Nat) := do
  let behindHeader ← checkedSub input.policy.maxBytes encodedHeaderLength
  let behindFrame ← checkedSub behindHeader 6
  let remaining ← checkedSub behindFrame input.pinned.source.content.length
  let included ← allocateChecked digest remaining
    (((orderedSources digest input).zip (eligibleSources digest input)).drop 1)
  some (input.pinned.source.content.length :: included)

theorem checkedSub_of_le {a b : Nat} (fits : b ≤ a) : checkedSub a b = some (a - b) :=
  if_pos fits

theorem allocateChecked_eq (remaining : Nat)
    (entries : List (ContextPackSource digest × Bool)) :
    allocateChecked digest remaining entries = some (allocate digest remaining entries) := by
  induction entries generalizing remaining with
  | nil => rfl
  | cons entry entries ih =>
    rcases entry with ⟨source, eligible⟩
    unfold allocateChecked allocate
    split
    · rw [ih, Option.map_some]
    · rename_i admitted
      have above : ¬ remaining ≤ 6 := by
        simp only [Bool.or_eq_true, decide_eq_true_eq, not_or] at admitted
        exact admitted.2
      have fits := @share_room 6 _ source.content.length
        (max (((source, eligible) :: entries).countP (·.2)) 1) above
      simp only [checkedSub_of_le (Nat.le_of_not_le above), checkedSub_of_le fits, bind,
        Option.bind, ih, Option.map_some]

theorem representedLengthsChecked_eq {input : ContextPackInput digest}
    (compilable : Compilable digest input) :
    representedLengthsChecked digest input = some (representedLengths digest input) := by
  have fits := compilable.2.2.2
  have header : encodedHeaderLength ≤ input.policy.maxBytes := by omega
  have frame : 6 ≤ input.policy.maxBytes - encodedHeaderLength := by omega
  have pinned : input.pinned.source.content.length ≤
      input.policy.maxBytes - encodedHeaderLength - 6 := by omega
  unfold representedLengthsChecked representedLengths
  simp only [checkedSub_of_le header, checkedSub_of_le frame, checkedSub_of_le pinned,
    allocateChecked_eq, bind, Option.bind]

/-- Of every compiled input the manifest lists the pinned source first and whole and then the
optional ones in a stable order by kind tag, omits the recent ones outside the window, includes
no more than there is, and omits nothing that the room has a place for. None of the
subtractions on the way there underflows or saturates. -/
theorem contextPack_allocation_is_sound {input : ContextPackInput digest} {pack : ContextPack}
    (compiled : compileContextPack digest input = .ok pack) :
    Allotted digest input pack.sourceManifest ∧
      representedLengthsChecked digest input = some (representedLengths digest input) := by
  have compilable := compilable_of_ok digest compiled
  obtain ⟨encoded, _, result⟩ := compileContextPack_eq_ok digest compilable
  rw [compiled, Except.ok.injEq] at result
  subst result
  exact ⟨compiledManifest_allotted digest input, representedLengthsChecked_eq digest compilable⟩

theorem sampleRevision_positive : (1 : UInt64) ≠ 0 := by decide

def sampleSource (kind : ContextSourceKind) (content : List UInt8)
    (bound : content.length ≤ maxContextSourceInputBytes) (untyped : kind ≠ .artifact) :
    ContextPackSource sampleBlobDigest where
  kind
  sourceId := "source"
  revision := 1
  content
  contentDigest := sampleBlobDigest content
  artifact := none
  idBound := by decide
  revisionPositive := sampleRevision_positive
  contentBound := bound
  digested := rfl
  typed := by cases kind <;> first | rfl | exact absurd rfl untyped

/-- Behind the pinned source 8 bytes are left for two recent ones. -/
def sampleInput : ContextPackInput sampleBlobDigest where
  conversationId := ⟨"00000000-0000-4000-8000-000000000001", by decide⟩
  possibleSideEffects := .unknown
  policy := ⟨1024, 8, by decide, by decide⟩
  pinned := {
    source := sampleSource .pinnedRevision (List.replicate 877 120)
      (by rw [List.length_replicate]; decide) (by decide)
    pinned := rfl
    nonempty := nofun }
  optionalSources := [
    sampleSource .recentRaw (utf8 "école") (by decide) (by decide),
    sampleSource .recentRaw (utf8 "newest") (by decide) (by decide)]

theorem sampleInput_lengths : sampleInput.pinned.source.content.length = 877 ∧
    contentLengths sampleBlobDigest sampleInput.optionalSources = [6, 6] :=
  ⟨List.length_replicate, by decide⟩

theorem sampleInput_compilable : Compilable sampleBlobDigest sampleInput := by
  refine ⟨by decide, by decide, ?_, ?_⟩
  · have optional := sampleInput_lengths.2
    unfold contentLengths at optional
    rw [sourceBytes, sampleInput_lengths.1, optional]
    decide
  · rw [sampleInput_lengths.1]
    decide

theorem sampleInput_allocated : ∃ pack,
    compileContextPack sampleBlobDigest sampleInput = .ok pack ∧
      Allotted sampleBlobDigest sampleInput pack.sourceManifest ∧
      representedLengthsChecked sampleBlobDigest sampleInput =
        some (representedLengths sampleBlobDigest sampleInput) := by
  obtain ⟨encoded, _, compiled⟩ := compileContextPack_eq_ok sampleBlobDigest sampleInput_compilable
  exact ⟨_, compiled, contextPack_allocation_is_sound sampleBlobDigest compiled⟩

end Decodex.Guarantees.ContextPackAllocation
