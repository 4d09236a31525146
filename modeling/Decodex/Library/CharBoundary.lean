import Mathlib.Algebra.Order.Ring.Int
import Mathlib.Data.List.Infix
import Mathlib.Data.Option.Basic

/-!
# Character boundaries

A text is a list of characters, and a position in it an offset in the bytes of its UTF-8
encoding. A position is a boundary exactly when the text splits there. The rules say what a
split, a slice and a cut that backs off to a boundary leave. Nothing here names a program.
-/
namespace Decodex.Library

/-- The length of the UTF-8 encoding. -/
def byteLength (chars : List Char) : Nat := (chars.map Char.utf8Size).sum

@[simp] theorem byteLength_nil : byteLength [] = 0 := rfl

@[simp] theorem byteLength_cons (c : Char) (chars : List Char) :
    byteLength (c :: chars) = c.utf8Size + byteLength chars := rfl

@[simp] theorem byteLength_append (a b : List Char) :
    byteLength (a ++ b) = byteLength a + byteLength b := by
  induction a with
  | nil => exact (Nat.zero_add _).symm
  | cons c a ih => rw [List.cons_append, byteLength_cons, byteLength_cons, ih, Nat.add_assoc]

theorem byteLength_eq_zero {chars : List Char} : byteLength chars = 0 ↔ chars = [] := by
  cases chars with
  | nil => simp
  | cons c chars =>
    have := c.utf8Size_pos
    simp only [byteLength_cons, reduceCtorEq, iff_false]
    omega

theorem byteLength_le_of_prefix {a b : List Char} (begins : a <+: b) :
    byteLength a ≤ byteLength b := by
  obtain ⟨rest, rfl⟩ := begins
  rw [byteLength_append]
  omega

/-- Of two beginnings of a text the shorter one begins the other. -/
theorem prefix_of_byteLength_le {a b chars : List Char} (left : a <+: chars) (right : b <+: chars)
    (shorter : byteLength a ≤ byteLength b) : a <+: b := by
  rcases List.prefix_or_prefix_of_prefix left right with begins | begins
  · exact begins
  · obtain ⟨rest, rfl⟩ := begins
    rw [byteLength_append] at shorter
    have none : rest = [] := byteLength_eq_zero.mp (by omega)
    rw [none, List.append_nil]

theorem byteLength_intercalate (separator first : List Char) (rest : List (List Char)) :
    byteLength (separator.intercalate (first :: rest)) =
      ((first :: rest).map byteLength).sum + byteLength separator * rest.length := by
  induction rest generalizing first with
  | nil => simp [List.intercalate]
  | cons second rest ih =>
    rw [List.intercalate_cons_cons, byteLength_append, byteLength_append, ih]
    simp only [List.map_cons, List.sum_cons, List.length_cons, Nat.mul_add]
    omega

/-- `str::split_at_checked`. -/
def splitAtByte : Nat → List Char → Option (List Char × List Char)
  | offset, [] => if offset = 0 then some ([], []) else none
  | offset, c :: chars =>
    if offset = 0 then some ([], c :: chars)
    else if c.utf8Size ≤ offset then
      (splitAtByte (offset - c.utf8Size) chars).map fun parts => (c :: parts.1, parts.2)
    else none

theorem splitAtByte_nil (offset : Nat) :
    splitAtByte offset [] = if offset = 0 then some ([], []) else none := rfl

theorem splitAtByte_cons (offset : Nat) (c : Char) (chars : List Char) :
    splitAtByte offset (c :: chars) =
      if offset = 0 then some ([], c :: chars)
      else if c.utf8Size ≤ offset then
        (splitAtByte (offset - c.utf8Size) chars).map fun parts => (c :: parts.1, parts.2)
      else none := rfl

theorem splitAtByte_append (a b : List Char) :
    splitAtByte (byteLength a) (a ++ b) = some (a, b) := by
  induction a with
  | nil => cases b <;> rfl
  | cons c a ih =>
    have := c.utf8Size_pos
    rw [List.cons_append, splitAtByte_cons, byteLength_cons, if_neg (by omega), if_pos (by omega),
      Nat.add_sub_cancel_left, ih]
    rfl

theorem splitAtByte_eq_some {offset : Nat} {chars a b : List Char} :
    splitAtByte offset chars = some (a, b) ↔ a ++ b = chars ∧ byteLength a = offset := by
  constructor
  · intro split
    induction chars generalizing offset a with
    | nil =>
      rw [splitAtByte_nil] at split
      split at split
      · rename_i zero
        cases split
        exact ⟨rfl, zero.symm⟩
      · cases split
    | cons c chars ih =>
      rw [splitAtByte_cons] at split
      split at split
      · rename_i zero
        cases split
        exact ⟨rfl, zero.symm⟩
      · split at split
        · rename_i fits
          obtain ⟨parts, found, same⟩ := Option.map_eq_some_iff.mp split
          cases same
          obtain ⟨rfl, size⟩ := ih found
          refine ⟨rfl, ?_⟩
          rw [byteLength_cons, size]
          omega
        · cases split
  · rintro ⟨rfl, rfl⟩
    exact splitAtByte_append a b

/-- `str::is_char_boundary`. -/
def isCharBoundary (chars : List Char) (offset : Nat) : Bool := (splitAtByte offset chars).isSome

theorem isCharBoundary_iff {chars : List Char} {offset : Nat} :
    isCharBoundary chars offset = true ↔ ∃ a, a <+: chars ∧ byteLength a = offset := by
  refine Option.isSome_iff_exists.trans ⟨?_, ?_⟩
  · rintro ⟨⟨a, b⟩, split⟩
    rw [splitAtByte_eq_some] at split
    obtain ⟨rfl, size⟩ := split
    exact ⟨a, List.prefix_append _ _, size⟩
  · rintro ⟨a, ⟨b, rfl⟩, rfl⟩
    exact ⟨(a, b), splitAtByte_append a b⟩

/-- `str::get` of a range, with what stands before and behind it. -/
def slice (start stop : Nat) (chars : List Char) : Option (List Char × List Char × List Char) :=
  if stop < start then none
  else
    (splitAtByte start chars).bind fun parts =>
      (splitAtByte (stop - start) parts.2).map fun inner => (parts.1, inner.1, inner.2)

theorem slice_of_lt {start stop : Nat} (reversed : stop < start) (chars : List Char) :
    slice start stop chars = none := if_pos reversed

theorem slice_of_le {start stop : Nat} (ordered : start ≤ stop) (chars : List Char) :
    slice start stop chars = (splitAtByte start chars).bind fun parts =>
      (splitAtByte (stop - start) parts.2).map fun inner => (parts.1, inner.1, inner.2) :=
  if_neg (Nat.not_lt.mpr ordered)

theorem slice_eq_some {start stop : Nat} {chars a b c : List Char} :
    slice start stop chars = some (a, b, c) ↔
      a ++ (b ++ c) = chars ∧ byteLength a = start ∧ start + byteLength b = stop := by
  rcases Nat.lt_or_ge stop start with reversed | ordered
  · rw [slice_of_lt reversed]
    refine ⟨nofun, ?_⟩
    rintro ⟨_, _, last⟩
    omega
  · rw [slice_of_le ordered]
    constructor
    · intro cut
      obtain ⟨⟨first, rest⟩, outer, cut⟩ := Option.bind_eq_some_iff.mp cut
      obtain ⟨⟨second, third⟩, inner, same⟩ := Option.map_eq_some_iff.mp cut
      cases same
      rw [splitAtByte_eq_some] at outer inner
      obtain ⟨rfl, front⟩ := outer
      obtain ⟨same, size⟩ := inner
      dsimp only at same size ⊢
      exact ⟨by rw [same], front, by omega⟩
    · rintro ⟨rfl, rfl, rfl⟩
      rw [splitAtByte_append, Option.bind_some, Nat.add_sub_cancel_left, splitAtByte_append]
      rfl

theorem slice_le {start stop : Nat} {chars a b c : List Char}
    (found : slice start stop chars = some (a, b, c)) :
    start ≤ stop ∧ stop ≤ byteLength chars := by
  rw [slice_eq_some] at found
  obtain ⟨rfl, rfl, rfl⟩ := found
  simp only [byteLength_append]
  omega

/-- A slice of what a text begins with is the same slice of any other text with this beginning. -/
theorem slice_of_prefix {start stop : Nat} {front rest a b c : List Char} (other : List Char)
    (found : slice start stop (front ++ rest) = some (a, b, c)) (inside : stop ≤ byteLength front) :
    ∃ c', slice start stop (front ++ other) = some (a, b, c') := by
  rw [slice_eq_some] at found
  obtain ⟨same, first, last⟩ := found
  have begins : a ++ b <+: front := by
    have left : a ++ b <+: front ++ rest := ⟨c, by rw [List.append_assoc, same]⟩
    apply prefix_of_byteLength_le left (List.prefix_append _ _)
    rw [byteLength_append]
    omega
  obtain ⟨tail, rfl⟩ := begins
  refine ⟨tail ++ other, ?_⟩
  rw [slice_eq_some]
  exact ⟨by simp [List.append_assoc], first, last⟩

/-- A slice behind the beginning of a text moves with what it stands behind. -/
theorem slice_of_suffix {start stop : Nat} {front rest a b c : List Char} (other : List Char)
    (found : slice start stop (front ++ rest) = some (a, b, c)) (behind : byteLength front ≤ start) :
    ∃ a', slice (start - byteLength front + byteLength other)
      (stop - byteLength front + byteLength other) (other ++ rest) = some (a', b, c) := by
  rw [slice_eq_some] at found
  obtain ⟨same, first, last⟩ := found
  have begins : front <+: a := by
    have right : a <+: front ++ rest := ⟨b ++ c, same⟩
    apply prefix_of_byteLength_le (List.prefix_append _ _) right
    omega
  obtain ⟨tail, rfl⟩ := begins
  rw [List.append_assoc, List.append_cancel_left_eq] at same
  rw [byteLength_append] at first
  refine ⟨other ++ tail, ?_⟩
  rw [slice_eq_some]
  refine ⟨?_, ?_, ?_⟩
  · rw [List.append_assoc, same]
  · rw [byteLength_append]
    omega
  · omega

/-- The characters outside some byte ranges, of a text that starts at an offset. -/
def keepOutside (ranges : List (Nat × Nat)) : Nat → List Char → List Char
  | _, [] => []
  | offset, c :: chars =>
    let rest := keepOutside ranges (offset + c.utf8Size) chars
    if ∃ range ∈ ranges, range.1 ≤ offset ∧ offset < range.2 then rest else c :: rest

theorem keepOutside_cons (ranges : List (Nat × Nat)) (offset : Nat) (c : Char)
    (chars : List Char) :
    keepOutside ranges offset (c :: chars) =
      if ∃ range ∈ ranges, range.1 ≤ offset ∧ offset < range.2 then
        keepOutside ranges (offset + c.utf8Size) chars
      else c :: keepOutside ranges (offset + c.utf8Size) chars := rfl

theorem keepOutside_append (ranges : List (Nat × Nat)) (offset : Nat) (a b : List Char) :
    keepOutside ranges offset (a ++ b) =
      keepOutside ranges offset a ++ keepOutside ranges (offset + byteLength a) b := by
  induction a generalizing offset with
  | nil => rfl
  | cons c a ih =>
    rw [List.cons_append, keepOutside_cons, keepOutside_cons, ih, byteLength_cons, ← Nat.add_assoc]
    split
    · rfl
    · rw [List.cons_append]

/-- Only the ranges that reach into the text matter. -/
theorem keepOutside_congr {left right : List (Nat × Nat)} {offset : Nat} {chars : List Char}
    (same : ∀ place, offset ≤ place → place < offset + byteLength chars →
      ((∃ range ∈ left, range.1 ≤ place ∧ place < range.2) ↔
        ∃ range ∈ right, range.1 ≤ place ∧ place < range.2)) :
    keepOutside left offset chars = keepOutside right offset chars := by
  induction chars generalizing offset with
  | nil => rfl
  | cons c chars ih =>
    have size := c.utf8Size_pos
    rw [byteLength_cons] at same
    rw [keepOutside_cons, keepOutside_cons,
      ih fun place after before => same place (by omega) (by omega)]
    have here := same offset (Nat.le_refl _) (by omega)
    by_cases inside : ∃ range ∈ left, range.1 ≤ offset ∧ offset < range.2
    · rw [if_pos inside, if_pos (here.mp inside)]
    · rw [if_neg inside, if_neg (mt here.mpr inside)]

theorem keepOutside_nil (offset : Nat) (chars : List Char) : keepOutside [] offset chars = chars := by
  induction chars generalizing offset with
  | nil => rfl
  | cons c chars ih => simp [keepOutside_cons, ih]

theorem keepOutside_covered {ranges : List (Nat × Nat)} {range : Nat × Nat} {offset : Nat}
    {chars : List Char} (listed : range ∈ ranges) (first : range.1 ≤ offset)
    (last : offset + byteLength chars ≤ range.2) : keepOutside ranges offset chars = [] := by
  induction chars generalizing offset with
  | nil => rfl
  | cons c chars ih =>
    have size := c.utf8Size_pos
    rw [byteLength_cons] at last
    rw [keepOutside_cons, ih (by omega) (by omega)]
    rw [if_pos ⟨range, listed, first, by omega⟩]

theorem keepOutside_behind {ranges : List (Nat × Nat)} {offset : Nat}
    (before : ∀ range ∈ ranges, range.2 ≤ offset) (chars : List Char) :
    keepOutside ranges offset chars = chars := by
  rw [← keepOutside_nil offset chars, keepOutside_congr, keepOutside_nil, keepOutside_nil]
  intro place after _
  constructor
  · rintro ⟨range, listed, _, inside⟩
    have := before range listed
    omega
  · rintro ⟨range, listed, _⟩
    cases listed

/-- Removing the last range first leaves what removing all of them leaves. -/
theorem keepOutside_concat {ranges : List (Nat × Nat)} {start stop : Nat} {chars a b c : List Char}
    (found : slice start stop chars = some (a, b, c))
    (earlier : ∀ range ∈ ranges, range.2 ≤ start) :
    keepOutside (ranges ++ [(start, stop)]) 0 chars = keepOutside ranges 0 (a ++ c) := by
  obtain ⟨rfl, first, last⟩ := slice_eq_some.mp found
  have front : keepOutside (ranges ++ [(start, stop)]) 0 a = keepOutside ranges 0 a := by
    apply keepOutside_congr
    intro place _ before
    simp only [List.mem_append, List.mem_singleton]
    constructor
    · rintro ⟨range, listed | rfl, inside⟩
      · exact ⟨range, listed, inside⟩
      · dsimp only at inside
        omega
    · rintro ⟨range, listed, inside⟩
      exact ⟨range, .inl listed, inside⟩
  have middle : keepOutside (ranges ++ [(start, stop)]) (0 + byteLength a) b = [] := by
    apply keepOutside_covered (List.mem_append_right _ (List.mem_singleton_self _))
    · dsimp only
      omega
    · dsimp only
      omega
  have behind : keepOutside (ranges ++ [(start, stop)]) (0 + byteLength a + byteLength b) c = c := by
    apply keepOutside_behind
    intro range listed
    rcases List.mem_append.mp listed with listed | listed
    · have := earlier range listed
      omega
    · rw [List.mem_singleton.mp listed]
      dsimp only
      omega
  have rest : keepOutside ranges (0 + byteLength a) c = c := by
    apply keepOutside_behind
    intro range listed
    have := earlier range listed
    omega
  rw [keepOutside_append, keepOutside_append, front, middle, behind, keepOutside_append, rest,
    List.nil_append]

/-- `while !text.is_char_boundary(end) { end -= 1 }`. -/
def floorBoundary (chars : List Char) : Nat → Nat
  | 0 => 0
  | offset + 1 =>
    if isCharBoundary chars (offset + 1) then offset + 1 else floorBoundary chars offset

theorem floorBoundary_succ (chars : List Char) (offset : Nat) :
    floorBoundary chars (offset + 1) =
      if isCharBoundary chars (offset + 1) then offset + 1 else floorBoundary chars offset := rfl

theorem floorBoundary_le (chars : List Char) (offset : Nat) :
    floorBoundary chars offset ≤ offset := by
  induction offset with
  | zero => exact Nat.le_refl _
  | succ offset ih =>
    rw [floorBoundary_succ]
    split
    · exact Nat.le_refl _
    · exact Nat.le_succ_of_le ih

theorem floorBoundary_boundary (chars : List Char) (offset : Nat) :
    isCharBoundary chars (floorBoundary chars offset) = true := by
  induction offset with
  | zero => exact isCharBoundary_iff.mpr ⟨[], List.nil_prefix, rfl⟩
  | succ offset ih =>
    rw [floorBoundary_succ]
    split
    · rename_i boundary
      exact boundary
    · exact ih

/-- No boundary is passed over. -/
theorem le_floorBoundary {chars : List Char} {boundary offset : Nat}
    (split : isCharBoundary chars boundary = true) (inside : boundary ≤ offset) :
    boundary ≤ floorBoundary chars offset := by
  induction offset with
  | zero => exact inside
  | succ offset ih =>
    rw [floorBoundary_succ]
    split
    · exact inside
    · rename_i passed
      apply ih
      rcases Nat.lt_or_eq_of_le inside with below | rfl
      · exact Nat.le_of_lt_succ below
      · exact absurd split passed

/-- `str::ceil_char_boundary`: characters are passed until the offset is reached. -/
def ceilBoundary : Nat → List Char → Nat
  | _, [] => 0
  | 0, _ :: _ => 0
  | offset + 1, c :: chars => c.utf8Size + ceilBoundary (offset + 1 - c.utf8Size) chars

theorem ceilBoundary_cons (offset : Nat) (c : Char) (chars : List Char) :
    ceilBoundary (offset + 1) (c :: chars) =
      c.utf8Size + ceilBoundary (offset + 1 - c.utf8Size) chars := rfl

theorem ceilBoundary_boundary (offset : Nat) (chars : List Char) :
    isCharBoundary chars (ceilBoundary offset chars) = true := by
  rw [isCharBoundary_iff]
  induction chars generalizing offset with
  | nil => exact ⟨[], List.nil_prefix, by cases offset <;> rfl⟩
  | cons c chars ih =>
    cases offset with
    | zero => exact ⟨[], List.nil_prefix, rfl⟩
    | succ offset =>
      obtain ⟨a, begins, size⟩ := ih (offset + 1 - c.utf8Size)
      refine ⟨c :: a, (List.prefix_cons_inj c).mpr begins, ?_⟩
      rw [byteLength_cons, ceilBoundary_cons, size]

theorem le_ceilBoundary {offset : Nat} {chars : List Char} (inside : offset ≤ byteLength chars) :
    offset ≤ ceilBoundary offset chars := by
  induction chars generalizing offset with
  | nil =>
    rw [byteLength_nil] at inside
    omega
  | cons c chars ih =>
    cases offset with
    | zero => exact Nat.zero_le _
    | succ offset =>
      rw [byteLength_cons] at inside
      have := @ih (offset + 1 - c.utf8Size) (by omega)
      rw [ceilBoundary_cons]
      omega

/-- What `String::truncate` keeps once the end has backed off from `limit`. -/
def cutAt (limit : Nat) (chars : List Char) : List Char :=
  match splitAtByte (floorBoundary chars (min (byteLength chars) limit)) chars with
  | some parts => parts.1
  | none => chars

theorem cutAt_split (limit : Nat) (chars : List Char) :
    cutAt limit chars <+: chars ∧
      byteLength (cutAt limit chars) = floorBoundary chars (min (byteLength chars) limit) := by
  obtain ⟨kept, ⟨rest, same⟩, size⟩ :=
    isCharBoundary_iff.mp (floorBoundary_boundary chars (min (byteLength chars) limit))
  have split := splitAtByte_eq_some.mpr ⟨same, size⟩
  unfold cutAt
  rw [split]
  exact ⟨⟨rest, same⟩, size⟩

theorem cutAt_begins (limit : Nat) (chars : List Char) : cutAt limit chars <+: chars :=
  (cutAt_split limit chars).1

theorem cutAt_le (limit : Nat) (chars : List Char) : byteLength (cutAt limit chars) ≤ limit := by
  rw [(cutAt_split limit chars).2]
  exact (floorBoundary_le _ _).trans (Nat.min_le_right _ _)

/-- A beginning that fits is kept. -/
theorem begins_cutAt {limit : Nat} {chars a : List Char} (begins : a <+: chars)
    (fits : byteLength a ≤ limit) : a <+: cutAt limit chars := by
  obtain ⟨kept, size⟩ := cutAt_split limit chars
  apply prefix_of_byteLength_le begins kept
  rw [size]
  apply le_floorBoundary (isCharBoundary_iff.mpr ⟨a, begins, rfl⟩)
  have := byteLength_le_of_prefix begins
  omega

theorem cutAt_eq_self {limit : Nat} {chars : List Char} (fits : byteLength chars ≤ limit) :
    cutAt limit chars = chars :=
  (cutAt_begins limit chars).eq_of_length_le (begins_cutAt (List.prefix_refl _) fits).length_le

/-- A cut keeps nothing of what follows exactly when no character of it fits. -/
theorem cutAt_append_eq_left {limit : Nat} {a b : List Char} (fits : byteLength a ≤ limit) :
    cutAt limit (a ++ b) = a ↔ ∀ c ∈ b.head?, limit < byteLength a + c.utf8Size := by
  cases b with
  | nil => simpa using cutAt_eq_self fits
  | cons c b =>
    simp only [List.head?_cons, Option.mem_some_iff, forall_eq']
    constructor
    · intro same
      by_contra room
      have begins : a ++ [c] <+: a ++ c :: b := (List.prefix_append_right_inj a).mpr ⟨b, rfl⟩
      have kept : a ++ [c] <+: cutAt limit (a ++ c :: b) := begins_cutAt begins (by simp; omega)
      rw [same] at kept
      have longer := kept.length_le
      simp only [List.length_append, List.length_singleton] at longer
      omega
    · intro full
      have kept := begins_cutAt (List.prefix_append a (c :: b)) fits
      have begins : a ++ [c] <+: a ++ c :: b := (List.prefix_append_right_inj a).mpr ⟨b, rfl⟩
      have bound := cutAt_le limit (a ++ c :: b)
      have short := prefix_of_byteLength_le (cutAt_begins limit (a ++ c :: b)) begins
        (by simp; omega)
      rcases List.prefix_concat_iff.mp short with same | within
      · rw [same] at bound
        simp only [byteLength_append, byteLength_cons, byteLength_nil] at bound
        omega
      · exact (kept.eq_of_length_le within.length_le).symm

end Decodex.Library
