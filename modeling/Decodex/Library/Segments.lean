import Mathlib.Algebra.GroupWithZero.Nat
import Mathlib.Data.List.Basic
import Mathlib.Data.List.Sort
import Mathlib.Tactic.Common

/-!
# Contiguous segments

A list of pieces, each with the offset it is said to start at. The pieces are contiguous when
each one starts where the one before it ends. Then their contents, joined, hold every piece at
its own offset. Nothing here names a particular format.
-/
namespace Decodex.Library

variable {σ α : Type} (offset : σ → Nat) (content : σ → List α)

/-- The pieces follow each other from `start` on, without gap or overlap. -/
def Contiguous : Nat → List σ → Prop
  | _, [] => True
  | start, piece :: rest =>
    offset piece = start ∧ Contiguous (start + (content piece).length) rest

/-- What the pieces hold together. -/
def joined (pieces : List σ) : List α := pieces.flatMap content

variable {offset content} {start : Nat} {pieces : List σ} {piece : σ}

theorem joined_append (pieces later : List σ) :
    joined content (pieces ++ later) = joined content pieces ++ joined content later :=
  List.flatMap_append

theorem joined_single (piece : σ) : joined content [piece] = content piece := by
  simp [joined]

theorem joined_length (pieces : List σ) :
    (joined content pieces).length = (pieces.map fun piece => (content piece).length).sum := by
  unfold joined
  rw [List.length_flatMap]

/-- One more piece fits where the others end. -/
theorem contiguous_append : Contiguous offset content start (pieces ++ [piece]) ↔
    Contiguous offset content start pieces ∧
      offset piece = start + (joined content pieces).length := by
  induction pieces generalizing start with
  | nil => simp [Contiguous, joined]
  | cons first rest ih =>
    simp only [List.cons_append, Contiguous, ih, joined, List.flatMap_cons, List.length_append]
    rw [and_assoc, Nat.add_assoc]

/-- A piece starts no earlier than the first one. -/
theorem Contiguous.start_le (contiguous : Contiguous offset content start pieces)
    (member : piece ∈ pieces) : start ≤ offset piece := by
  induction pieces generalizing start with
  | nil => cases member
  | cons first rest ih =>
    obtain ⟨begins, follows⟩ := contiguous
    rcases List.mem_cons.mp member with rfl | member
    · omega
    · have later := ih follows member
      omega

/-- Pieces with contents stand in the order of their offsets. -/
theorem Contiguous.increasing (contiguous : Contiguous offset content start pieces)
    (filled : ∀ piece ∈ pieces, content piece ≠ []) :
    pieces.Pairwise fun left right => offset left < offset right := by
  induction pieces generalizing start with
  | nil => exact .nil
  | cons first rest ih =>
    obtain ⟨begins, follows⟩ := contiguous
    have positive := List.length_pos_of_ne_nil (filled first (by simp))
    refine .cons (fun piece member => ?_)
      (ih follows fun piece member => filled piece (List.mem_cons_of_mem _ member))
    have later := follows.start_le member
    omega

/-- The joined contents hold each piece at its offset. -/
theorem Contiguous.slice (contiguous : Contiguous offset content start pieces)
    (member : piece ∈ pieces) :
    ((joined content pieces).drop (offset piece - start)).take (content piece).length =
      content piece := by
  induction pieces generalizing start with
  | nil => cases member
  | cons first rest ih =>
    obtain ⟨begins, follows⟩ := contiguous
    change ((content first ++ joined content rest).drop _).take _ = _
    rcases List.mem_cons.mp member with rfl | member
    · rw [begins, Nat.sub_self, List.drop_zero, List.take_left]
    · have later := follows.start_le member
      have past : offset piece - start =
          (content first).length + (offset piece - (start + (content first).length)) := by omega
      rw [past, List.drop_length_add_append]
      exact ih follows member

/-- Sorting contiguous pieces by offset leaves them as they are. -/
theorem Contiguous.sorted (contiguous : Contiguous offset content start pieces)
    (filled : ∀ piece ∈ pieces, content piece ≠ []) :
    pieces.insertionSort (fun left right => offset left ≤ offset right) = pieces :=
  List.Pairwise.insertionSort_eq
    ((contiguous.increasing filled).imp fun below => Nat.le_of_lt below)

end Decodex.Library
