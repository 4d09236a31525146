import Mathlib.Data.List.Nodup
import Mathlib.Data.List.Pairwise
import Mathlib.Data.List.Perm.Basic
import Mathlib.Data.List.Sort
import Mathlib.Tactic.Common

/-!
# Unions of intervals

Closed intervals between natural numbers, and the pairwise apart intervals that they make up when
those that touch or overlap are merged. `IsUnion` says what these are, and that they are unique;
`mergeFrom` finds them in one pass over intervals in the order of their starts. Nothing here names
a particular program.
-/
namespace Decodex.Library

/-- The first and the last point. -/
abbrev Interval := Nat × Nat

/-- Pairwise apart intervals that cover some intervals and nothing else. -/
structure IsUnion (spans parts : List Interval) : Prop where
  apart : parts.Pairwise fun a b => a.2 < b.1
  covers : ∀ span ∈ spans, ∃ part ∈ parts, part.1 ≤ span.1 ∧ span.2 ≤ part.2
  ordered : ∀ part ∈ parts, part.1 ≤ part.2
  starts : ∀ part ∈ parts, ∃ span ∈ spans, span.1 = part.1
  /-- Between two points of a part there is no gap. -/
  filled : ∀ part ∈ parts, ∀ point, part.1 ≤ point → point < part.2 →
    ∃ span ∈ spans, span.1 ≤ point ∧ point + 1 ≤ span.2

namespace IsUnion

variable {spans later parts left right : List Interval}

/-- Two parts that share a point are one. -/
theorem eq_of_shared (union : IsUnion spans parts) {a b : Interval} (inA : a ∈ parts)
    (inB : b ∈ parts) {point : Nat} (aStart : a.1 ≤ point) (aStop : point ≤ a.2)
    (bStart : b.1 ≤ point) (bStop : point ≤ b.2) : a = b := by
  by_contra differ
  have symmetric : Std.Symm fun a b : Interval => a.2 < b.1 ∨ b.2 < a.1 := ⟨fun _ _ h => h.symm⟩
  have pairwise : parts.Pairwise fun a b => a.2 < b.1 ∨ b.2 < a.1 :=
    union.apart.imp fun before => .inl before
  rcases pairwise.forall inA inB differ with before | after
  · omega
  · omega

/-- The parts of one union are parts of any other. -/
theorem mem_of_mem (valid : ∀ span ∈ spans, span.1 ≤ span.2) (first : IsUnion spans left)
    (second : IsUnion spans right) {a : Interval} (inA : a ∈ left) : a ∈ right := by
  obtain ⟨span, listed, starts⟩ := first.starts a inA
  obtain ⟨b, inB, before, after⟩ := second.covers span listed
  have ordered := valid span listed
  have aOrdered := first.ordered a inA
  have bOrdered := second.ordered b inB
  have sameStart : a.1 = b.1 := by
    by_contra differ
    obtain ⟨other, listed, early, late⟩ := second.filled b inB (a.1 - 1) (by omega) (by omega)
    obtain ⟨whole, inWhole, wholeStart, wholeStop⟩ := first.covers other listed
    have same := first.eq_of_shared inA inWhole (Nat.le_refl a.1) aOrdered (by omega) (by omega)
    rw [← same] at wholeStart
    omega
  have sameStop : a.2 = b.2 := by
    rcases Nat.lt_trichotomy a.2 b.2 with short | same | long
    · obtain ⟨other, listed, early, late⟩ := second.filled b inB a.2 (by omega) short
      obtain ⟨whole, inWhole, wholeStart, wholeStop⟩ := first.covers other listed
      have same := first.eq_of_shared inA inWhole aOrdered (Nat.le_refl a.2) (by omega) (by omega)
      rw [← same] at wholeStop
      omega
    · exact same
    · obtain ⟨other, listed, early, late⟩ := first.filled a inA b.2 (by omega) long
      obtain ⟨whole, inWhole, wholeStart, wholeStop⟩ := second.covers other listed
      have same := second.eq_of_shared inB inWhole bOrdered (Nat.le_refl b.2) (by omega) (by omega)
      rw [← same] at wholeStop
      omega
  rwa [Prod.ext sameStart sameStop]

theorem nodup (union : IsUnion spans parts) : parts.Nodup := by
  have ordered := union.ordered
  apply List.Pairwise.imp_of_mem _ union.apart
  intro a b inA _ before same
  have := ordered a inA
  rw [same] at this before
  omega

theorem unique (valid : ∀ span ∈ spans, span.1 ≤ span.2) (first : IsUnion spans left)
    (second : IsUnion spans right) : left = right := by
  have perm : left.Perm right := by
    rw [List.perm_ext_iff_of_nodup first.nodup second.nodup]
    intro part
    exact ⟨mem_of_mem valid first second, mem_of_mem valid second first⟩
  apply perm.eq_of_pairwise _ first.apart second.apart
  intro a b inA _ before after
  have := first.ordered a inA
  have := second.ordered b ‹_›
  omega

/-- A union depends on which intervals there are, not on their order. -/
theorem of_perm (union : IsUnion spans parts) (perm : spans.Perm later) : IsUnion later parts where
  apart := union.apart
  covers span listed := union.covers span (perm.mem_iff.mpr listed)
  ordered := union.ordered
  starts part listed := by
    obtain ⟨span, member, same⟩ := union.starts part listed
    exact ⟨span, perm.mem_iff.mp member, same⟩
  filled part listed point after before := by
    obtain ⟨span, member, inside⟩ := union.filled part listed point after before
    exact ⟨span, perm.mem_iff.mp member, inside⟩

/-- A part in front of a union that it does not reach. -/
theorem cons {part : Interval} (alone : IsUnion spans [part]) (rest : IsUnion later parts)
    (before : ∀ other ∈ parts, part.2 < other.1) : IsUnion (spans ++ later) (part :: parts) where
  apart := List.pairwise_cons.mpr ⟨before, rest.apart⟩
  covers span listed := by
    rcases List.mem_append.mp listed with listed | listed
    · obtain ⟨found, member, inside⟩ := alone.covers span listed
      rw [List.mem_singleton.mp member] at inside
      exact ⟨part, by simp, inside⟩
    · obtain ⟨found, member, inside⟩ := rest.covers span listed
      exact ⟨found, List.mem_cons_of_mem _ member, inside⟩
  ordered := List.forall_mem_cons.mpr ⟨alone.ordered part (by simp), rest.ordered⟩
  starts := by
    intro found member
    rcases List.mem_cons.mp member with rfl | member
    · obtain ⟨span, listed, same⟩ := alone.starts found (by simp)
      exact ⟨span, List.mem_append_left _ listed, same⟩
    · obtain ⟨span, listed, same⟩ := rest.starts found member
      exact ⟨span, List.mem_append_right _ listed, same⟩
  filled := by
    intro found member point after inner
    rcases List.mem_cons.mp member with rfl | member
    · obtain ⟨span, listed, inside⟩ := alone.filled found (by simp) point after inner
      exact ⟨span, List.mem_append_left _ listed, inside⟩
    · obtain ⟨span, listed, inside⟩ := rest.filled found member point after inner
      exact ⟨span, List.mem_append_right _ listed, inside⟩

/-- An interval alone is its own union. -/
theorem single {span : Interval} (valid : span.1 ≤ span.2) : IsUnion [span] [span] where
  apart := List.pairwise_singleton _ _
  covers other listed := by
    rw [List.mem_singleton.mp listed]
    exact ⟨span, List.mem_singleton_self span, Nat.le_refl _, Nat.le_refl _⟩
  ordered part listed := by
    rw [List.mem_singleton.mp listed]
    exact valid
  starts part listed := ⟨span, by simp_all⟩
  filled part listed point after before := by
    rw [List.mem_singleton.mp listed] at after before
    exact ⟨span, List.mem_singleton_self span, after, before⟩

/-- An interval that touches a part grows it. -/
theorem grow {part span : Interval} (alone : IsUnion spans [part])
    (behind : part.1 ≤ span.1) (touches : span.1 ≤ part.2) :
    IsUnion (spans ++ [span]) [(part.1, max part.2 span.2)] where
  apart := List.pairwise_singleton _ _
  covers other listed := by
    refine ⟨_, List.mem_singleton_self _, ?_⟩
    rcases List.mem_append.mp listed with listed | listed
    · obtain ⟨found, member, inside⟩ := alone.covers other listed
      rw [List.mem_singleton.mp member] at inside
      exact ⟨inside.1, le_trans inside.2 (Nat.le_max_left _ _)⟩
    · rw [List.mem_singleton.mp listed]
      exact ⟨behind, Nat.le_max_right _ _⟩
  ordered found member := by
    have ordered := alone.ordered part (by simp)
    rw [List.mem_singleton.mp member]
    dsimp only
    omega
  starts found member := by
    obtain ⟨other, listed, same⟩ := alone.starts part (by simp)
    rw [List.mem_singleton.mp member]
    exact ⟨other, List.mem_append_left _ listed, same⟩
  filled found member point after before := by
    rw [List.mem_singleton.mp member] at after before
    by_cases inside : point < part.2
    · obtain ⟨other, listed, reach⟩ := alone.filled part (by simp) point after inside
      exact ⟨other, List.mem_append_left _ listed, reach⟩
    · refine ⟨span, by simp, ?_, ?_⟩
      · omega
      · dsimp only at before
        omega

end IsUnion

/-- The parts of a part and of intervals that do not start before it. -/
def mergeFrom (part : Interval) : List Interval → List Interval
  | [] => [part]
  | span :: rest =>
    if span.1 ≤ part.2 then mergeFrom (part.1, max part.2 span.2) rest
    else part :: mergeFrom span rest

theorem le_of_mem_mergeFrom {part found : Interval} {spans : List Interval}
    (sorted : (part :: spans).Pairwise fun a b => a.1 ≤ b.1)
    (member : found ∈ mergeFrom part spans) : part.1 ≤ found.1 := by
  induction spans generalizing part with
  | nil =>
    rw [mergeFrom, List.mem_singleton] at member
    rw [member]
  | cons span rest ih =>
    rw [List.pairwise_cons, List.pairwise_cons] at sorted
    rw [mergeFrom] at member
    split at member
    · apply @ih (part.1, max part.2 span.2) _ member
      exact List.pairwise_cons.mpr ⟨fun other listed =>
        sorted.1 other (List.mem_cons_of_mem _ listed), sorted.2.2⟩
    · rcases List.mem_cons.mp member with rfl | member
      · exact Nat.le_refl _
      · have later := @ih span (List.pairwise_cons.mpr sorted.2) member
        exact Nat.le_trans (sorted.1 span (by simp)) later

theorem isUnion_mergeFrom {seen spans : List Interval} {part : Interval}
    (alone : IsUnion seen [part]) (sorted : (part :: spans).Pairwise fun a b => a.1 ≤ b.1)
    (valid : ∀ span ∈ spans, span.1 ≤ span.2) :
    IsUnion (seen ++ spans) (mergeFrom part spans) := by
  induction spans generalizing seen part with
  | nil =>
    rw [List.append_nil, mergeFrom]
    exact alone
  | cons span rest ih =>
    rw [List.forall_mem_cons] at valid
    have behind := (List.pairwise_cons.mp sorted).1 span (by simp)
    have tail := (List.pairwise_cons.mp sorted).2
    rw [mergeFrom]
    split
    · rename_i touches
      rw [List.append_cons]
      apply ih (alone.grow behind touches) _ valid.2
      exact List.pairwise_cons.mpr ⟨fun other listed =>
        Nat.le_trans behind ((List.pairwise_cons.mp tail).1 other listed),
        (List.pairwise_cons.mp tail).2⟩
    · rename_i apart
      apply alone.cons (ih (.single valid.1) tail valid.2)
      intro other listed
      have later := le_of_mem_mergeFrom tail listed
      omega

end Decodex.Library
