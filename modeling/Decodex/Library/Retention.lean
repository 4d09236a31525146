import Mathlib.Data.List.Nodup
import Mathlib.Order.Lattice

/-!
# Dropping the oldest

What a sequence of evictions leaves of a list whose items fall into groups and have an age: a
sublist, and within one group whatever was dropped is older than all that stayed. Dropping the
oldest of the list, the oldest of one group and a whole group all have this form, and it
composes. Nothing here names a particular cache.
-/
namespace Decodex.Library

variable {α β κ : Type} [LinearOrder β]

/-- What evictions leave of a list. -/
structure Retained (age : α → β) (group : α → κ) (before after : List α) : Prop where
  sublist : after.Sublist before
  recent : ∀ gone ∈ before, gone ∉ after → ∀ kept ∈ after, group gone = group kept →
    age gone < age kept

namespace Retained

variable {age : α → β} {group : α → κ} {before middle after : List α}

theorem refl (items : List α) : Retained age group items items where
  sublist := List.Sublist.refl _
  recent := fun _ listed lost => absurd listed lost

theorem trans (first : Retained age group before middle) (second : Retained age group middle after) :
    Retained age group before after where
  sublist := second.sublist.trans first.sublist
  recent := by
    intro gone listed lost kept stays same
    by_cases inside : gone ∈ middle
    · exact second.recent gone inside lost kept stays same
    · exact first.recent gone listed inside kept (second.sublist.subset stays) same

/-- A whole group may go. -/
theorem dropGroup [DecidableEq κ] (items : List α) (dropped : κ) :
    Retained age group items (items.filter fun item => decide (group item ≠ dropped)) where
  sublist := List.filter_sublist
  recent := by
    intro gone listed lost kept stays same
    have own : group gone = dropped := by
      by_contra other
      exact lost (List.mem_filter.mpr ⟨listed, decide_eq_true other⟩)
    have other := of_decide_eq_true (List.mem_filter.mp stays).2
    exact absurd (same.symm.trans own) other

/-- The oldest of some items may go, where all of its group are among them. -/
theorem eraseOldest {items : List α} {position : Nat} (inside : position < items.length)
    (distinct : (items.map age).Nodup)
    (oldest : ∀ item ∈ items, group item = group items[position] → age items[position] ≤ age item) :
    Retained age group items (items.eraseIdx position) where
  sublist := List.eraseIdx_sublist _ _
  recent := by
    intro gone listed lost kept stays same
    obtain ⟨place, bound, rfl⟩ := List.getElem_of_mem listed
    have erased : place = position := by
      by_contra other
      exact lost (List.mem_eraseIdx_iff_getElem.mpr ⟨place, bound, other, rfl⟩)
    subst erased
    obtain ⟨other, within, apart, rfl⟩ := List.mem_eraseIdx_iff_getElem.mp stays
    refine lt_of_le_of_ne (oldest _ (List.getElem_mem within) same.symm) ?_
    intro equal
    have same := List.inj_on_of_nodup_map distinct (List.getElem_mem bound)
      (List.getElem_mem within) equal
    exact apart ((List.Nodup.of_map age distinct).getElem_inj_iff.mp same).symm

end Retained

end Decodex.Library
