import Mathlib.Data.List.Range
import Mathlib.Data.Finset.Card
import Mathlib.Tactic.Common

/-!
# The least positive number outside a list

A search through `1, 2, …` that stops at the first number a list does not hold. A list of
length `n` cannot hold all of `1, …, n + 1`, so the search ends within its own length.
-/
namespace Decodex.Library

/-- The least positive number that `used` does not hold. -/
structure IsLeastUnused (used : List Nat) (number : Nat) : Prop where
  positive : 0 < number
  unused : number ∉ used
  least : ∀ smaller, 0 < smaller → smaller < number → smaller ∈ used

/-- Only which numbers are used matters. -/
theorem IsLeastUnused.congr {used other : List Nat} {number : Nat}
    (found : IsLeastUnused used number) (same : ∀ n, n ∈ used ↔ n ∈ other) :
    IsLeastUnused other number where
  positive := found.positive
  unused := fun member => found.unused ((same number).mpr member)
  least := fun smaller positive below => (same smaller).mp (found.least smaller positive below)

/-- `(1..).find(|n| !used.contains(n))`. -/
def leastUnused (used : List Nat) : Nat :=
  ((List.range' 1 (used.length + 1)).find? fun number => decide (number ∉ used)).getD 0

/-- One of the first `length + 1` positive numbers is unused. -/
theorem exists_unused (used : List Nat) :
    ∃ number ∈ List.range' 1 (used.length + 1), number ∉ used := by
  by_contra none
  simp only [not_exists, not_and, not_not] at none
  have inside : (List.range' 1 (used.length + 1)).toFinset ⊆ used.toFinset := by
    intro number member
    exact List.mem_toFinset.mpr (none number (List.mem_toFinset.mp member))
  have counted := Finset.card_le_card inside
  rw [List.toFinset_card_of_nodup List.nodup_range', List.length_range'] at counted
  have bound := List.toFinset_card_le used
  omega

theorem leastUnused_spec (used : List Nat) : IsLeastUnused used (leastUnused used) := by
  obtain ⟨witness, inRange, free⟩ := exists_unused used
  unfold leastUnused
  cases found : (List.range' 1 (used.length + 1)).find? fun number => decide (number ∉ used) with
  | none =>
    have none := List.find?_eq_none.mp found witness inRange
    simp [free] at none
  | some number =>
    rw [List.find?_range'_eq_some] at found
    obtain ⟨unused, member, smaller⟩ := found
    rw [List.mem_range'_1] at member
    refine ⟨by simp only [Option.getD_some]; omega, by simpa using unused, ?_⟩
    intro n positive below
    simpa using smaller n positive below

end Decodex.Library
