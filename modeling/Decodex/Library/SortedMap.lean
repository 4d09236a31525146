import Mathlib.Data.List.Nodup
import Mathlib.Order.Basic
import Mathlib.Tactic.Common

/-!
# Maps in key order

A finite map as its entries in strictly increasing key order, so that equal maps are equal lists
of entries. Nothing here names a particular program.
-/
namespace Decodex.Library

structure SortedMap (κ α : Type) [LT κ] where
  entries : List (κ × α)
  sorted : entries.Pairwise fun a b => a.1 < b.1

namespace SortedMap

section Operations

variable {κ α β : Type} [LT κ]

def empty : SortedMap κ α := ⟨[], .nil⟩

def single (key : κ) (value : α) : SortedMap κ α := ⟨[(key, value)], List.pairwise_singleton _ _⟩

def length (map : SortedMap κ α) : Nat := map.entries.length

def values (map : SortedMap κ α) : List α := map.entries.map (·.2)

def retain (map : SortedMap κ α) (keep : κ → α → Bool) : SortedMap κ α :=
  ⟨map.entries.filter fun entry => keep entry.1 entry.2, map.sorted.filter _⟩

def mapValues (map : SortedMap κ α) (change : α → β) : SortedMap κ β where
  entries := map.entries.map fun entry => (entry.1, change entry.2)
  sorted := List.pairwise_map.mpr map.sorted

variable {map other : SortedMap κ α} {keep keep' : κ → α → Bool}

theorem ext_entries (same : map.entries = other.entries) : map = other := by
  cases map
  cases other
  cases same
  rfl

theorem mem_values {value : α} : value ∈ map.values ↔ ∃ key, (key, value) ∈ map.entries := by
  simp [values]

theorem mem_retain {key : κ} {value : α} :
    (key, value) ∈ (map.retain keep).entries ↔
      (key, value) ∈ map.entries ∧ keep key value = true := by
  simp [retain]

theorem mem_mapValues {change : α → β} {key : κ} {value : β} :
    (key, value) ∈ (map.mapValues change).entries ↔
      ∃ old, (key, old) ∈ map.entries ∧ change old = value := by
  simp [mapValues]

theorem length_retain_le : (map.retain keep).length ≤ map.length := List.length_filter_le _ _

@[simp] theorem length_mapValues {change : α → β} :
    (map.mapValues change).length = map.length := List.length_map _

theorem retain_congr (same : ∀ key value, (key, value) ∈ map.entries →
    keep key value = keep' key value) : map.retain keep = map.retain keep' :=
  ext_entries (List.filter_congr fun entry listed => same entry.1 entry.2 listed)

/-- Two ways to keep entries agree exactly when they agree on each entry. -/
theorem retain_eq_iff : map.retain keep = map.retain keep' ↔
    ∀ key value, (key, value) ∈ map.entries → keep key value = keep' key value := by
  refine ⟨fun same key value listed => ?_, retain_congr⟩
  have left := @mem_retain _ _ _ map keep key value
  have right := @mem_retain _ _ _ map keep' key value
  rw [same, right] at left
  simp only [listed, true_and] at left
  exact (Bool.eq_iff_iff.mpr left).symm

theorem retain_eq_self (all : ∀ key value, (key, value) ∈ map.entries → keep key value = true) :
    map.retain keep = map :=
  ext_entries (List.filter_eq_self.mpr fun entry listed => all entry.1 entry.2 listed)

theorem mapValues_eq_self {change : α → α}
    (all : ∀ key value, (key, value) ∈ map.entries → change value = value) :
    map.mapValues change = map := by
  apply ext_entries
  refine (List.map_congr_left fun entry listed => ?_).trans (List.map_id _)
  rw [all entry.1 entry.2 listed]
  rfl

end Operations

/-- A key has one value. -/
theorem eq_of_key {κ α : Type} [Preorder κ] {map : SortedMap κ α} {key : κ} {first second : α}
    (left : (key, first) ∈ map.entries) (right : (key, second) ∈ map.entries) :
    first = second := by
  have distinct : (map.entries.map Prod.fst).Nodup :=
    List.pairwise_map.mpr (map.sorted.imp fun below => ne_of_lt below)
  exact congrArg Prod.snd (List.inj_on_of_nodup_map distinct left right rfl)

end SortedMap

end Decodex.Library
