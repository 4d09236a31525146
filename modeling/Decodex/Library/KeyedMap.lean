import Mathlib.Data.List.Nodup
import Mathlib.Tactic.Common

/-!
# Maps by key

A finite map as entries with distinct keys, in the order in which the keys came. What each
operation leaves is said by one lemma about what every key reads afterwards. Nothing here names a
particular program.
-/
namespace Decodex.Library

structure KeyedMap (κ α : Type) where
  entries : List (κ × α)
  distinct : (entries.map Prod.fst).Nodup

namespace KeyedMap

variable {κ α : Type}

def empty : KeyedMap κ α := ⟨[], .nil⟩

def length (map : KeyedMap κ α) : Nat := map.entries.length

/-- `retain`. -/
def retain (map : KeyedMap κ α) (keep : κ → α → Bool) : KeyedMap κ α :=
  ⟨map.entries.filter fun entry => keep entry.1 entry.2,
    map.distinct.sublist (List.filter_sublist.map _)⟩

variable [DecidableEq κ]

/-- `get`. -/
def find? (map : KeyedMap κ α) (key : κ) : Option α :=
  (map.entries.find? fun entry => entry.1 = key).map (·.2)

/-- `remove`. -/
def erase (map : KeyedMap κ α) (key : κ) : KeyedMap κ α := map.retain fun held _ => held ≠ key

variable {map : KeyedMap κ α} {key : κ} {value : α}

theorem find?_eq_some_iff : map.find? key = some value ↔ (key, value) ∈ map.entries := by
  unfold find?
  constructor
  · intro found
    obtain ⟨⟨held, _⟩, listed, rfl⟩ := Option.map_eq_some_iff.mp found
    have same : held = key := by simpa using List.find?_some listed
    rw [← same]
    exact List.mem_of_find?_eq_some listed
  · intro member
    cases found : map.entries.find? fun entry => entry.1 = key with
    | none =>
      have := List.find?_eq_none.mp found _ member
      simp at this
    | some entry =>
      have same : entry.1 = key := by simpa using List.find?_some found
      have equal := List.inj_on_of_nodup_map map.distinct (List.mem_of_find?_eq_some found) member
        same
      rw [equal]
      rfl

theorem find?_eq_none_iff : map.find? key = none ↔ key ∉ map.entries.map Prod.fst := by
  constructor
  · intro absent member
    obtain ⟨⟨held, value⟩, listed, rfl⟩ := List.mem_map.mp member
    rw [find?_eq_some_iff.mpr listed] at absent
    cases absent
  · intro absent
    cases found : map.find? key with
    | none => rfl
    | some value => exact absurd (List.mem_map.mpr ⟨_, find?_eq_some_iff.mp found, rfl⟩) absent

/-- `entry(key).or_insert(value)`. -/
def insertNew (map : KeyedMap κ α) (key : κ) (value : α) : KeyedMap κ α :=
  if absent : map.find? key = none then
    ⟨map.entries ++ [(key, value)], by
      rw [List.map_append, List.map_singleton]
      exact (List.nodup_append_comm.mpr (List.nodup_cons.mpr
        ⟨find?_eq_none_iff.mp absent, map.distinct⟩))⟩
  else map

/-- What `get_mut` changes. -/
def modify (map : KeyedMap κ α) (key : κ) (change : α → α) : KeyedMap κ α :=
  ⟨map.entries.map fun entry => if entry.1 = key then (entry.1, change entry.2) else entry, by
    rw [List.map_map]
    have same : (Prod.fst ∘ fun entry : κ × α =>
        if entry.1 = key then (entry.1, change entry.2) else entry) = Prod.fst := by
      funext entry
      simp only [Function.comp_apply]
      split <;> rfl
    rw [same]
    exact map.distinct⟩

/-- `insert`. -/
def insert (map : KeyedMap κ α) (key : κ) (value : α) : KeyedMap κ α :=
  (map.modify key fun _ => value).insertNew key value

theorem find?_retain (map : KeyedMap κ α) (keep : κ → α → Bool) (key : κ) :
    (map.retain keep).find? key = (map.find? key).filter (keep key) := by
  ext value
  rw [find?_eq_some_iff, Option.filter_eq_some_iff, find?_eq_some_iff]
  exact List.mem_filter

theorem find?_erase (map : KeyedMap κ α) (target key : κ) :
    (map.erase target).find? key = if key = target then none else map.find? key := by
  unfold erase
  rw [find?_retain]
  split
  · rename_i same
    cases map.find? key <;> simp [same]
  · rename_i other
    cases map.find? key <;> simp [other]

theorem find?_insertNew (map : KeyedMap κ α) (target key : κ) (value : α) :
    (map.insertNew target value).find? key =
      if key = target then some ((map.find? key).getD value) else map.find? key := by
  unfold insertNew
  split
  · rename_i absent
    unfold find? at absent ⊢
    rw [List.find?_append]
    split
    · rename_i same
      subst same
      rw [Option.map_eq_none_iff] at absent
      simp [absent]
    · rename_i other
      have apart : ¬target = key := fun same => other same.symm
      simp [apart]
  · rename_i present
    split
    · rename_i same
      subst same
      obtain ⟨held, found⟩ := Option.ne_none_iff_exists'.mp present
      rw [found]
      rfl
    · rfl

theorem find?_modify (map : KeyedMap κ α) (target key : κ) (change : α → α) :
    (map.modify target change).find? key =
      if key = target then (map.find? key).map change else map.find? key := by
  unfold find? modify
  rw [List.find?_map, Option.map_map, Option.map_map]
  have keys : ((fun entry : κ × α => decide (entry.1 = key)) ∘ fun entry : κ × α =>
      if entry.1 = target then (entry.1, change entry.2) else entry) =
        fun entry => decide (entry.1 = key) := by
    funext entry
    simp only [Function.comp_apply]
    split <;> rfl
  rw [keys]
  cases found : map.entries.find? fun entry => decide (entry.1 = key) with
  | none => simp
  | some entry =>
    have same : entry.1 = key := by simpa using List.find?_some found
    by_cases hit : key = target <;> simp [same, hit]

theorem find?_insert (map : KeyedMap κ α) (target key : κ) (value : α) :
    (map.insert target value).find? key = if key = target then some value else map.find? key := by
  unfold insert
  rw [find?_insertNew, find?_modify]
  by_cases same : key = target
  · rw [if_pos same, if_pos same, if_pos same]
    cases map.find? key <;> rfl
  · rw [if_neg same, if_neg same, if_neg same]

/-- A new key comes last. -/
theorem keys_insert_of_absent {target : κ} (absent : map.find? target = none) (value : α) :
    (map.insert target value).entries.map Prod.fst = map.entries.map Prod.fst ++ [target] := by
  have keys : (map.modify target fun _ => value).entries.map Prod.fst =
      map.entries.map Prod.fst := by
    unfold modify
    rw [List.map_map]
    refine List.map_congr_left fun entry _ => ?_
    simp only [Function.comp_apply]
    split <;> rfl
  have still : (map.modify target fun _ => value).find? target = none := by
    rw [find?_modify, if_pos rfl, absent]
    rfl
  unfold insert insertNew
  rw [dif_pos still, List.map_append, keys]
  rfl

end KeyedMap

end Decodex.Library
