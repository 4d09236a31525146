import Mathlib.Data.List.Pairwise
import Mathlib.Data.List.Basic
import Mathlib.Tactic.Common

/-!
# Constrained tables

A declared table: a primary key, a row check and the pairs of rows that a unique index
refuses to hold together. A `Table` carries the proof that its rows obey the declaration,
so a statement is a partial operation: it yields the new table exactly when the rows it
would leave obey the declaration, and nothing otherwise. Rows stand in insertion order.
Nothing here names a particular store.
-/
namespace Decodex.Library

/-- A table declaration. `clash a b` says that a unique index refuses `a` beside `b`. -/
structure Schema (ρ κ : Type) where
  key : ρ → κ
  check : ρ → Bool := fun _ => true
  clash : ρ → ρ → Bool := fun _ _ => false

variable {ρ κ : Type}

/-- Two rows may stand in one table. -/
def Schema.Compatible (schema : Schema ρ κ) (a b : ρ) : Prop :=
  schema.key a ≠ schema.key b ∧ schema.clash a b = false ∧ schema.clash b a = false

instance [DecidableEq κ] (schema : Schema ρ κ) (a b : ρ) : Decidable (schema.Compatible a b) :=
  inferInstanceAs (Decidable (_ ∧ _ ∧ _))

instance (schema : Schema ρ κ) : Std.Symm schema.Compatible where
  symm _ _ h := ⟨h.1.symm, h.2.2, h.2.1⟩

/-- The rows of a declared table, with the proof that they obey the declaration. -/
structure Table (schema : Schema ρ κ) where
  rows : List ρ
  checked : ∀ row ∈ rows, schema.check row = true
  distinct : rows.Pairwise schema.Compatible

namespace Table

variable {schema : Schema ρ κ} {table after : Table schema}

/-- Rows of one table that share a key are one row. -/
theorem eq_of_key {a b : ρ} (ha : a ∈ table.rows) (hb : b ∈ table.rows)
    (same : schema.key a = schema.key b) : a = b := by
  by_contra differ
  have compatible := table.distinct.forall ha hb differ
  exact compatible.1 same

/-- Distinct rows of one table never clash in a unique index. -/
theorem no_clash {a b : ρ} (ha : a ∈ table.rows) (hb : b ∈ table.rows)
    (differ : schema.key a ≠ schema.key b) : schema.clash a b = false := by
  have distinct : a ≠ b := fun h => differ (congrArg schema.key h)
  exact (table.distinct.forall ha hb distinct).2.1

variable [DecidableEq κ]

def empty : Table schema := ⟨[], by simp, by simp⟩

/-- The effect of a statement that would leave `rows`: refused on any broken constraint. -/
def ofRows? (rows : List ρ) : Option (Table schema) :=
  if h : (∀ row ∈ rows, schema.check row = true) ∧ rows.Pairwise schema.Compatible then
    some ⟨rows, h.1, h.2⟩
  else none

def insert (table : Table schema) (row : ρ) : Option (Table schema) :=
  ofRows? (table.rows ++ [row])

/-- `UPDATE … SET change WHERE selected`. -/
def updateWhere (table : Table schema) (selected : ρ → Bool) (change : ρ → ρ) :
    Option (Table schema) :=
  ofRows? (table.rows.map fun row => if selected row then change row else row)

/-- `UPDATE … SET change` of the row a primary key names. -/
def updateKey (table : Table schema) (key : κ) (change : ρ → ρ) : Option (Table schema) :=
  table.updateWhere (fun row => decide (schema.key row = key)) change

def deleteWhere (table : Table schema) (selected : ρ → Bool) : Table schema where
  rows := table.rows.filter fun row => !selected row
  checked := fun row member => table.checked row (List.mem_of_mem_filter member)
  distinct := table.distinct.filter _

/-- The row a primary key names. -/
def find? (table : Table schema) (key : κ) : Option ρ :=
  table.rows.find? fun row => decide (schema.key row = key)

theorem ofRows?_eq_some {rows : List ρ} (h : ofRows? rows = some after) : after.rows = rows := by
  unfold ofRows? at h
  split at h
  · cases h
    rfl
  · cases h

theorem insert_rows {row : ρ} (h : table.insert row = some after) :
    after.rows = table.rows ++ [row] :=
  ofRows?_eq_some h

theorem mem_insert {row : ρ} (h : table.insert row = some after) : row ∈ after.rows := by
  rw [insert_rows h]
  exact List.mem_append_right _ (List.mem_singleton_self _)

theorem updateWhere_rows {selected : ρ → Bool} {change : ρ → ρ}
    (h : table.updateWhere selected change = some after) :
    after.rows = table.rows.map fun row => if selected row then change row else row :=
  ofRows?_eq_some h

theorem find?_eq_some_iff {key : κ} {row : ρ} :
    table.find? key = some row ↔ row ∈ table.rows ∧ schema.key row = key := by
  constructor
  · intro h
    exact ⟨List.mem_of_find?_eq_some h, by simpa using List.find?_some h⟩
  · rintro ⟨member, rfl⟩
    cases found : table.find? (schema.key row) with
    | none =>
      have := List.find?_eq_none.mp found row member
      simp at this
    | some other =>
      have foundKey : schema.key other = schema.key row := by simpa using List.find?_some found
      rw [eq_of_key (List.mem_of_find?_eq_some found) member foundKey]

theorem find?_eq_none_iff {key : κ} :
    table.find? key = none ↔ ∀ row ∈ table.rows, schema.key row ≠ key := by
  simp [find?, List.find?_eq_none]

theorem key_of_find? {key : κ} {row : ρ} (h : table.find? key = some row) :
    schema.key row = key :=
  (find?_eq_some_iff.mp h).2

theorem mem_of_find? {key : κ} {row : ρ} (h : table.find? key = some row) : row ∈ table.rows :=
  (find?_eq_some_iff.mp h).1

theorem find?_of_mem {row : ρ} (h : row ∈ table.rows) :
    table.find? (schema.key row) = some row :=
  find?_eq_some_iff.mpr ⟨h, rfl⟩

theorem check_of_find? {key : κ} {row : ρ} (h : table.find? key = some row) :
    schema.check row = true :=
  table.checked row (mem_of_find? h)

/-- An accepted insertion names a new key. -/
theorem insert_fresh {row : ρ} (h : table.insert row = some after) :
    table.find? (schema.key row) = none := by
  rw [find?_eq_none_iff]
  intro other member same
  have rows := insert_rows h
  have pairwise := after.distinct
  rw [rows, List.pairwise_append] at pairwise
  exact (pairwise.2.2 other member row (by simp)).1 same

theorem find?_insert {row : ρ} (h : table.insert row = some after) (key : κ) :
    after.find? key = if schema.key row = key then some row else table.find? key := by
  have fresh := insert_fresh h
  unfold find? at fresh ⊢
  rw [insert_rows h, List.find?_append]
  split
  · rename_i same
    subst same
    simp [fresh]
  · rename_i differ
    simp [differ]

theorem find?_updateWhere {selected : ρ → Bool} {change : ρ → ρ}
    (h : table.updateWhere selected change = some after)
    (keeps : ∀ row, selected row = true → schema.key (change row) = schema.key row) (key : κ) :
    after.find? key =
      (table.find? key).map fun row => if selected row then change row else row := by
  unfold find?
  rw [updateWhere_rows h, List.find?_map]
  congr 2
  funext row
  by_cases hit : selected row = true <;> simp [hit, keeps]

theorem find?_updateKey {target : κ} {change : ρ → ρ}
    (h : table.updateKey target change = some after)
    (keeps : ∀ row, schema.key (change row) = schema.key row) (key : κ) :
    after.find? key =
      if key = target then (table.find? key).map change else table.find? key := by
  rw [find?_updateWhere h (fun row _ => keeps row) key]
  cases found : table.find? key with
  | none => simp
  | some row =>
    have same := key_of_find? found
    by_cases hit : key = target <;> simp [same, hit]

/-- An update of the row that is there. -/
theorem find?_updateKey_of_found {target : κ} {change : ρ → ρ} {row : ρ}
    (h : table.updateKey target change = some after) (found : table.find? target = some row)
    (keeps : ∀ row, schema.key (change row) = schema.key row) (key : κ) :
    after.find? key = if key = target then some (change row) else table.find? key := by
  rw [find?_updateKey h keeps key]
  split
  · rename_i same
    rw [same, found, Option.map_some]
  · rfl

/-- Every row after an update is an old row or the change of the one it names. -/
theorem mem_updateKey {target : κ} {change : ρ → ρ} {row : ρ}
    (h : table.updateKey target change = some after) (member : row ∈ after.rows) :
    ∃ old ∈ table.rows, row = if schema.key old = target then change old else old := by
  rw [updateWhere_rows h, List.mem_map] at member
  obtain ⟨old, oldMember, rfl⟩ := member
  exact ⟨old, oldMember, by simp⟩

/-- What becomes of a row in an update. -/
theorem mem_updateWhere {selected : ρ → Bool} {change : ρ → ρ} {row : ρ}
    (h : table.updateWhere selected change = some after) (member : row ∈ table.rows) :
    (if selected row then change row else row) ∈ after.rows := by
  rw [updateWhere_rows h]
  exact List.mem_map_of_mem member

theorem find?_deleteWhere (table : Table schema) (selected : ρ → Bool) (key : κ) :
    (table.deleteWhere selected).find? key = (table.find? key).filter fun row => !selected row := by
  cases found : table.find? key with
  | none =>
    rw [Option.filter_none, find?_eq_none_iff]
    intro row member
    exact find?_eq_none_iff.mp found row (List.mem_of_mem_filter member)
  | some row =>
    obtain ⟨member, same⟩ := find?_eq_some_iff.mp found
    by_cases hit : selected row = true
    · simp only [hit, Option.filter, Bool.not_true]
      rw [if_neg (by simp), find?_eq_none_iff]
      intro other kept sameKey
      obtain ⟨otherMember, survives⟩ := List.mem_filter.mp kept
      have := eq_of_key otherMember member (sameKey.trans same.symm)
      simp [this, hit] at survives
    · simp only [Option.filter, hit]
      rw [if_pos (by simp), find?_eq_some_iff]
      exact ⟨List.mem_filter.mpr ⟨member, by simpa using hit⟩, same⟩

theorem ofRows?_of_valid (rows : List ρ) (checked : ∀ row ∈ rows, schema.check row = true)
    (distinct : rows.Pairwise schema.Compatible) :
    ∃ after : Table schema, ofRows? rows = some after ∧ after.rows = rows := by
  refine ⟨⟨rows, checked, distinct⟩, ?_, rfl⟩
  unfold ofRows?
  rw [dif_pos ⟨checked, distinct⟩]

/-- An insertion that obeys the declaration is accepted. -/
theorem insert_of_compatible (table : Table schema) (row : ρ) (checked : schema.check row = true)
    (compatible : ∀ old ∈ table.rows, schema.Compatible old row) :
    ∃ after, table.insert row = some after := by
  obtain ⟨after, accepted, _⟩ := ofRows?_of_valid (table.rows ++ [row])
    (fun old member => by
      rcases List.mem_append.mp member with member | member
      · exact table.checked old member
      · rw [List.mem_singleton.mp member]
        exact checked)
    (List.pairwise_append.mpr ⟨table.distinct, by simp, fun old member new single => by
      rw [List.mem_singleton.mp single]
      exact compatible old member⟩)
  exact ⟨after, accepted⟩

/-- An accepted insertion stands beside each row that was there. -/
theorem compatible_of_insert {row : ρ} (h : table.insert row = some after) :
    ∀ old ∈ table.rows, schema.Compatible old row := by
  have pairwise := after.distinct
  rw [insert_rows h, List.pairwise_append] at pairwise
  intro old member
  exact pairwise.2.2 old member row (by simp)

/-- An update of columns that no constraint reads is accepted. -/
theorem updateWhere_of_unread (table : Table schema) (selected : ρ → Bool) (change : ρ → ρ)
    (checked : ∀ row, schema.check row = true → schema.check (change row) = true)
    (keeps : ∀ row, schema.key (change row) = schema.key row)
    (left : ∀ a b, schema.clash (change a) b = schema.clash a b)
    (right : ∀ a b, schema.clash a (change b) = schema.clash a b) :
    ∃ after, table.updateWhere selected change = some after := by
  have unread : ∀ a b, schema.Compatible a b →
      schema.Compatible (if selected a then change a else a) (if selected b then change b else b) := by
    intro a b compatible
    unfold Schema.Compatible at compatible ⊢
    split <;> split <;> simpa only [keeps, left, right] using compatible
  obtain ⟨after, accepted, _⟩ := ofRows?_of_valid
    (table.rows.map fun row => if selected row then change row else row)
    (fun row member => by
      obtain ⟨old, old_mem, rfl⟩ := List.mem_map.mp member
      split
      · exact checked old (table.checked old old_mem)
      · exact table.checked old old_mem)
    (table.distinct.map _ unread)
  exact ⟨after, accepted⟩

/-- An update that only takes clashes away, and keeps each row it selects in check, is accepted. -/
theorem updateWhere_of_apart (table : Table schema) (selected : ρ → Bool) (change : ρ → ρ)
    (checked : ∀ row ∈ table.rows, selected row = true → schema.check (change row) = true)
    (keeps : ∀ row, schema.key (change row) = schema.key row)
    (apart : ∀ a b, schema.clash (if selected a then change a else a)
      (if selected b then change b else b) = true → schema.clash a b = true) :
    ∃ after, table.updateWhere selected change = some after := by
  have key : ∀ row, schema.key (if selected row then change row else row) = schema.key row := by
    intro row
    split
    · exact keeps row
    · rfl
  have still : ∀ a b, schema.Compatible a b →
      schema.Compatible (if selected a then change a else a) (if selected b then change b else b) := by
    intro a b compatible
    unfold Schema.Compatible at compatible ⊢
    rw [key, key]
    refine ⟨compatible.1, ?_, ?_⟩
    · rw [← Bool.not_eq_true]
      intro clashes
      rw [apart a b clashes] at compatible
      cases compatible.2.1
    · rw [← Bool.not_eq_true]
      intro clashes
      rw [apart b a clashes] at compatible
      cases compatible.2.2
  obtain ⟨after, accepted, _⟩ := ofRows?_of_valid
    (table.rows.map fun row => if selected row then change row else row)
    (fun row member => by
      obtain ⟨old, old_mem, rfl⟩ := List.mem_map.mp member
      split
      · rename_i hit
        exact checked old old_mem hit
      · exact table.checked old old_mem)
    (table.distinct.map _ still)
  exact ⟨after, accepted⟩

/-- Every key that named a row still names that row. -/
def Grows (table after : Table schema) : Prop :=
  ∀ key row, table.find? key = some row → after.find? key = some row

theorem Grows.refl (table : Table schema) : Grows table table := fun _ _ found => found

theorem grows_insert {row : ρ} (h : table.insert row = some after) : Grows table after := by
  intro key old found
  rw [find?_insert h key, if_neg]
  · exact found
  · intro same
    have fresh := insert_fresh h
    rw [same, found] at fresh
    cases fresh

end Table

end Decodex.Library
