import Mathlib.Data.List.Basic
import Mathlib.Tactic.Common

/-!
# Terminated entries

Entries written one after another, each with a terminator behind it, and a reader that skips
terminators where it expects an entry. An empty entry is then read as padding: what is read are
the entries that are not empty, in their order. Nothing here names a particular format.
-/
namespace Decodex.Library

variable {α : Type}

/-- The entries with their terminators. -/
def terminated (terminator : α) (entries : List (List α)) : List α :=
  entries.flatMap (· ++ [terminator])

/-- The entries that are not empty. -/
def inhabited (entries : List (List α)) : List (List α) :=
  entries.filter fun entry => !entry.isEmpty

variable {terminator : α} {entry rest : List α} {entries : List (List α)}

@[simp] theorem inhabited_nil : inhabited ([] : List (List α)) = [] := rfl

theorem inhabited_append (first second : List (List α)) :
    inhabited (first ++ second) = inhabited first ++ inhabited second :=
  List.filter_append _ _

theorem inhabited_eq_self (all : ∀ entry ∈ entries, entry ≠ []) :
    inhabited entries = entries := by
  apply List.filter_eq_self.mpr
  intro entry listed
  simpa using all entry listed

theorem inhabited_dropWhile (entries : List (List α)) :
    inhabited (entries.dropWhile (·.isEmpty)) = inhabited entries := by
  induction entries with
  | nil => rfl
  | cons first rest ih =>
    cases first with
    | nil => simpa [inhabited] using ih
    | cons item others => simp

@[simp] theorem terminated_nil : terminated terminator [] = [] := rfl

theorem terminated_cons (entry : List α) (entries : List (List α)) :
    terminated terminator (entry :: entries) =
      entry ++ terminator :: terminated terminator entries := by
  simp [terminated]

theorem terminated_append (first second : List (List α)) :
    terminated terminator (first ++ second) =
      terminated terminator first ++ terminated terminator second :=
  List.flatMap_append

section Reading

variable [DecidableEq α]

/-- The rest behind the next terminator. -/
def skipEntry (terminator : α) (items : List α) : Option (List α) :=
  match items.dropWhile (· ≠ terminator) with
  | [] => none
  | _ :: rest => some rest

def skipPadding (terminator : α) (items : List α) : List α := items.dropWhile (· = terminator)

/-- Entries are skipped, and the padding behind each of them. -/
def skipEntries (terminator : α) : Nat → List α → Option (List α)
  | 0, items => some items
  | count + 1, items =>
    (skipEntry terminator items).bind fun rest =>
      skipEntries terminator count (skipPadding terminator rest)

/-- An entry ends at its terminator. -/
theorem takeWhile_entry (clear : terminator ∉ entry) :
    (entry ++ terminator :: rest).takeWhile (· ≠ terminator) = entry := by
  rw [List.takeWhile_append_of_pos]
  · simp
  · intro item listed
    simpa using fun same : item = terminator => clear (same ▸ listed)

theorem skipEntry_entry (clear : terminator ∉ entry) :
    skipEntry terminator (entry ++ terminator :: rest) = some rest := by
  unfold skipEntry
  rw [List.dropWhile_append_of_pos]
  · simp
  · intro item listed
    simpa using fun same : item = terminator => clear (same ▸ listed)

theorem skipPadding_entry (clear : terminator ∉ entry) (some : entry ≠ []) :
    skipPadding terminator (entry ++ rest) = entry ++ rest := by
  cases entry with
  | nil => exact absurd rfl some
  | cons first others =>
    have apart : first ≠ terminator := fun same => clear (same ▸ List.mem_cons_self)
    simp [skipPadding, apart]

theorem skipPadding_replicate (count : Nat) (items : List α) :
    skipPadding terminator (List.replicate count terminator ++ items) =
      skipPadding terminator items := by
  induction count with
  | zero => rfl
  | succ count ih =>
    rw [List.replicate_succ, List.cons_append]
    simp [skipPadding]

/-- Leading empty entries are padding. -/
theorem skipPadding_terminated (clear : ∀ entry ∈ entries, terminator ∉ entry) :
    skipPadding terminator (terminated terminator entries) =
      terminated terminator (entries.dropWhile (·.isEmpty)) := by
  induction entries with
  | nil => rfl
  | cons first rest ih =>
    cases first with
    | nil =>
      rw [terminated_cons, List.nil_append]
      simpa [skipPadding] using ih fun entry listed => clear entry (List.mem_cons_of_mem _ listed)
    | cons item others =>
      rw [terminated_cons, skipPadding_entry (clear _ (by simp)) (by simp), ← terminated_cons]
      simp

/-- Skipping counts the entries that are not empty. -/
theorem skipEntries_terminated (count : Nat) (clear : ∀ entry ∈ entries, terminator ∉ entry) :
    if count ≤ (inhabited entries).length then
      ∃ left, skipEntries terminator count
          (skipPadding terminator (terminated terminator entries)) =
          some (skipPadding terminator (terminated terminator left)) ∧
        inhabited left = (inhabited entries).drop count ∧ ∀ entry ∈ left, terminator ∉ entry
    else skipEntries terminator count (skipPadding terminator (terminated terminator entries)) =
      none := by
  induction count generalizing entries with
  | zero =>
    rw [if_pos (Nat.zero_le _)]
    exact ⟨entries, rfl, rfl, clear⟩
  | succ count ih =>
    have same := inhabited_dropWhile entries
    rw [skipPadding_terminated clear]
    cases kept : entries.dropWhile (·.isEmpty) with
    | nil =>
      rw [kept] at same
      rw [← same, if_neg (by simp)]
      rfl
    | cons first rest =>
      have part : ∀ entry ∈ first :: rest, entry ∈ entries := fun entry listed =>
        (List.dropWhile_suffix _).subset (kept ▸ listed)
      have some : first ≠ [] := by
        have found : entries.dropWhile (·.isEmpty) ≠ [] := by
          rw [kept]
          exact List.cons_ne_nil _ _
        have head := List.head_dropWhile_not (fun entry : List α => entry.isEmpty) found
        simpa [kept] using head
      have later := @ih rest fun entry listed => clear entry (part entry (by simp [listed]))
      have split : inhabited (first :: rest) = first :: inhabited rest := by
        simp [inhabited, some]
      rw [kept, split] at same
      rw [← same, terminated_cons, skipEntries,
        skipEntry_entry (clear first (part first (by simp))), Option.bind_some, List.length_cons,
        List.drop_succ_cons]
      simpa only [Nat.add_le_add_iff_right] using later

end Reading

end Decodex.Library
