import Mathlib.Data.List.Basic
import Mathlib.Tactic.Common

/-!
# Numbered logs and paging

A log whose entries carry the numbers `k + 1, k + 2, …` in order, the window of its last
entries, and reading such a log in pages by a cursor that counts what has been read. The log may
grow at its end between two pages. Nothing here names a particular store.
-/
namespace Decodex.Library

variable {α : Type*}

/-- The entries carry the numbers `k + 1, k + 2, …` in order. -/
def Numbered (number : α → Int) (k : Int) : List α → Prop
  | [] => True
  | entry :: rest => number entry = k + 1 ∧ Numbered number (k + 1) rest

namespace Numbered

variable {number : α → Int} {k : Int} {log : List α}

theorem append_one {entry : α} (numbered : Numbered number k log)
    (next : number entry = k + log.length + 1) : Numbered number k (log ++ [entry]) := by
  induction log generalizing k with
  | nil => exact ⟨by simpa using next, trivial⟩
  | cons first rest ih =>
    refine ⟨numbered.1, ih numbered.2 ?_⟩
    rw [next, List.length_cons]
    push_cast
    omega

/-- The largest number is the number of the last entry. -/
theorem foldl_max (numbered : Numbered number k log) :
    (log.map number).foldl max k = k + log.length := by
  induction log generalizing k with
  | nil => simp
  | cons first rest ih =>
    rw [List.map_cons, List.foldl_cons, numbered.1, show max k (k + 1) = k + 1 by omega,
      ih numbered.2, List.length_cons]
    push_cast
    omega

theorem lt_of_mem (numbered : Numbered number k log) {entry : α} (member : entry ∈ log) :
    k < number entry := by
  induction log generalizing k with
  | nil => cases member
  | cons first rest ih =>
    rcases List.mem_cons.mp member with rfl | later
    · rw [numbered.1]
      omega
    · have := ih numbered.2 later
      omega

theorem pairwise (numbered : Numbered number k log) :
    log.Pairwise fun a b => number a < number b := by
  induction log generalizing k with
  | nil => exact .nil
  | cons first rest ih =>
    refine .cons (fun later member => ?_) (ih numbered.2)
    rw [numbered.1]
    exact numbered.2.lt_of_mem member

/-- The entries numbered after `k + count` are those after the first `count`. -/
theorem filter_after (numbered : Numbered number k log) (count : Nat) :
    log.filter (fun entry => decide (k + count < number entry)) = log.drop count := by
  induction log generalizing k count with
  | nil => simp
  | cons first rest ih =>
    cases count with
    | zero =>
      refine List.filter_eq_self.mpr fun entry member => ?_
      have := numbered.lt_of_mem member
      simpa using this
    | succ count =>
      have here : ¬k + ((count + 1 : Nat) : Int) < number first := by
        rw [numbered.1]
        push_cast
        omega
      have shift : k + ((count + 1 : Nat) : Int) = k + 1 + count := by
        push_cast
        omega
      rw [List.filter_cons_of_neg (by simpa using here), List.drop_succ_cons, shift]
      exact ih numbered.2 count

theorem drop (numbered : Numbered number k log) (count : Nat) :
    Numbered number (k + count) (log.drop count) := by
  induction log generalizing k count with
  | nil => simp [Numbered]
  | cons first rest ih =>
    cases count with
    | zero => simpa using numbered
    | succ count =>
      have later := ih numbered.2 count
      rw [List.drop_succ_cons]
      convert later using 1
      push_cast
      omega

theorem number_eq (numbered : Numbered number k log) {place : Nat} {entry : α}
    (found : log[place]? = some entry) : number entry = k + place + 1 := by
  induction log generalizing k place with
  | nil => cases found
  | cons first rest ih =>
    cases place with
    | zero =>
      cases found
      rw [numbered.1]
      simp
    | succ place =>
      have later := ih numbered.2 (by simpa using found)
      push_cast
      omega

/-- Whoever has come to a number finds what follows it in a window that begins no later. -/
theorem filter_window (numbered : Numbered number k log) {first position : Nat}
    (covers : first ≤ position) :
    (log.drop first).filter (fun entry => decide (k + position < number entry)) =
      log.drop position := by
  have later := (numbered.drop first).filter_after (position - first)
  rw [List.drop_drop, Nat.add_sub_cancel' covers] at later
  rwa [show k + (first : Int) + ((position - first : Nat) : Int) = k + position by omega] at later

/-- Changes that keep the numbers keep the log numbered. -/
theorem map {change : α → α} (numbered : Numbered number k log)
    (keeps : ∀ entry, number (change entry) = number entry) :
    Numbered number k (log.map change) := by
  induction log generalizing k with
  | nil => trivial
  | cons first rest ih => exact ⟨(keeps first).trans numbered.1, ih numbered.2⟩

end Numbered

/-- The window of the last entries, after one more. -/
theorem window_snoc (log : List α) (entry : α) (capacity : Nat) (positive : 0 < capacity) :
    (log.drop (log.length - capacity) ++ [entry]).drop
        ((log.drop (log.length - capacity) ++ [entry]).length - capacity) =
      (log ++ [entry]).drop ((log ++ [entry]).length - capacity) := by
  rw [← List.drop_append_of_le_length (by omega : log.length - capacity ≤ log.length),
    List.drop_drop]
  congr 1
  simp only [List.length_drop, List.length_append, List.length_singleton]
  omega

/-- The page of at most `size` entries after the first `after`, and the cursor of the next
page when there is one. -/
def page (log : List α) (after size : Nat) : List α × Option Nat :=
  ((log.drop after).take size, if size < (log.drop after).length then some (after + size) else none)

/-- A walk has read `visited` in `pages` pages and goes on at `next`; the last page was read
from `log`, and the log only grew at its end between two pages. -/
inductive PagedWalk : List α → List α → Option Nat → Nat → Prop
  | first (log : List α) (size : Nat) (positive : 0 < size) :
      PagedWalk log (page log 0 size).1 (page log 0 size).2 1
  | next {log later visited : List α} {after pages : Nat}
      (walk : PagedWalk log visited (some after) pages) (grew : log <+: later) (size : Nat)
      (positive : 0 < size) :
      PagedWalk later (visited ++ (page later after size).1) (page later after size).2 (pages + 1)

/-- One page continues a prefix of the log. -/
theorem page_continues (log : List α) (after size : Nat) (inside : after ≤ log.length) :
    match (page log after size).2 with
    | some next => log.take after ++ (page log after size).1 = log.take next ∧
        next = after + size ∧ next < log.length
    | none => log.take after ++ (page log after size).1 = log := by
  unfold page
  have joined : log.take after ++ (log.drop after).take size = log.take (after + size) :=
    List.take_add.symm
  have length : (log.drop after).length = log.length - after := List.length_drop
  by_cases more : size < (log.drop after).length
  · simp only [if_pos more]
    exact ⟨joined, trivial, by omega⟩
  · simp only [if_neg more]
    rw [joined]
    exact List.take_of_length_le (by omega)

/-- A walk has visited a prefix of the log, at least one entry for each page while it goes
on, and the whole log when it has ended. -/
theorem PagedWalk.visits {log visited : List α} {next : Option Nat} {pages : Nat}
    (walk : PagedWalk log visited next pages) :
    (∀ after, next = some after → visited = log.take after ∧ after < log.length ∧ pages ≤ after) ∧
      (next = none → visited = log) := by
  induction walk with
  | first log size positive =>
    have continues := page_continues log 0 size (Nat.zero_le _)
    cases more : (page log 0 size).2 with
    | none =>
      rw [more] at continues
      exact ⟨nofun, fun _ => by simpa using continues⟩
    | some after =>
      rw [more] at continues
      refine ⟨fun next same => ?_, nofun⟩
      cases same
      exact ⟨by simpa using continues.1, continues.2.2, by omega⟩
  | @next log later visited after pages walk grew size positive ih =>
    obtain ⟨prior, inside, counted⟩ := ih.1 after rfl
    obtain ⟨tail, rfl⟩ := grew
    have continues := page_continues (log ++ tail) after size (by
      rw [List.length_append]
      omega)
    rw [List.take_append_of_le_length (Nat.le_of_lt inside), ← prior] at continues
    cases more : (page (log ++ tail) after size).2 with
    | none =>
      rw [more] at continues
      exact ⟨nofun, fun _ => continues⟩
    | some next =>
      rw [more] at continues
      refine ⟨fun other same => ?_, nofun⟩
      cases same
      exact ⟨continues.1, continues.2.2, by omega⟩

end Decodex.Library
