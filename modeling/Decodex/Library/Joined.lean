import Mathlib.Data.List.Basic

/-!
# Joined texts

`List.intercalate` puts a separator between texts. The rules say how it goes over appended lists
and over lists of lists, so long as no text is empty. Nothing here names a program.
-/
namespace Decodex.Library

variable {α : Type} {separator : List α}

theorem intercalate_append {front back : List (List α)} (first : front ≠ []) (second : back ≠ []) :
    separator.intercalate (front ++ back) =
      separator.intercalate front ++ separator ++ separator.intercalate back := by
  induction front with
  | nil => exact absurd rfl first
  | cons head rest ih =>
    by_cases alone : rest = []
    · subst alone
      rw [List.singleton_append, List.intercalate_cons_of_ne_nil second, List.intercalate_singleton]
    · rw [List.cons_append, List.intercalate_cons_of_ne_nil (by simp [alone]), ih alone,
        List.intercalate_cons_of_ne_nil alone]
      simp only [List.append_assoc]

/-- Texts that are not empty join to the empty text only if there are none. -/
theorem intercalate_eq_nil {texts : List (List α)} (full : ∀ text ∈ texts, text ≠ []) :
    separator.intercalate texts = [] ↔ texts = [] := by
  cases texts with
  | nil => simp
  | cons head rest =>
    have filled := full head (by simp)
    cases head with
    | nil => exact absurd rfl filled
    | cons x head => simp

/-- Joining in parts joins the whole; empty parts are passed over. -/
theorem intercalate_flatten {parts : List (List (List α))}
    (full : ∀ part ∈ parts, ∀ text ∈ part, text ≠ []) :
    separator.intercalate ((parts.map separator.intercalate).filter fun text => !text.isEmpty) =
      separator.intercalate parts.flatten := by
  induction parts with
  | nil => rfl
  | cons part rest ih =>
    have later := ih fun part member => full part (List.mem_cons_of_mem _ member)
    have filled : separator.intercalate part = [] ↔ part = [] :=
      intercalate_eq_nil (full part (by simp))
    rw [List.map_cons, List.flatten_cons]
    by_cases empty : part = []
    · subst empty
      simpa using later
    · rw [List.filter_cons_of_pos (by simpa using mt filled.mp empty)]
      by_cases last : rest.flatten = []
      · rw [last, List.append_nil]
        have none : (rest.map separator.intercalate).filter (fun text => !text.isEmpty) = [] := by
          rw [List.filter_eq_nil_iff]
          intro text member
          obtain ⟨other, listed, rfl⟩ := List.mem_map.mp member
          rw [List.flatten_eq_nil_iff.mp last other listed]
          simp
        rw [none, List.intercalate_singleton]
      · rw [intercalate_append empty last, List.intercalate_cons_of_ne_nil, later]
        intro none
        apply last
        rw [none, List.intercalate_nil] at later
        refine (@intercalate_eq_nil _ separator _ ?_).mp later.symm
        intro text member
        obtain ⟨other, listed, member⟩ := List.mem_flatten.mp member
        exact full other (List.mem_cons_of_mem _ listed) text member

end Decodex.Library
