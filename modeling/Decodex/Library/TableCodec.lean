import Mathlib.Data.Countable.Defs
import Mathlib.Data.List.Nodup

/-!
# Codecs with listed texts

A codec of a countable type that writes some values with the texts of a table. Every other value is
written with a text of zeros, one for each. Nothing here names a particular format.
-/
namespace Decodex.Library.TableCodec

variable {α : Type} [Countable α]

/-- A text of zeros for each value. -/
noncomputable def zeros (value : α) : List UInt8 :=
  0 :: List.replicate ((exists_injective_nat α).choose value) 0

theorem zeros_injective : Function.Injective (zeros (α := α)) := by
  intro left right same
  have lengths := congrArg List.length same
  simp only [zeros, List.length_cons, List.length_replicate, Nat.add_right_cancel_iff] at lengths
  exact (exists_injective_nat α).choose_spec lengths

noncomputable def encode [DecidableEq α] (table : List (α × List UInt8)) (value : α) : List UInt8 :=
  match table.find? fun row => row.1 = value with
  | some row => row.2
  | none => zeros value

open Classical in
noncomputable def decode (table : List (α × List UInt8)) (bytes : List UInt8) : Option α :=
  match table.find? fun row => row.2 = bytes with
  | some row => some row.1
  | none => if named : ∃ value : α, zeros value = bytes then some named.choose else none

section Table

variable [DecidableEq α] {table : List (α × List UInt8)}
  (apart : ∀ row ∈ table, row.2 ≠ [] ∧ row.2.head? ≠ some 0)

include apart

theorem encode_ne_nil (value : α) : encode table value ≠ [] := by
  unfold encode
  split
  · rename_i row found
    exact (apart row (List.mem_of_find?_eq_some found)).1
  · exact List.cons_ne_nil _ _

/-- Whatever is written reads back. -/
theorem decode_encode (texts : (table.map Prod.snd).Nodup) (value : α) :
    decode table (encode table value) = some value := by
  unfold encode
  split
  · rename_i row found
    have listed := List.mem_of_find?_eq_some found
    have same : row.1 = value := by simpa using List.find?_some found
    unfold decode
    split
    · rename_i other again
      have text : other.2 = row.2 := by simpa using List.find?_some again
      rw [List.inj_on_of_nodup_map texts (List.mem_of_find?_eq_some again) listed text, same]
    · rename_i absent
      simpa using List.find?_eq_none.mp absent row listed
  · unfold decode
    split
    · rename_i other again
      have text : other.2 = zeros value := by simpa using List.find?_some again
      exact absurd (by rw [text]; rfl) (apart other (List.mem_of_find?_eq_some again)).2
    · have named : ∃ other : α, zeros other = zeros value := ⟨value, rfl⟩
      rw [dif_pos named]
      exact congrArg some (zeros_injective named.choose_spec)

end Table

end Decodex.Library.TableCodec
