import Mathlib.Data.Finset.Card
import Mathlib.Data.Finset.Dedup
import Mathlib.Data.List.Dedup
import Mathlib.Logic.Relation
import Mathlib.Tactic.Common

/-!
# Recursive queries and acyclic relations

`WITH RECURSIVE t(id) AS (start UNION step)` as the queue loop that evaluates it: the
oldest queued row is extracted and joins the result, and the rows the recursive select
yields for it are queued unless they were produced before. The loop terminates on every
finite step relation, and its result is the reflexive-transitive closure of the start.
The second part says when an edge keeps a relation acyclic. Nothing here names a
particular query.
-/
namespace Decodex.Library

section Saturation

variable {α : Type*} [DecidableEq α] (next : α → List α)

/-- The rows of the recursive select for `row` that were not produced before. -/
def fresh (produced : List α) (row : α) : List α :=
  (next row).dedup.filter fun other => decide (other ∉ produced)

/-- The queue loop. `done` are the extracted rows; `none` says the fuel ran out. -/
def saturate : Nat → List α → List α → Option (List α)
  | _, done, [] => some done
  | 0, _, _ :: _ => none
  | fuel + 1, done, row :: queue =>
    saturate fuel (done ++ [row]) (queue ++ fresh next (done ++ row :: queue) row)

variable {next}

theorem mem_fresh {produced : List α} {row other : α} :
    other ∈ fresh next produced row ↔ other ∈ next row ∧ other ∉ produced := by
  simp [fresh]

theorem fresh_nodup (produced : List α) (row : α) : (fresh next produced row).Nodup :=
  (List.nodup_dedup _).filter _

/-- Every produced row is reached from a row the loop was started with. -/
theorem saturate_sound (fuel : Nat) (done queue result : List α)
    (run : saturate next fuel done queue = some result) (row : α) (member : row ∈ result) :
    ∃ start ∈ done ++ queue, Relation.ReflTransGen (fun a b => b ∈ next a) start row := by
  induction fuel generalizing done queue with
  | zero =>
    cases queue with
    | nil =>
      cases run
      exact ⟨row, by simpa using member, .refl⟩
    | cons head queue => cases run
  | succ fuel ih =>
    cases queue with
    | nil =>
      cases run
      exact ⟨row, by simpa using member, .refl⟩
    | cons head queue =>
      obtain ⟨start, known, path⟩ := ih _ _ run
      simp only [List.append_assoc, List.singleton_append, List.mem_append, List.mem_cons] at known
      rcases known with h | h | h | h
      · exact ⟨start, by simp [h], path⟩
      · exact ⟨start, by simp [h], path⟩
      · exact ⟨start, by simp [h], path⟩
      · -- a freshly queued row is one step from the extracted one
        exact ⟨head, by simp, path.head (mem_fresh.mp h).1⟩

/-- The result holds every row the loop knew and is closed under the recursive select. -/
theorem saturate_closed (fuel : Nat) (done queue result : List α)
    (run : saturate next fuel done queue = some result)
    (expanded : ∀ row ∈ done, ∀ other ∈ next row, other ∈ done ++ queue) :
    (∀ row ∈ done ++ queue, row ∈ result) ∧
      ∀ row ∈ result, ∀ other ∈ next row, other ∈ result := by
  induction fuel generalizing done queue with
  | zero =>
    cases queue with
    | nil =>
      cases run
      exact ⟨by simp, by simpa using expanded⟩
    | cons head queue => cases run
  | succ fuel ih =>
    cases queue with
    | nil =>
      cases run
      exact ⟨by simp, by simpa using expanded⟩
    | cons head queue =>
      have step : ∀ row ∈ done ++ [head], ∀ other ∈ next row,
          other ∈ (done ++ [head]) ++ (queue ++ fresh next (done ++ head :: queue) head) := by
        intro row extracted other edge
        by_cases known : other ∈ done ++ head :: queue
        · simp only [List.mem_append, List.mem_cons] at known ⊢
          tauto
        · rcases List.mem_append.mp extracted with h | h
          · exact absurd (expanded row h other edge) known
          · rw [List.mem_singleton] at h
            subst h
            simp only [List.mem_append]
            exact .inr (.inr (mem_fresh.mpr ⟨edge, known⟩))
      obtain ⟨kept, closed⟩ := ih _ _ run step
      refine ⟨fun row member => kept row ?_, closed⟩
      simp only [List.mem_append, List.mem_cons, List.not_mem_nil, or_false] at member ⊢
      tauto

/-- Fuel for the queue and for every row not produced yet is enough. -/
theorem saturate_terminates (rows : Finset α) (inside : ∀ a, ∀ b ∈ next a, b ∈ rows)
    (fuel : Nat) (done queue : List α)
    (enough : queue.length + (rows \ (done ++ queue).toFinset).card ≤ fuel) :
    ∃ result, saturate next fuel done queue = some result := by
  induction fuel generalizing done queue with
  | zero =>
    have : queue = [] := List.length_eq_zero_iff.mp (by omega)
    subst this
    exact ⟨done, rfl⟩
  | succ fuel ih =>
    cases queue with
    | nil => exact ⟨done, rfl⟩
    | cons head queue =>
      apply ih
      -- the extracted row leaves the queue; a queued row leaves the unproduced ones
      set added := fresh next (done ++ head :: queue) head with addedEq
      have addedCard : added.toFinset.card = added.length :=
        List.toFinset_card_of_nodup (fresh_nodup _ _)
      have addedInside : added.toFinset ⊆ rows \ (done ++ head :: queue).toFinset := by
        intro row member
        rw [List.mem_toFinset] at member
        obtain ⟨edge, unknown⟩ := mem_fresh.mp member
        rw [Finset.mem_sdiff, List.mem_toFinset]
        exact ⟨inside head row edge, unknown⟩
      have remaining : rows \ (done ++ [head] ++ (queue ++ added)).toFinset =
          (rows \ (done ++ head :: queue).toFinset) \ added.toFinset := by
        ext row
        simp only [Finset.mem_sdiff, List.mem_toFinset, List.mem_append, List.mem_cons,
          List.not_mem_nil, or_false]
        tauto
      rw [remaining, Finset.card_sdiff_of_subset addedInside, addedCard, List.length_append]
      have := Finset.card_le_card addedInside
      rw [List.length_cons] at enough
      omega

/-- A result of the loop started on one row is exactly what that row reaches. -/
theorem mem_saturate_iff {fuel : Nat} {start : α} {result : List α}
    (run : saturate next fuel [] [start] = some result) (row : α) :
    row ∈ result ↔ Relation.ReflTransGen (fun a b => b ∈ next a) start row := by
  constructor
  · intro member
    obtain ⟨origin, known, path⟩ := saturate_sound fuel _ _ _ run row member
    rw [List.nil_append, List.mem_singleton] at known
    exact known ▸ path
  · intro path
    obtain ⟨kept, closed⟩ := saturate_closed fuel _ _ _ run (by simp)
    induction path with
    | refl => exact kept start (by simp)
    | tail _ edge ih => exact closed _ ih _ edge

end Saturation

section Acyclic

variable {α : Type*} {r : α → α → Prop}

def Acyclic (r : α → α → Prop) : Prop := ∀ a, ¬Relation.TransGen r a a

theorem Acyclic.mono {r' : α → α → Prop} (h : Acyclic r) (sub : ∀ a b, r' a b → r a b) :
    Acyclic r' :=
  fun a cycle => h a (Relation.TransGen.mono sub a a cycle)

/-- A path of the extended relation either avoids the new edge `a → b` or first reaches
`a` and last leaves `b` by old edges. -/
theorem transGen_insert {a b x y : α}
    (path : Relation.TransGen (fun u v => r u v ∨ (u = a ∧ v = b)) x y) :
    Relation.TransGen r x y ∨ (Relation.ReflTransGen r x a ∧ Relation.ReflTransGen r b y) := by
  induction path with
  | single edge =>
    rcases edge with old | ⟨rfl, rfl⟩
    · exact .inl (.single old)
    · exact .inr ⟨.refl, .refl⟩
  | tail _ edge ih =>
    rcases edge with old | ⟨rfl, rfl⟩
    · rcases ih with ih | ⟨toA, fromB⟩
      · exact .inl (ih.tail old)
      · exact .inr ⟨toA, fromB.tail old⟩
    · rcases ih with ih | ⟨toA, _⟩
      · exact .inr ⟨ih.to_reflTransGen, .refl⟩
      · exact .inr ⟨toA, .refl⟩

/-- An edge keeps an acyclic relation acyclic exactly when its target does not reach its
source. -/
theorem acyclic_insert_iff {a b : α} (h : Acyclic r) :
    Acyclic (fun u v => r u v ∨ (u = a ∧ v = b)) ↔ ¬Relation.ReflTransGen r b a := by
  constructor
  · intro acyclic back
    refine acyclic a (Relation.TransGen.head' (.inr ⟨rfl, rfl⟩) ?_)
    exact Relation.ReflTransGen.mono (fun _ _ old => .inl old) b a back
  · intro noBack x cycle
    rcases transGen_insert cycle with old | ⟨toA, fromB⟩
    · exact h x old
    · exact noBack (fromB.trans toA)

end Acyclic

end Decodex.Library
