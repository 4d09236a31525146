import Decodex.Library.KeyedMap
import Decodex.Library.Run

/-!
# Receipts of idempotent requests

A request comes under a key. It is executed when no receipt is kept under its key and the group of
the key has room; a receipt of its result is then kept, if it is one to be kept, and every later
request under the key is answered from it. The rules say what a run of requests can do: a receipt
stays, its key is executed no more, and a group never holds more than its capacity. Nothing here
names a particular server.
-/
namespace Decodex.Library.Receipts

/-- What is kept, under what, and how much of it. -/
structure Policy (κ γ σ ρ α : Type) where
  key : σ → κ
  group : κ → γ
  capacity : Nat
  keeps : σ → ρ → Bool
  receipt : σ → ρ → α

/-- A request that was dealt with, and what its execution gave, if there was one. -/
structure Served (σ ρ : Type) where
  request : σ
  execution : Option ρ

variable {κ γ σ ρ α : Type} [DecidableEq κ] [DecidableEq γ] {policy : Policy κ γ σ ρ α}

/-- How many receipts a group holds. -/
def count (policy : Policy κ γ σ ρ α) (receipts : KeyedMap κ α) (group : γ) : Nat :=
  (receipts.entries.map Prod.fst).countP fun key => policy.group key = group

/-- A request that is executed. -/
def Executes (policy : Policy κ γ σ ρ α) (receipts : KeyedMap κ α) (request : σ) : Prop :=
  receipts.find? (policy.key request) = none ∧
    count policy receipts (policy.group (policy.key request)) < policy.capacity

/-- The receipts after a request. -/
def keep (policy : Policy κ γ σ ρ α) (receipts : KeyedMap κ α) (served : Served σ ρ) :
    KeyedMap κ α :=
  match served.execution with
  | some result =>
    if policy.keeps served.request result then
      receipts.insert (policy.key served.request) (policy.receipt served.request result)
    else receipts
  | none => receipts

/-- A request is executed exactly when it is to be. -/
def Serves (policy : Policy κ γ σ ρ α) (receipts : KeyedMap κ α) (served : Served σ ρ)
    (next : KeyedMap κ α) : Prop :=
  (served.execution.isSome = true ↔ Executes policy receipts served.request) ∧
    next = keep policy receipts served

section Rules

variable {receipts next : KeyedMap κ α} {served : Served σ ρ} {run : List (Served σ ρ)}

/-- A receipt that is kept stays as it is. -/
theorem kept_of_serves (step : Serves policy receipts served next) {key : κ} {kept : α}
    (found : receipts.find? key = some kept) : next.find? key = some kept := by
  obtain ⟨executes, rfl⟩ := step
  unfold keep
  cases held : served.execution with
  | none => exact found
  | some result =>
    dsimp only
    split
    · have absent := (executes.mp (by rw [held]; rfl)).1
      rw [KeyedMap.find?_insert, if_neg]
      · exact found
      · rintro rfl
        rw [absent] at found
        cases found
    · exact found

theorem kept_of_run (steps : Run (Serves policy) receipts run next) {key : κ} {kept : α}
    (found : receipts.find? key = some kept) : next.find? key = some kept := by
  induction steps with
  | nil => exact found
  | cons first _ ih => exact ih (kept_of_serves first found)

/-- A key whose receipt is kept is executed no more. -/
theorem unexecuted_of_run (steps : Run (Serves policy) receipts run next) {key : κ} {kept : α}
    (found : receipts.find? key = some kept) :
    ∀ served ∈ run, policy.key served.request = key → served.execution = none := by
  induction steps with
  | nil => exact List.forall_mem_nil _
  | cons first _ ih =>
    refine List.forall_mem_cons.mpr ⟨?_, ih (kept_of_serves first found)⟩
    intro same
    by_contra executed
    have absent := (first.1.mp (Option.isSome_iff_ne_none.mpr executed)).1
    rw [same, found] at absent
    cases absent

/-- No group holds more than its capacity. -/
theorem bounded_of_serves (step : Serves policy receipts served next)
    (bounded : ∀ group, count policy receipts group ≤ policy.capacity) (group : γ) :
    count policy next group ≤ policy.capacity := by
  obtain ⟨executes, rfl⟩ := step
  unfold keep
  cases held : served.execution with
  | none => exact bounded group
  | some result =>
    dsimp only
    split
    · obtain ⟨absent, room⟩ := executes.mp (by rw [held]; rfl)
      have old := bounded group
      unfold count at room old ⊢
      rw [KeyedMap.keys_insert_of_absent absent, List.countP_append, List.countP_singleton]
      split
      · rename_i same
        rw [decide_eq_true_eq] at same
        rw [same] at room
        omega
      · omega
    · exact bounded group

theorem bounded_of_run (steps : Run (Serves policy) receipts run next)
    (bounded : ∀ group, count policy receipts group ≤ policy.capacity) (group : γ) :
    count policy next group ≤ policy.capacity := by
  have kept := steps.invariant (fun _ _ _ step kept => bounded_of_serves step kept) bounded
  exact kept group

/-- A receipt that is kept is that of one execution, and no later request is executed. -/
theorem executed_of_found (steps : Run (Serves policy) receipts run next) {key : κ} {kept : α}
    (absent : receipts.find? key = none) (found : next.find? key = some kept) :
    ∃ before after served result, run = before ++ served :: after ∧
      policy.key served.request = key ∧ served.execution = some result ∧
      policy.keeps served.request result = true ∧ kept = policy.receipt served.request result ∧
      ∀ later ∈ after, policy.key later.request = key → later.execution = none := by
  induction steps with
  | nil =>
    rw [absent] at found
    cases found
  | @cons receipts middle next served rest first steps ih =>
    cases passed : middle.find? key with
    | none =>
      obtain ⟨before, after, later, result, rfl, facts⟩ := ih passed found
      exact ⟨served :: before, after, later, result, rfl, facts⟩
    | some other =>
      have same := kept_of_run steps passed
      rw [found, Option.some.injEq] at same
      subst same
      have unexecuted := unexecuted_of_run steps passed
      obtain ⟨-, rfl⟩ := first
      unfold keep at passed
      cases held : served.execution with
      | none =>
        rw [held, absent] at passed
        cases passed
      | some result =>
        rw [held] at passed
        dsimp only at passed
        split at passed
        · rename_i keeps
          rw [KeyedMap.find?_insert] at passed
          split at passed
          · rename_i hit
            cases passed
            exact ⟨[], rest, served, result, rfl, hit.symm, held, keeps, rfl, unexecuted⟩
          · rw [absent] at passed
            cases passed
        · rw [absent] at passed
          cases passed

end Rules

end Decodex.Library.Receipts
