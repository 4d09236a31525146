import Mathlib.Data.List.Induction
import Mathlib.Tactic.Common

/-!
# Sequences of fallible steps

How a chain of `Except` steps that ended in a value, or in a loop's value, came apart.
Nothing here names a particular program.
-/
namespace Decodex.Library

variable {ε ε' α β : Type}

@[simp] theorem ok_bind {value : α} {next : α → Except ε β} :
    (Except.ok value >>= next) = next value := rfl

@[simp] theorem error_bind {error : ε} {next : α → Except ε β} :
    (Except.error error >>= next) = .error error := rfl

/-- What a committed sequence of fallible steps did. -/
theorem bind_ok {first : Except ε α} {next : α → Except ε β} {value : β}
    (h : (first >>= next) = .ok value) : ∃ x, first = .ok x ∧ next x = .ok value := by
  cases first with
  | error e => cases h
  | ok x => exact ⟨x, rfl, h⟩

/-- A guard before other steps: it did not fire, and they made the value. -/
theorem guard_ok {condition : Prop} [Decidable condition] {error : ε} {next : Except ε α}
    {value : α} : (if condition then .error error else next) = .ok value ↔
      ¬ condition ∧ next = .ok value := by
  by_cases fired : condition
  · rw [if_pos fired]
    exact ⟨nofun, fun passed => absurd fired passed.1⟩
  · rw [if_neg fired]
    exact ⟨fun made => ⟨fired, made⟩, fun passed => passed.2⟩

/-- A check before others: each of them passes. -/
theorem check_bind_ok {first : Except ε Unit} {next : Except ε α} {value : α} :
    (first >>= fun _ => next) = .ok value ↔ first = .ok () ∧ next = .ok value := by
  cases first with
  | error e => exact ⟨nofun, nofun⟩
  | ok x => exact ⟨fun h => ⟨rfl, h⟩, fun h => h.2⟩

theorem map_ok {first : Except ε α} {change : α → β} {value : β} :
    first.map change = .ok value ↔ ∃ found, first = .ok found ∧ change found = value := by
  cases first <;> simp [Except.map]

theorem mapError_ok {first : Except ε α} {change : ε → ε'} {value : α} :
    first.mapError change = .ok value ↔ first = .ok value := by
  cases first with
  | error e => exact ⟨nofun, nofun⟩
  | ok x => exact ⟨fun h => by cases h; rfl, fun h => by cases h; rfl⟩

/-- A loop that ended in a value has taken each of its rounds. -/
theorem foldlM_ok_each {body : β → α → Except ε β} {fact : α → Prop}
    (round : ∀ before item after, body before item = .ok after → fact item) {items : List α}
    {start result : β} (done : items.foldlM body start = .ok result) : ∀ item ∈ items, fact item := by
  induction items generalizing start with
  | nil => exact nofun
  | cons first rest ih =>
    rw [List.foldlM_cons] at done
    obtain ⟨middle, step, done⟩ := bind_ok done
    intro item member
    rcases List.mem_cons.mp member with rfl | member
    · exact round _ _ _ step
    · exact ih done item member

/-- What each round of a loop keeps holds of all its items at the end. -/
theorem foldlM_ok_prefix {body : β → α → Except ε β} (inv : List α → β → Prop)
    (round : ∀ done before item after, inv done before → body before item = .ok after →
      inv (done ++ [item]) after) {items : List α} {start result : β} (opening : inv [] start)
    (looped : items.foldlM body start = .ok result) : inv items result := by
  suffices general : ∀ done start, inv done start → items.foldlM body start = .ok result →
      inv (done ++ items) result from general [] start opening looped
  clear opening looped
  induction items with
  | nil =>
    intro done start held looped
    cases looped
    rwa [List.append_nil]
  | cons first rest ih =>
    intro done start held looped
    rw [List.foldlM_cons] at looped
    obtain ⟨middle, step, looped⟩ := bind_ok looped
    rw [List.append_cons]
    exact ih _ _ (round _ _ _ _ held step) looped

/-- A loop that failed did so in a round that started from a kept state. -/
theorem foldlM_error_prefix {body : β → α → Except ε β} (fact : ε → Prop)
    (inv : List α → β → Prop)
    (round : ∀ done before item after, inv done before → body before item = .ok after →
      inv (done ++ [item]) after)
    (refused : ∀ done before item error, inv done before → body before item = .error error →
      fact error)
    {items : List α} {start : β} {error : ε} (opening : inv [] start)
    (looped : items.foldlM body start = .error error) : fact error := by
  suffices general : ∀ done start, inv done start → items.foldlM body start = .error error →
      fact error from general [] start opening looped
  clear opening looped
  induction items with
  | nil =>
    intro done start _ looped
    cases looped
  | cons first rest ih =>
    intro done start held looped
    rw [List.foldlM_cons] at looped
    cases step : body start first with
    | error reason =>
      rw [step] at looped
      cases looped
      exact refused _ _ _ _ held step
    | ok middle =>
      rw [step] at looped
      exact ih _ _ (round _ _ _ _ held step) looped

/-- The values of a map that succeeded come from the items, one from each. -/
theorem mapM_ok_spec {γ : Type} {f : α → Except ε β} {g : β → γ} {h : α → γ} {items : List α}
    {values : List β} (each : ∀ item value, f item = .ok value → g value = h item)
    (mapped : items.mapM f = .ok values) :
    values.map g = items.map h ∧ ∀ value ∈ values, ∃ item ∈ items, f item = .ok value := by
  induction items generalizing values with
  | nil =>
    cases mapped
    exact ⟨rfl, nofun⟩
  | cons first rest ih =>
    rw [List.mapM_cons] at mapped
    obtain ⟨value, step, mapped⟩ := bind_ok mapped
    obtain ⟨later, looped, mapped⟩ := bind_ok mapped
    cases mapped
    obtain ⟨same, origins⟩ := ih looped
    refine ⟨by rw [List.map_cons, List.map_cons, each first value step, same], ?_⟩
    intro other member
    rcases List.mem_cons.mp member with rfl | member
    · exact ⟨first, by simp, step⟩
    · obtain ⟨item, listed, made⟩ := origins other member
      exact ⟨item, List.mem_cons_of_mem _ listed, made⟩

/-- A map that succeeded has made a value of each item. -/
theorem mapM_ok_each {f : α → Except ε β} {items : List α} {values : List β}
    (mapped : items.mapM f = .ok values) : ∀ item ∈ items, ∃ value ∈ values, f item = .ok value := by
  induction items generalizing values with
  | nil =>
    intro item member
    exact absurd member List.not_mem_nil
  | cons first rest ih =>
    rw [List.mapM_cons] at mapped
    obtain ⟨value, step, mapped⟩ := bind_ok mapped
    obtain ⟨later, looped, mapped⟩ := bind_ok mapped
    cases mapped
    intro item member
    rcases List.mem_cons.mp member with rfl | member
    · exact ⟨value, by simp, step⟩
    · obtain ⟨found, listed, made⟩ := ih looped item member
      exact ⟨found, List.mem_cons_of_mem _ listed, made⟩

/-- A map succeeds where each item does. -/
theorem mapM_ok_of_each {f : α → Except ε β} {R : α → β → Prop} {items : List α}
    (each : ∀ item ∈ items, ∃ value, f item = .ok value ∧ R item value) :
    ∃ values, items.mapM f = .ok values ∧ List.Forall₂ R items values := by
  induction items with
  | nil => exact ⟨[], rfl, .nil⟩
  | cons first rest ih =>
    obtain ⟨value, made, related⟩ := each first (by simp)
    obtain ⟨later, mapped, all⟩ := ih fun item member => each item (List.mem_cons_of_mem _ member)
    refine ⟨value :: later, ?_, .cons related all⟩
    rw [List.mapM_cons, made, ok_bind, mapped, ok_bind]
    rfl

/-- A map that succeeds on each item succeeds, and keeps what each value keeps of its item. -/
theorem mapM_ok_map {γ : Type*} {f : α → Except ε β} {g : β → γ} {h : α → γ} {items : List α}
    (each : ∀ item ∈ items, ∃ value, f item = .ok value ∧ g value = h item) :
    ∃ values, items.mapM f = .ok values ∧ values.map g = items.map h := by
  obtain ⟨values, mapped, related⟩ := mapM_ok_of_each each
  refine ⟨values, mapped, ?_⟩
  clear mapped each
  induction related with
  | nil => rfl
  | cons same _ ih => rw [List.map_cons, List.map_cons, same, ih]

/-- A map over the indexes of a list that yields the item at each of them yields the list. -/
theorem mapM_range {f : Nat → Except ε β} {items : List β}
    (each : ∀ index, (inside : index < items.length) → f index = .ok items[index]) :
    (List.range items.length).mapM f = .ok items := by
  induction items using List.reverseRecOn with
  | nil => rfl
  | append_singleton items last ih =>
    rw [List.length_append, List.length_singleton, List.range_succ, List.mapM_append, ih, ok_bind,
      List.mapM_cons, List.mapM_nil, each items.length (by simp)]
    · simp [pure, Except.pure, bind, Except.bind]
    · intro index inside
      rw [each index (by simp; omega), List.getElem_append_left inside]

/-- A loop whose rounds agree on its items is the same loop. -/
theorem foldlM_congr {body body' : β → α → Except ε β} {items : List α}
    (same : ∀ item ∈ items, ∀ before, body before item = body' before item) (start : β) :
    items.foldlM body start = items.foldlM body' start := by
  induction items generalizing start with
  | nil => rfl
  | cons first rest ih =>
    rw [List.foldlM_cons, List.foldlM_cons, same first (by simp)]
    refine congrArg _ (funext fun middle => ih (fun item member => same item ?_) middle)
    exact List.mem_cons_of_mem _ member

end Decodex.Library
