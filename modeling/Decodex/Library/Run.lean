import Mathlib.Data.List.Basic

/-!
# Labelled runs of a transition relation

A run lists, oldest first, the labels of the steps that lead from one state to another.
The rules package the inductions over runs: an invariant, a history relation that every
step extends, and the count of a kind of label that closes the state it is emitted from.
Nothing here names a particular machine.
-/
namespace Decodex.Library

/-- `Run step s events t`: the steps labelled `events` lead from `s` to `t`. -/
inductive Run {σ ε : Type*} (step : σ → ε → σ → Prop) : σ → List ε → σ → Prop
  | nil (s : σ) : Run step s [] s
  | cons {s m t : σ} {event : ε} {events : List ε} (first : step s event m)
      (rest : Run step m events t) : Run step s (event :: events) t

namespace Run

variable {σ ε : Type*} {step : σ → ε → σ → Prop} {s m t : σ} {events later : List ε}

theorem single {event : ε} (first : step s event t) : Run step s [event] t :=
  .cons first (.nil t)

theorem append (before : Run step s events m) (after : Run step m later t) :
    Run step s (events ++ later) t := by
  induction before with
  | nil => exact after
  | cons first _ ih => exact .cons first (ih after)

theorem snoc (before : Run step s events m) (event : ε) (last : step m event t) :
    Run step s (events ++ [event]) t :=
  before.append (.single last)

/-- Every cut of the label list is a state the run passes. -/
theorem split (events : List ε) {s : σ} (run : Run step s (events ++ later) t) :
    ∃ m, Run step s events m ∧ Run step m later t := by
  induction events generalizing s with
  | nil => exact ⟨s, .nil s, run⟩
  | cons event events ih =>
    cases run with
    | cons first rest =>
      obtain ⟨m, left, right⟩ := ih rest
      exact ⟨m, .cons first left, right⟩

/-- What every step from a good state keeps, every run from a good state keeps. -/
theorem invariant {Inv : σ → Prop}
    (preserved : ∀ s event t, step s event t → Inv s → Inv t)
    (run : Run step s events t) (start : Inv s) : Inv t := by
  induction run with
  | nil => exact start
  | cons first _ ih => exact ih (preserved _ _ _ first start)

/-- A reflexive, transitive relation that contains every step contains every run. -/
theorem relates {R : σ → σ → Prop} (refl : ∀ s, R s s)
    (trans : ∀ s m t, R s m → R m t → R s t)
    (contained : ∀ s event t, step s event t → R s t)
    (run : Run step s events t) : R s t := by
  induction run with
  | nil s => exact refl s
  | cons first _ ih => exact trans _ _ _ (contained _ _ _ first) ih

/-- What holds of no events at the start, and of each further event, holds of the whole run. -/
theorem history (Inv : List ε → σ → Prop)
    (preserved : ∀ before s event t, step s event t → Inv before s → Inv (before ++ [event]) t)
    (run : Run step s events t) (start : Inv [] s) : Inv events t := by
  suffices general : ∀ before, Inv before s → Inv (before ++ events) t from general [] start
  clear start
  induction run with
  | nil s =>
    intro before held
    rwa [List.append_nil]
  | cons first _ ih =>
    intro before held
    rw [List.append_cons]
    exact ih _ (preserved _ _ _ _ first held)

/-- A cut of a list with one more element is at that element or before it. -/
theorem split_snoc {before later past : List ε} {start event : ε}
    (same : past ++ [event] = before ++ start :: later) :
    (before = past ∧ start = event ∧ later = []) ∨
      ∃ rest, later = rest ++ [event] ∧ past = before ++ start :: rest := by
  rcases List.eq_nil_or_concat later with rfl | ⟨rest, last, rfl⟩
  · obtain ⟨rfl, single⟩ := List.append_inj' same rfl
    exact .inl ⟨rfl, (List.cons.inj single).1.symm, rfl⟩
  · rw [List.concat_eq_append] at *
    rw [← List.cons_append, ← List.append_assoc] at same
    obtain ⟨rfl, single⟩ := List.append_inj' same rfl
    exact .inr ⟨rest, by rw [(List.cons.inj single).1], rfl⟩

/-- What holds right after an event and is kept by each later step holds ever since. -/
theorem since (Inv : List ε → σ → Prop) (Holds : List ε → ε → List ε → σ → Prop)
    (preserved : ∀ before s event t, step s event t → Inv before s → Inv (before ++ [event]) t)
    (opens : ∀ before s event t, step s event t → Inv before s → Holds before event [] t)
    (stays : ∀ before start later s event t, step s event t →
      Inv (before ++ start :: later) s → Holds before start later s →
        Holds before start (later ++ [event]) t)
    (run : Run step s events t) (begins : Inv [] s) :
    ∀ before start later, events = before ++ start :: later → Holds before start later t := by
  have held := run.history (fun past s => Inv past s ∧
    ∀ before start later, past = before ++ start :: later → Holds before start later s) (by
      rintro past s event t move ⟨inv, held⟩
      refine ⟨preserved past s event t move inv, fun before start later same => ?_⟩
      rcases split_snoc same with ⟨rfl, rfl, rfl⟩ | ⟨rest, rfl, rfl⟩
      · exact opens before s start t move inv
      · exact stays before start rest s event t move inv (held before start rest rfl))
    ⟨begins, fun before start later none => absurd none (by simp)⟩
  exact held.2

/-- An invariant of the run's start may be assumed at the start of each of its steps. -/
theorem strengthen {Inv : σ → Prop}
    (preserved : ∀ s event t, step s event t → Inv s → Inv t)
    (run : Run step s events t) (start : Inv s) :
    Run (fun s event t => step s event t ∧ Inv s) s events t := by
  induction run with
  | nil s => exact .nil s
  | cons first _ ih => exact .cons ⟨first, start⟩ (ih (preserved _ _ _ first start))

/-- A run whose labels all satisfy `good` is a run of the steps with good labels. -/
theorem restrict {good : ε → Prop} (run : Run step s events t)
    (all : ∀ event ∈ events, good event) :
    Run (fun s event t => step s event t ∧ good event) s events t := by
  induction run with
  | nil s => exact .nil s
  | cons first _ ih =>
    refine .cons ⟨first, all _ (by simp)⟩ (ih fun event member => all event ?_)
    exact List.mem_cons_of_mem _ member

section Counting

/-!
A label that only an open state emits, and that closes it, occurs at most once as long as
no step opens a closed state again.
-/

variable {closed : σ → Prop} {hit : ε → Bool}

theorem countP_eq_zero_of_closed
    (stays : ∀ s event t, step s event t → closed s → closed t)
    (guarded : ∀ s event t, step s event t → hit event = true → ¬closed s)
    (run : Run step s events t) (start : closed s) : events.countP hit = 0 := by
  induction run with
  | nil => rfl
  | @cons s m t event events first _ ih =>
    have miss : ¬hit event = true := fun h => guarded _ _ _ first h start
    simpa [List.countP_cons, miss] using ih (stays _ _ _ first start)

theorem countP_le_one
    (stays : ∀ s event t, step s event t → closed s → closed t)
    (guarded : ∀ s event t, step s event t → hit event = true → ¬closed s)
    (closes : ∀ s event t, step s event t → hit event = true → closed t)
    (run : Run step s events t) : events.countP hit ≤ 1 := by
  induction run with
  | nil => exact Nat.zero_le 1
  | @cons s m t event events first rest ih =>
    by_cases h : hit event = true
    · have none := countP_eq_zero_of_closed stays guarded rest (closes _ _ _ first h)
      simp [h, none]
    · simpa [List.countP_cons, h] using ih

end Counting

end Run

end Decodex.Library
