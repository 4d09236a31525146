import Mathlib.Data.List.Induction
import Mathlib.Logic.Function.Basic
import Mathlib.Tactic.Common

/-!
# Starts and stops paired by key

A start opens its key, the next stop of that key closes it, and the two are an interval. `pairing`
reads marks without a bound. A `Recorder` does the same with bounded room and gives up for good at
a mark that it cannot place; `Follows` says that it gave up for a reason, and until then has what
`pairing` has. Nothing here names a particular program.
-/
namespace Decodex.Library

inductive Mark (κ : Type) where
  | start (key : κ) (now : Nat)
  | stop (key : κ) (now : Nat)
  /-- A stop of the key, if it is open. -/
  | settle (key : κ) (now : Nat)

namespace Mark

variable {κ : Type}

def time : Mark κ → Nat
  | .start _ now => now
  | .stop _ now => now
  | .settle _ now => now

def starts : Mark κ → Bool
  | .start .. => true
  | _ => false

end Mark

structure Pairing (κ : Type) where
  opened : κ → Option Nat
  spans : List (Nat × Nat)
  /-- A key was stopped that was not open. -/
  stray : Bool

namespace Pairing

variable {κ : Type} {now : Nat}

def empty : Pairing κ := ⟨fun _ => none, [], false⟩

variable [DecidableEq κ]

def close (pairing : Pairing κ) (key : κ) (start stop : Nat) : Pairing κ :=
  { pairing with
    opened := Function.update pairing.opened key none
    spans := pairing.spans ++ [(start, stop)] }

def step (pairing : Pairing κ) : Mark κ → Pairing κ
  | .start key now =>
    { pairing with
      opened := Function.update pairing.opened key (some ((pairing.opened key).getD now)) }
  | .stop key now =>
    match pairing.opened key with
    | some start => pairing.close key start now
    | none => { pairing with stray := true }
  | .settle key now =>
    match pairing.opened key with
    | some start => pairing.close key start now
    | none => pairing

variable {pairing : Pairing κ} {mark : Mark κ}

theorem step_stray (held : pairing.stray = true) : (pairing.step mark).stray = true := by
  cases mark with
  | start key now => exact held
  | stop key now =>
    simp only [step]
    split
    · exact held
    · rfl
  | settle key now =>
    simp only [step]
    split
    · exact held
    · exact held

theorem length_le_step : pairing.spans.length ≤ (pairing.step mark).spans.length := by
  cases mark with
  | start key now => exact Nat.le_refl _
  | stop key now =>
    simp only [step]
    split
    · simp [close]
    · exact Nat.le_refl _
  | settle key now =>
    simp only [step]
    split
    · simp [close]
    · exact Nat.le_refl _

/-- What is open was opened by then. -/
def Before (pairing : Pairing κ) (now : Nat) : Prop :=
  ∀ key start, pairing.opened key = some start → start ≤ now

theorem Before.close (before : pairing.Before now) (key : κ) (start stop : Nat) :
    (pairing.close key start stop).Before now := by
  intro other held opened
  simp only [Pairing.close, Function.update_apply] at opened
  split at opened
  · cases opened
  · exact before other held opened

theorem Before.step (before : pairing.Before now) (within : mark.time ≤ now) :
    (pairing.step mark).Before now := by
  cases mark with
  | start key started =>
    intro other start opened
    simp only [Pairing.step, Function.update_apply] at opened
    split at opened
    · cases found : pairing.opened key with
      | none =>
        rw [found] at opened
        cases opened
        exact within
      | some held =>
        rw [found] at opened
        cases opened
        exact before key _ found
    · exact before other start opened
  | stop key stopped =>
    simp only [Pairing.step]
    split
    · exact before.close key _ _
    · exact before
  | settle key stopped =>
    simp only [Pairing.step]
    split
    · exact before.close key _ _
    · exact before

end Pairing

/-- The marks of a run, paired. -/
def pairing {κ : Type} [DecidableEq κ] (marks : List (Mark κ)) : Pairing κ :=
  marks.foldl Pairing.step .empty

section Run

variable {κ : Type} [DecidableEq κ]

@[simp] theorem pairing_snoc (marks : List (Mark κ)) (mark : Mark κ) :
    pairing (marks ++ [mark]) = (pairing marks).step mark := by
  rw [pairing, List.foldl_append]
  rfl

theorem pairing_before {marks : List (Mark κ)} {now : Nat}
    (within : ∀ mark ∈ marks, mark.time ≤ now) : (pairing marks).Before now := by
  induction marks using List.reverseRecOn with
  | nil =>
    intro key start opened
    cases opened
  | append_singleton marks mark ih =>
    rw [pairing_snoc]
    apply Pairing.Before.step
    · exact ih fun other listed => within other (List.mem_append_left _ listed)
    · exact within mark (by simp)

end Run

@[ext] structure Recorder (κ : Type) where
  incomplete : Bool
  opened : κ → Option Nat
  spans : List (Nat × Nat)

namespace Recorder

variable {κ : Type} {limit : Nat}

def empty : Recorder κ := ⟨false, fun _ => none, []⟩

def giveUp (recorder : Recorder κ) : Recorder κ := { recorder with incomplete := true }

/-- An interval that ends where it starts or later, while there is room. -/
def record (limit : Nat) (recorder : Recorder κ) (start stop : Nat) : Recorder κ :=
  if start ≤ stop ∧ recorder.spans.length < limit then
    { recorder with spans := recorder.spans ++ [(start, stop)] }
  else recorder.giveUp

variable [DecidableEq κ]

def close (limit : Nat) (recorder : Recorder κ) (key : κ) (start stop : Nat) : Recorder κ :=
  { recorder with opened := Function.update recorder.opened key none }.record limit start stop

/-- One mark, where `full` says that there is no room to open a key. -/
def step (limit : Nat) (full : Bool) (recorder : Recorder κ) : Mark κ → Recorder κ
  | .start key now =>
    if full then recorder.giveUp
    else
      { recorder with
        opened := Function.update recorder.opened key (some ((recorder.opened key).getD now)) }
  | .stop key now =>
    match recorder.opened key with
    | some start => recorder.close limit key start now
    | none => recorder.giveUp
  | .settle key now =>
    match recorder.opened key with
    | some start => recorder.close limit key start now
    | none => recorder

/-- What a recorder that turned `refused` down or not has of the marks so far. -/
structure Follows (limit : Nat) (recorder : Recorder κ) (refused : Prop)
    (pairing : Pairing κ) : Prop where
  reason : recorder.incomplete = true →
    refused ∨ pairing.stray = true ∨ limit < pairing.spans.length
  exact : recorder.incomplete = false → ¬refused ∧ pairing.stray = false ∧
    pairing.spans.length ≤ limit ∧ recorder.opened = pairing.opened ∧
    recorder.spans = pairing.spans
  valid : ∀ span ∈ recorder.spans, span.1 ≤ span.2

variable {recorder : Recorder κ} {full : Bool} {refused : Prop} {pairing : Pairing κ}
  {mark : Mark κ}

omit [DecidableEq κ] in
theorem record_incomplete {start stop : Nat} (held : recorder.incomplete = true) :
    (recorder.record limit start stop).incomplete = true := by
  unfold record
  split
  · exact held
  · rfl

theorem step_incomplete (held : recorder.incomplete = true) :
    (recorder.step limit full mark).incomplete = true := by
  cases mark with
  | start key now =>
    simp only [step]
    split
    · rfl
    · exact held
  | stop key now =>
    simp only [step]
    split
    · exact record_incomplete held
    · rfl
  | settle key now =>
    simp only [step]
    split
    · exact record_incomplete held
    · exact held

omit [DecidableEq κ] in
theorem record_valid {start stop : Nat} (valid : ∀ span ∈ recorder.spans, span.1 ≤ span.2) :
    ∀ span ∈ (recorder.record limit start stop).spans, span.1 ≤ span.2 := by
  unfold record
  split
  · rename_i room
    rw [List.forall_mem_append, List.forall_mem_singleton]
    exact ⟨valid, room.1⟩
  · exact valid

theorem step_valid (valid : ∀ span ∈ recorder.spans, span.1 ≤ span.2) :
    ∀ span ∈ (recorder.step limit full mark).spans, span.1 ≤ span.2 := by
  cases mark with
  | start key now =>
    simp only [step]
    split
    · exact valid
    · exact valid
  | stop key now =>
    simp only [step]
    split
    · exact record_valid valid
    · exact valid
  | settle key now =>
    simp only [step]
    split
    · exact record_valid valid
    · exact valid

namespace Follows

omit [DecidableEq κ] in
theorem empty : (Recorder.empty : Recorder κ).Follows limit False .empty where
  reason := fun incomplete => by cases incomplete
  exact := fun _ => ⟨id, rfl, Nat.zero_le _, rfl, rfl⟩
  valid := List.forall_mem_nil _

omit [DecidableEq κ] in
theorem gaveUp (incomplete : recorder.incomplete = true)
    (reason : refused ∨ pairing.stray = true ∨ limit < pairing.spans.length)
    (valid : ∀ span ∈ recorder.spans, span.1 ≤ span.2) :
    recorder.Follows limit refused pairing where
  reason := fun _ => reason
  exact := fun complete => by
    rw [incomplete] at complete
    cases complete
  valid := valid

omit [DecidableEq κ] in
/-- A refusal that did not happen changes nothing. -/
theorem mono {now : Prop} (follows : recorder.Follows limit refused pairing) (no : ¬now) :
    recorder.Follows limit (refused ∨ now) pairing where
  reason := fun incomplete => (follows.reason incomplete).imp .inl id
  exact := fun complete => by
    obtain ⟨taken, rest⟩ := follows.exact complete
    exact ⟨fun either => either.elim taken no, rest⟩
  valid := follows.valid

theorem close {key : κ} {start stop : Nat} (follows : recorder.Follows limit refused pairing)
    (complete : recorder.incomplete = false) (ordered : start ≤ stop) :
    (recorder.close limit key start stop).Follows limit refused (pairing.close key start stop) := by
  obtain ⟨taken, kept, few, opened, spans⟩ := follows.exact complete
  by_cases room : recorder.spans.length < limit
  · have recorded : recorder.close limit key start stop =
        ⟨false, Function.update recorder.opened key none, recorder.spans ++ [(start, stop)]⟩ := by
      rw [Recorder.close, record, if_pos ⟨ordered, room⟩, complete]
    constructor
    · intro incomplete
      rw [recorded] at incomplete
      cases incomplete
    · intro _
      rw [recorded, Pairing.close, opened, spans]
      refine ⟨taken, kept, ?_, rfl, rfl⟩
      rw [List.length_append, ← spans]
      exact room
    · exact record_valid follows.valid
  · have recorded : (recorder.close limit key start stop).incomplete = true := by
      rw [Recorder.close, record, if_neg fun both => room both.2]
      rfl
    refine gaveUp recorded (.inr (.inr ?_)) (record_valid follows.valid)
    rw [Pairing.close, List.length_append, ← spans, List.length_singleton]
    omega

/-- A mark is placed, or there is a reason to give up. -/
theorem step (follows : recorder.Follows limit refused pairing)
    (before : pairing.Before mark.time) :
    (recorder.step limit full mark).Follows limit (refused ∨ full = true ∧ mark.starts = true)
      (pairing.step mark) := by
  cases complete : recorder.incomplete with
  | true =>
    refine gaveUp (step_incomplete complete) ?_ (step_valid follows.valid)
    rcases follows.reason complete with hit | stray | many
    · exact .inl (.inl hit)
    · exact .inr (.inl (Pairing.step_stray stray))
    · exact .inr (.inr (Nat.lt_of_lt_of_le many Pairing.length_le_step))
  | false =>
    obtain ⟨taken, kept, few, opened, spans⟩ := follows.exact complete
    cases mark with
    | start key now =>
      cases full with
      | true => exact gaveUp rfl (.inl (.inr ⟨rfl, rfl⟩)) follows.valid
      | false =>
        refine ⟨fun incomplete => ?_, fun _ => ⟨?_, kept, few, ?_, spans⟩, follows.valid⟩
        · rw [Recorder.step, if_neg Bool.false_ne_true, complete] at incomplete
          cases incomplete
        · rintro (hit | ⟨none, _⟩)
          · exact taken hit
          · cases none
        · rw [Recorder.step, if_neg Bool.false_ne_true, Pairing.step, opened]
    | stop key now =>
      refine Follows.mono ?_ fun both => by cases both.2
      simp only [Recorder.step, Pairing.step, opened]
      cases found : pairing.opened key with
      | none => exact gaveUp rfl (.inr (.inl rfl)) follows.valid
      | some start => exact follows.close complete (before key start found)
    | settle key now =>
      refine Follows.mono ?_ fun both => by cases both.2
      simp only [Recorder.step, Pairing.step, opened]
      cases found : pairing.opened key with
      | none => exact follows
      | some start => exact follows.close complete (before key start found)

end Follows

end Recorder

end Decodex.Library
