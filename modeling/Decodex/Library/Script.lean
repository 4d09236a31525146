import Mathlib.Tactic.Common

/-!
# Scripts of atomic steps

A script changes a state in labelled atomic steps and ends with a value or an error. Its
outcome lists what stood after each step, so a process that stops in the middle leaves one of
the listed states. A crash triple says what every listed state satisfies, besides what holds
when the script returns or fails; the rules compose triples along the script.
Nothing here names a particular machine.
-/
namespace Decodex.Library

/-- The label of each step with the state after it, oldest first, and how the script ends. -/
structure Outcome (ℓ σ ε α : Type) where
  passed : List (ℓ × σ)
  result : Except ε α
  final : σ

def Script (ℓ σ ε α : Type) : Type := σ → Outcome ℓ σ ε α

namespace Script

variable {ℓ σ ε ε' α β : Type}

def ret (value : α) : Script ℓ σ ε α := fun s => ⟨[], .ok value, s⟩

def fail (error : ε) : Script ℓ σ ε α := fun s => ⟨[], .error error, s⟩

def bind (first : Script ℓ σ ε α) (next : α → Script ℓ σ ε β) : Script ℓ σ ε β := fun s =>
  let outcome := first s
  match outcome.result with
  | .error error => ⟨outcome.passed, .error error, outcome.final⟩
  | .ok value =>
    let rest := next value outcome.final
    ⟨outcome.passed ++ rest.passed, rest.result, rest.final⟩

instance : Monad (Script ℓ σ ε) where
  pure := ret
  bind := bind

/-- Look at the state, or fail on it. -/
def observe (look : σ → Except ε α) : Script ℓ σ ε α := fun s => ⟨[], look s, s⟩

/-- One atomic step; a step that fails changes nothing. -/
def step (label : ℓ) (act : σ → Except ε (α × σ)) : Script ℓ σ ε α := fun s =>
  match act s with
  | .error error => ⟨[], .error error, s⟩
  | .ok (value, after) => ⟨[(label, after)], .ok value, after⟩

/-- Run a script and keep its error as a value. -/
def attempt (script : Script ℓ σ ε α) : Script ℓ σ ε' (Except ε α) := fun s =>
  let outcome := script s
  ⟨outcome.passed, .ok outcome.result, outcome.final⟩

/-- A script that only runs under a condition. -/
def provided (condition : Bool) (script : Script ℓ σ ε Unit) : Script ℓ σ ε Unit :=
  if condition then script else pure ()

theorem bind_of_error {first : Script ℓ σ ε α} {next : α → Script ℓ σ ε β} {s : σ} {error : ε}
    (ended : (first s).result = .error error) :
    (first >>= next) s = ⟨(first s).passed, .error error, (first s).final⟩ := by
  change Script.bind first next s = _
  unfold Script.bind
  simp only [ended]

theorem bind_of_ok {first : Script ℓ σ ε α} {next : α → Script ℓ σ ε β} {s : σ} {value : α}
    (ended : (first s).result = .ok value) :
    (first >>= next) s = ⟨(first s).passed ++ (next value (first s).final).passed,
      (next value (first s).final).result, (next value (first s).final).final⟩ := by
  change Script.bind first next s = _
  unfold Script.bind
  simp only [ended]

theorem attempt_bind {first : Script ℓ σ ε α} {next : Except ε α → Script ℓ σ ε' β} {s : σ} :
    (attempt first >>= next) s =
      ⟨(first s).passed ++ (next (first s).result (first s).final).passed,
        (next (first s).result (first s).final).result,
        (next (first s).result (first s).final).final⟩ :=
  bind_of_ok rfl

/-- From every state in `pre`, each step leaves a state that `crash` allows, an error leaves
one in `failed`, and a value leaves one in `post`. -/
def Meets (pre : σ → Prop) (script : Script ℓ σ ε α) (crash : ℓ → σ → Prop)
    (failed : ε → σ → Prop) (post : α → σ → Prop) : Prop :=
  ∀ s, pre s → (∀ stop ∈ (script s).passed, crash stop.1 stop.2) ∧
    match (script s).result with
    | .error error => failed error (script s).final
    | .ok value => post value (script s).final

namespace Meets

variable {pre : σ → Prop} {crash : ℓ → σ → Prop} {failed : ε → σ → Prop}

theorem ret {post : α → σ → Prop} {value : α} (holds : ∀ s, pre s → post value s) :
    Meets pre (pure value : Script ℓ σ ε α) crash failed post :=
  fun s start => ⟨nofun, holds s start⟩

theorem bind {first : Script ℓ σ ε α} {next : α → Script ℓ σ ε β} (mid : α → σ → Prop)
    {post : β → σ → Prop} (before : Meets pre first crash failed mid)
    (after : ∀ value, Meets (mid value) (next value) crash failed post) :
    Meets pre (first >>= next) crash failed post := by
  intro s start
  obtain ⟨stops, ended⟩ := before s start
  cases result : (first s).result with
  | error error =>
    rw [bind_of_error result]
    rw [result] at ended
    exact ⟨stops, ended⟩
  | ok value =>
    rw [bind_of_ok result]
    rw [result] at ended
    obtain ⟨later, final⟩ := after value _ ended
    refine ⟨fun stop member => ?_, final⟩
    rcases List.mem_append.mp member with member | member
    · exact stops stop member
    · exact later stop member

theorem observe {look : σ → Except ε α} {post : α → σ → Prop}
    (refused : ∀ s error, pre s → look s = .error error → failed error s)
    (seen : ∀ s value, pre s → look s = .ok value → post value s) :
    Meets pre (Script.observe look : Script ℓ σ ε α) crash failed post := by
  intro s start
  refine ⟨nofun, ?_⟩
  change match look s with
    | .error error => failed error s
    | .ok value => post value s
  cases result : look s with
  | error error => exact refused s error start result
  | ok value => exact seen s value start result

theorem step {label : ℓ} {act : σ → Except ε (α × σ)} {post : α → σ → Prop}
    (refused : ∀ s error, pre s → act s = .error error → failed error s)
    (done : ∀ s value after, pre s → act s = .ok (value, after) →
      crash label after ∧ post value after) :
    Meets pre (Script.step label act) crash failed post := by
  intro s start
  unfold Script.step
  cases result : act s with
  | error error => exact ⟨nofun, refused s error start result⟩
  | ok pair =>
    obtain ⟨value, after⟩ := pair
    obtain ⟨crashed, holds⟩ := done s value after start result
    refine ⟨fun stop member => ?_, holds⟩
    rw [List.mem_singleton.mp member]
    exact crashed

theorem provided {condition : Bool} {script : Script ℓ σ ε Unit} {post : Unit → σ → Prop}
    (runs : condition = true → Meets pre script crash failed post)
    (skips : condition = false → ∀ s, pre s → post () s) :
    Meets pre (Script.provided condition script) crash failed post := by
  cases condition with
  | true => exact runs rfl
  | false => exact ret (skips rfl)

/-- A weaker start, or a stronger end. -/
theorem weaken {script : Script ℓ σ ε α} {pre' : σ → Prop} {failed' : ε → σ → Prop}
    {post post' : α → σ → Prop} (meets : Meets pre script crash failed post)
    (starts : ∀ s, pre' s → pre s) (fails : ∀ error s, failed error s → failed' error s)
    (ends : ∀ value s, post value s → post' value s) :
    Meets pre' script crash failed' post' := by
  intro s start
  obtain ⟨stops, ended⟩ := meets s (starts s start)
  refine ⟨stops, ?_⟩
  cases result : (script s).result with
  | error error =>
    rw [result] at ended
    exact fails error _ ended
  | ok value =>
    rw [result] at ended
    exact ends value _ ended

/-- A loop over a list keeps what each of its rounds keeps. -/
theorem forM {body : β → Script ℓ σ ε PUnit} {items : List β} {inv : σ → Prop}
    (round : ∀ item ∈ items, Meets inv (body item) crash failed fun _ s => inv s) :
    Meets inv (items.forM body) crash failed fun _ s => inv s := by
  induction items with
  | nil => exact ret fun _ held => held
  | cons item items ih =>
    refine bind _ (round item (by simp)) fun _ => ih fun later member => ?_
    exact round later (List.mem_cons_of_mem _ member)

/-- A triple from each single state of a precondition. -/
theorem fixing {script : Script ℓ σ ε α} {post : α → σ → Prop}
    (meets : ∀ s, pre s → Meets (· = s) script crash failed post) :
    Meets pre script crash failed post :=
  fun s start => meets s start s rfl

/-- A fact about a value that does not depend on the state is kept along the script. -/
theorem assuming {script : Script ℓ σ ε α} {post : α → σ → Prop} {fact : Prop}
    (meets : fact → Meets pre script crash failed post) :
    Meets (fun s => fact ∧ pre s) script crash failed post :=
  fun s start => meets start.1 s start.2

end Meets

end Script

end Decodex.Library
