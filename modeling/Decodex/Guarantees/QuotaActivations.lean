import Decodex.Library.Run
import Decodex.Guarantees.Samples
import Decodex.Source.Store.QuotaActivation

/-!
# A quota window is activated at most once

Runs of `claim_quota_activation` and `finish_quota_activation` for one enabled account, with a
clock that does not go back and any reported resets. What one event says of the later ones is
proved once for each event and carried through the run: a reservation, a running backoff and
the sample of an unstarted window.

A report that is not later than the stored reset moves the time of its sample, and a later
report replaces the deadline, also where the sample or the deadline was still wanted. The steps
that do so are named by `Undisturbed`; in a run without them all promises hold.
-/
namespace Decodex.Guarantees.QuotaActivations

open Decodex.Library
open Decodex.Source.Core Decodex.Source.Store Decodex.Source.Store.QuotaActivation
open Decodex.Guarantees.Samples

/-- A report, what the claim returned, and the row it left. -/
structure Observation where
  reportedReset : Int
  canSend : Bool
  now : Int
  claimed : Bool
  stored : ActivationRow

/-- A committed call; a finish carries the row it changed, if it changed one. -/
inductive ActivationEvent where
  | observed (observation : Observation)
  | finished (attemptedAt : Int) (completed : Bool) (changed : Option ActivationRow)

/-- The store beside the latest clock reading. -/
structure Clocked where
  clock : Int
  store : ActivationStore

def Clocked.row (world : Clocked) (accountId : AccountId) : Option ActivationRow :=
  world.store.activations accountId

/-- One call for an enabled account at its current revision. -/
def ActivationStep (accountId : AccountId) (world : Clocked) (event : ActivationEvent)
    (after : Clocked) : Prop :=
  match event with
  | .observed o => ∃ revision weekly,
      claimEnabled world.store accountId revision = true ∧
        weekly.resetsAtUnixMicros = o.reportedReset ∧
        claimQuotaActivation accountId revision weekly o.canSend o.now world.store =
          .ok (o.claimed, after.store) ∧
        after.row accountId = some o.stored ∧ world.clock ≤ o.now ∧ after.clock = o.now
  | .finished attemptedAt completed changed =>
      finishQuotaActivation accountId attemptedAt completed world.store = .ok after.store ∧
        changed = (world.row accountId).bind (fun row =>
          if row.Attempting attemptedAt then after.row accountId else none) ∧
        after.clock = world.clock

def Observation.Full (o : Observation) : Prop := fullWindowAhead o.reportedReset o.now = true

/-- The claim was for a window whose reported reset is the stored one and has passed. -/
def Observation.Expired (o : Observation) : Prop :=
  o.reportedReset = o.stored.observedResetAtMicros ∧ o.stored.observedResetAtMicros ≤ o.now

/-- A later reset that is not a full window ahead: a countdown that has started. -/
def CountsDown (reset : Int) (event : ActivationEvent) : Prop :=
  ∃ o, event = .observed o ∧ reset < o.reportedReset ∧ ¬ o.Full

def FinishesClaim (attemptedAt : Int) (event : ActivationEvent) : Prop :=
  ∃ row, event = .finished attemptedAt false (some row)

/-- What is promised of an observation, after the events before it. -/
structure Promised (before : List ActivationEvent) (o : Observation) : Prop where
  /-- A claim needs an expired window, or two full ones 30 s apart with a later reset. -/
  trigger : o.claimed = true → o.canSend = true ∧ (o.Expired ∨ ∃ e, .observed e ∈ before ∧
    e.Full ∧ o.Full ∧ e.now + countdownSampleMicros ≤ o.now ∧ e.reportedReset < o.reportedReset)
  /-- A claim that is not rejected stays the only one until a countdown starts. -/
  once : o.claimed = true → ∀ earlier a later, before = earlier ++ .observed a :: later →
    a.claimed = true → (∀ event ∈ later, ¬ FinishesClaim a.now event) →
      a.Expired ∨ ∃ event ∈ later ++ [.observed o], CountsDown a.stored.observedResetAtMicros event
  /-- A rejected claim is not repeated within 900 s, unless a countdown starts. -/
  backoff : o.claimed = true → ∀ earlier a row later,
    before = earlier ++ .finished a.now false (some row) :: later →
    .observed a ∈ earlier → a.claimed = true → o.now < a.now + rejectionBackoffMicros →
      ∃ event ∈ later ++ [.observed o], CountsDown row.observedResetAtMicros event
  /-- While the window stays unstarted neither its reset nor its deadline changes. -/
  unstarted : o.Full → ∀ earlier e later, before = earlier ++ .observed e :: later →
    e.Full → (∀ other, .observed other ∈ later → other.Full) →
      o.stored.observedResetAtMicros = e.stored.observedResetAtMicros ∧
      (o.claimed = false → (∀ other, .observed other ∈ later → other.claimed = false) →
        (∀ attemptedAt, ∀ event ∈ later, ¬ FinishesClaim attemptedAt event) →
          o.stored.nextDueAtMicros = e.stored.nextDueAtMicros)

/-- Every observation of a run keeps what is promised. -/
def KeepsPromises (events : List ActivationEvent) : Prop :=
  ∀ before o after, events = before ++ .observed o :: after → Promised before o

/-- A deadline other than the reset itself: a reservation, or a rejection's backoff. -/
def Reserved (row : ActivationRow) : Prop :=
  row.nextDueAtMicros ≠ row.observedResetAtMicros ∧ row.outcome ≠ .rejected

def BackingOff (row : ActivationRow) : Prop :=
  row.nextDueAtMicros ≠ row.observedResetAtMicros ∧ row.outcome = .rejected

/-- The report disturbs nothing that later claims depend on. -/
structure UndisturbedReport (row : ActivationRow) (o : Observation) : Prop where
  /-- A report that is not later shows no full window, and its time makes no sample full. -/
  noFalseSample : Breaks row o.reportedReset o.now → o.reportedReset ≤ row.observedResetAtMicros →
    ¬ o.Full ∧ (fullWindowAhead row.observedResetAtMicros o.now = true → row.Anchored)
  /-- Nor does its time take the sample from a reservation. -/
  sampleKept : Breaks row o.reportedReset o.now → o.reportedReset ≤ row.observedResetAtMicros →
    Reserved row → row.Anchored → fullWindowAhead row.observedResetAtMicros o.now = true
  /-- A new unstarted window does not replace a running backoff. -/
  backoffKept : Breaks row o.reportedReset o.now → row.observedResetAtMicros < o.reportedReset → o.Full →
    BackingOff row → row.nextDueAtMicros ≤ o.now
  /-- The clock does not reach the deadline that means reserved. -/
  beforeEnd : row.nextDueAtMicros = i64Max → o.now < i64Max

/-- The step disturbs nothing that later claims depend on. -/
def Undisturbed (prior : Option ActivationRow) (event : ActivationEvent) : Prop :=
  match event with
  | .observed o => ∀ row, prior = some row → UndisturbedReport row o
  | .finished attemptedAt completed _ => completed = false → ∀ row, prior = some row →
      row.Attempting attemptedAt →
        -- A backoff that ends at the reset itself cannot be told from no deadline.
        QuotaActivation.saturate (attemptedAt + rejectionBackoffMicros) ≠ row.observedResetAtMicros

def UndisturbedStep (accountId : AccountId) (world : Clocked) (event : ActivationEvent)
    (after : Clocked) : Prop :=
  ActivationStep accountId world event after ∧ Undisturbed (world.row accountId) event

/-- What a report leaves, by the way it is read. -/
structure Left (prior : Option ActivationRow) (o : Observation) (due observedAt : Int) : Prop where
  read : Observes prior o.reportedReset o.now o.stored.observedResetAtMicros due observedAt
  sampled : o.stored.observedAtMicros = some observedAt
  deadline : o.stored.nextDueAtMicros = if o.claimed then i64Max else due
  claim : o.claimed = true → o.canSend = true ∧
    (o.Expired ∨ floating prior o.reportedReset o.now = true) ∧
    (due ≤ o.now ∨ floating prior o.reportedReset o.now = true ∧
      due = o.stored.observedResetAtMicros) ∧
    o.stored.attemptedAtMicros = some o.now ∧ o.stored.outcome = .unknown
  unclaimed : o.claimed = false → ∀ row, prior = some row →
    o.stored.attemptedAtMicros = row.attemptedAtMicros ∧ o.stored.outcome = row.outcome

theorem activationRow_left {prior : Option ActivationRow} {o : Observation}
    (result : activationRow prior o.reportedReset o.canSend o.now = (o.claimed, o.stored)) :
    ∃ due observedAt, Left prior o due observedAt := by
  obtain ⟨reset, due, observedAt, seen⟩ : ∃ reset due observedAt,
      observe prior o.reportedReset o.now = (reset, due, observedAt) := ⟨_, _, _, rfl⟩
  have observed := observe_observes seen
  unfold activationRow at result
  rw [seen] at result
  dsimp only at result
  obtain ⟨claimed, stored⟩ := Prod.mk.inj result
  have same : o.stored.observedResetAtMicros = reset := by rw [← stored]
  refine ⟨due, observedAt, ?_, ?_, ?_, ?_, ?_⟩
  · rwa [same]
  · rw [← stored]
  · rw [← stored, ← claimed]
  · intro succeeded
    rw [succeeded] at claimed
    rw [claimed] at stored
    simp only [Bool.and_eq_true, Bool.or_eq_true, decide_eq_true_eq, beq_iff_eq] at claimed
    unfold Observation.Expired
    rw [same]
    refine ⟨claimed.1.1, claimed.1.2, claimed.2, ?_, ?_⟩ <;> rw [← stored] <;> rfl
  · intro failed row known
    rw [failed] at claimed
    rw [claimed] at stored
    subst known
    constructor <;> rw [← stored] <;> rfl

/-- The ways a step moves the row of the account. -/
theorem step_cases {accountId : AccountId} {world after : Clocked} {event : ActivationEvent}
    (step : ActivationStep accountId world event after) :
    (∃ o due observedAt, event = .observed o ∧ 0 < o.now ∧ o.reportedReset ≤ i64Max ∧
      world.clock ≤ o.now ∧ after.clock = o.now ∧ after.row accountId = some o.stored ∧
      Left (world.row accountId) o due observedAt) ∨
    (∃ attemptedAt completed row,
      event = .finished attemptedAt completed (some (row.finish attemptedAt completed)) ∧
      world.row accountId = some row ∧ row.Attempting attemptedAt ∧
      after.row accountId = some (row.finish attemptedAt completed) ∧
      after.clock = world.clock) ∨
    (∃ attemptedAt completed, event = .finished attemptedAt completed none ∧
      after.row accountId = world.row accountId ∧ after.clock = world.clock) := by
  cases event with
  | observed o =>
    obtain ⟨revision, weekly, enabled, reported, call, left, clock, reading⟩ := step
    refine .inl ?_
    unfold claimQuotaActivation at call
    by_cases invalid : o.now ≤ 0 ∨ weekly.durationMinutes ≠ sevenDaysMinutes
    · rw [if_pos invalid] at call
      cases call
    rw [if_neg invalid, if_pos enabled, reported] at call
    obtain ⟨written, wrote, done⟩ := bind_ok call
    obtain ⟨claimed, rfl⟩ := Prod.mk.inj (Except.ok.inj done)
    unfold writeRow at wrote
    split at wrote
    · have result := Except.ok.inj wrote
      have row : (activationRow (world.row accountId) o.reportedReset o.canSend o.now).2 =
          o.stored := by
        rw [← Option.some.injEq, ← left, Clocked.row, Clocked.row, ← result, ActivationStore.write]
        exact (if_pos rfl).symm
      obtain ⟨due, observedAt, what⟩ := activationRow_left (Prod.ext claimed row)
      refine ⟨o, due, observedAt, rfl, by omega, ?_, clock, reading, left, what⟩
      rw [← reported]
      exact weekly.resetInRange.2
    · cases wrote
  | finished attemptedAt completed changed =>
    obtain ⟨call, label, clock⟩ := step
    refine .inr ?_
    unfold finishQuotaActivation at call
    rw [← Clocked.row] at call
    cases known : world.row accountId with
    | none =>
      rw [known] at call label
      refine .inr ⟨attemptedAt, completed, by rw [label]; rfl, ?_, clock⟩
      rw [← known, Clocked.row, Clocked.row, Except.ok.inj call]
    | some row =>
      rw [known] at call label
      dsimp only at call
      split at call
      · rename_i matched
        unfold writeRow at call
        split at call
        · have left : after.row accountId = some (row.finish attemptedAt completed) := by
            rw [Clocked.row, ← Except.ok.inj call]
            simp [ActivationStore.write]
          refine .inl ⟨attemptedAt, completed, row, ?_, rfl, matched, left, clock⟩
          rw [label, Option.bind_some, if_pos matched, left]
        · cases call
      · rename_i unmatched
        refine .inr ⟨attemptedAt, completed, ?_, ?_, clock⟩
        · rw [label, Option.bind_some, if_neg unmatched]
        · rw [← known, Clocked.row, Clocked.row, Except.ok.inj call]

section Report

variable {prior : Option ActivationRow} {row : ActivationRow} {o : Observation}
  {due observedAt : Int}

theorem stored_anchored (left : Left prior o due observedAt) : o.stored.Anchored ↔
    fullWindowAhead o.stored.observedResetAtMicros observedAt = true :=
  anchored_iff_of_sampled left.sampled

/-- Only an unstarted window floats. -/
theorem floating_unstarted (left : Left prior o due observedAt)
    (floats : floating prior o.reportedReset o.now = true) :
    o.Full ∧ o.stored.Anchored ∧ o.stored.observedResetAtMicros < o.reportedReset ∧
      observedAt + countdownSampleMicros ≤ o.now := by
  obtain ⟨full, row, sampledAt, stored, sample, held, aged, later⟩ := floating_iff.mp floats
  have anchored := (anchored_iff_of_sampled sample).mpr held
  rw [stored_anchored left]
  cases left.read with
  | first fresh =>
    rw [stored] at fresh
    cases fresh
  | unstarted known stored' sampled _ _ kept _ =>
    cases stored.symm.trans stored'
    cases sample.symm.trans sampled
    rw [kept]
    exact ⟨full, held, later, aged⟩
  | sampled known stored' unsampled =>
    cases stored.symm.trans stored'
    rw [sample] at unsampled
    cases unsampled
  | stale known stored' breaks =>
    cases stored.symm.trans stored'
    exact absurd ⟨full, .inl anchored⟩ breaks
  | replaced known stored' breaks =>
    cases stored.symm.trans stored'
    exact absurd ⟨full, .inl anchored⟩ breaks

/-- A report that continues an unstarted window keeps its reset and, unclaimed, its deadline. -/
theorem anchored_continues (left : Left (some row) o due observedAt) (anchored : row.Anchored)
    (full : o.Full) : o.stored.Anchored ∧
      o.stored.observedResetAtMicros = row.observedResetAtMicros ∧ due = row.nextDueAtMicros := by
  rw [stored_anchored left]
  cases left.read with
  | first fresh => cases fresh
  | unstarted known stored sampled _ held kept dueKept =>
    cases stored
    rw [kept]
    exact ⟨(anchored_iff_of_sampled sampled).mp held, rfl, dueKept⟩
  | sampled known stored unsampled =>
    cases stored
    obtain ⟨sampledAt, sample, _⟩ := anchored
    rw [sample] at unsampled
    cases unsampled
  | stale known stored breaks =>
    cases stored
    exact absurd ⟨full, .inl anchored⟩ breaks
  | replaced known stored breaks =>
    cases stored
    exact absurd ⟨full, .inl anchored⟩ breaks

/-- While a deadline other than the reset lies ahead, a report that leaves it leaves the whole
row but for the time of its sample. -/
theorem pending_waits (left : Left (some row) o due observedAt)
    (sampled : row.observedAtMicros ≠ none)
    (pending : row.nextDueAtMicros ≠ row.observedResetAtMicros)
    (ahead : o.now < row.nextDueAtMicros) :
    (o.claimed = false ∧ o.stored.observedResetAtMicros = row.observedResetAtMicros ∧
      o.stored.nextDueAtMicros = row.nextDueAtMicros ∧
      o.stored.attemptedAtMicros = row.attemptedAtMicros ∧ o.stored.outcome = row.outcome ∧
      (o.stored.observedAtMicros = row.observedAtMicros ∨
        Breaks row o.reportedReset o.now ∧ o.reportedReset ≤ row.observedResetAtMicros ∧
          o.stored.observedAtMicros = some o.now)) ∨
    (Breaks row o.reportedReset o.now ∧ row.observedResetAtMicros < o.reportedReset) := by
  have waits : o.stored.observedResetAtMicros = row.observedResetAtMicros →
      due = row.nextDueAtMicros → o.claimed = false ∧
        o.stored.nextDueAtMicros = row.nextDueAtMicros ∧
        o.stored.attemptedAtMicros = row.attemptedAtMicros ∧ o.stored.outcome = row.outcome := by
    intro kept dueKept
    have unclaimed : o.claimed = false := by
      by_contra claimed
      rw [Bool.not_eq_false] at claimed
      obtain ⟨_, _, ready, _⟩ := left.claim claimed
      rcases ready with passed | ⟨_, same⟩
      · omega
      · exact pending (by rw [← dueKept, same, kept])
    have deadline := left.deadline
    rw [unclaimed, dueKept] at deadline
    exact ⟨unclaimed, deadline, left.unclaimed unclaimed row rfl⟩
  cases left.read with
  | first fresh => cases fresh
  | unstarted known stored sample _ _ kept dueKept =>
    cases stored
    obtain ⟨unclaimed, deadline, attempted, outcome⟩ := waits kept dueKept
    exact .inl ⟨unclaimed, kept, deadline, attempted, outcome, .inl (left.sampled.trans sample.symm)⟩
  | sampled known stored unsampled =>
    cases stored
    exact absurd unsampled sampled
  | stale known stored breaks notLater kept dueKept taken =>
    cases stored
    obtain ⟨unclaimed, deadline, attempted, outcome⟩ := waits kept dueKept
    exact .inl ⟨unclaimed, kept, deadline, attempted, outcome,
      .inr ⟨breaks, notLater, by rw [left.sampled, taken]⟩⟩
  | replaced known stored breaks later =>
    cases stored
    exact .inr ⟨breaks, later⟩

end Report

/-- A finish changes neither the reset nor its sample. -/
theorem finish_sample (row : ActivationRow) (attemptedAt : Int) (completed : Bool) :
    (row.finish attemptedAt completed).observedResetAtMicros = row.observedResetAtMicros ∧
      (row.finish attemptedAt completed).observedAtMicros = row.observedAtMicros ∧
      ((row.finish attemptedAt completed).Anchored ↔ row.Anchored) :=
  ⟨rfl, rfl, Iff.rfl⟩

/-- The clock has passed every observation, the sample was taken at one of them, and a full
sample was reported as such. -/
structure Known (accountId : AccountId) (past : List ActivationEvent) (world : Clocked) :
    Prop where
  passed : ∀ o, .observed o ∈ past → o.now ≤ world.clock
  sampled : ∀ o, .observed o ∈ past → ∃ row, world.row accountId = some row ∧
    row.observedAtMicros ≠ none
  sampledBefore : ∀ row, world.row accountId = some row → ∀ sampledAt,
    row.observedAtMicros = some sampledAt → sampledAt ≤ world.clock
  reported : ∀ row, world.row accountId = some row → ∀ sampledAt,
    row.observedAtMicros = some sampledAt →
      fullWindowAhead row.observedResetAtMicros sampledAt = true →
        ∃ e, .observed e ∈ past ∧ e.Full ∧ e.reportedReset = row.observedResetAtMicros ∧
          e.now ≤ sampledAt

/-- No row, or one that was stored before samples were taken. -/
def Unsampled (accountId : AccountId) (world : Clocked) : Prop :=
  ∀ row, world.row accountId = some row → row.observedAtMicros = none

theorem known_nil {accountId : AccountId} {world : Clocked}
    (unsampled : Unsampled accountId world) : Known accountId [] world where
  passed := fun _ member => absurd member List.not_mem_nil
  sampled := fun _ member => absurd member List.not_mem_nil
  sampledBefore := fun row known _ sampled => by
    rw [unsampled row known] at sampled
    cases sampled
  reported := fun row known _ sampled => by
    rw [unsampled row known] at sampled
    cases sampled

theorem known_step {accountId : AccountId} {past : List ActivationEvent} {world after : Clocked}
    {event : ActivationEvent} (step : UndisturbedStep accountId world event after)
    (known : Known accountId past world) : Known accountId (past ++ [event]) after := by
  obtain ⟨step, undisturbed⟩ := step
  rcases step_cases step with ⟨o, due, observedAt, rfl, _, _, clock, reading, row, left⟩ |
      ⟨attemptedAt, completed, before, rfl, stored, _, row, reading⟩ |
      ⟨attemptedAt, completed, rfl, row, reading⟩
  · have sampledAtMost : observedAt ≤ o.now := by
      cases left.read with
      | first _ _ _ taken => exact Int.le_of_eq taken
      | unstarted prior stored sampled _ _ _ _ =>
        exact Int.le_trans (known.sampledBefore prior stored _ sampled) clock
      | sampled _ _ _ _ _ taken => exact Int.le_of_eq taken
      | stale _ _ _ _ _ _ taken => exact Int.le_of_eq taken
      | replaced _ _ _ _ _ _ taken => exact Int.le_of_eq taken
    refine ⟨fun e member => ?_, fun _ _ => ⟨_, row, by rw [left.sampled]; nofun⟩, ?_, ?_⟩
    · rw [reading]
      rcases List.mem_append.mp member with earlier | own
      · exact Int.le_trans (known.passed e earlier) clock
      · cases List.mem_singleton.mp own
        exact Int.le_refl _
    · intro stored held sampledAt sampled
      cases row.symm.trans held
      cases left.sampled.symm.trans sampled
      rwa [reading]
    · intro stored held sampledAt sampled full
      cases row.symm.trans held
      cases left.sampled.symm.trans sampled
      -- Either this report is the sample, or the sample was there before.
      have own : o.stored.observedResetAtMicros = o.reportedReset → observedAt = o.now →
          ∃ e, .observed e ∈ past ++ [.observed o] ∧ e.Full ∧
            e.reportedReset = o.stored.observedResetAtMicros ∧ e.now ≤ observedAt := by
        intro same taken
        refine ⟨o, by simp, ?_, same.symm, Int.le_of_eq taken.symm⟩
        rw [Observation.Full, ← same, ← taken]
        exact full
      have earlier : ∀ prior priorAt, world.row accountId = some prior →
          prior.observedAtMicros = some priorAt → priorAt ≤ observedAt →
          fullWindowAhead prior.observedResetAtMicros priorAt = true →
          o.stored.observedResetAtMicros = prior.observedResetAtMicros →
          ∃ e, .observed e ∈ past ++ [.observed o] ∧ e.Full ∧
            e.reportedReset = o.stored.observedResetAtMicros ∧ e.now ≤ observedAt := by
        intro prior priorAt stored taken before held same
        obtain ⟨e, member, shown, reset, atMost⟩ := known.reported prior stored priorAt taken held
        exact ⟨e, List.mem_append_left _ member, shown, reset.trans same.symm, by omega⟩
      cases left.read with
      | first _ same _ taken => exact own same taken
      | unstarted prior stored taken _ anchored kept _ =>
        exact earlier prior _ stored taken (Int.le_refl _)
          ((anchored_iff_of_sampled taken).mp anchored) kept
      | sampled _ _ _ _ same taken => exact own same taken
      | stale prior stored breaks notLater kept _ taken =>
        rw [kept, taken] at full
        obtain ⟨priorAt, sample, held⟩ :=
          ((undisturbed prior stored).noFalseSample breaks notLater).2 full
        have := known.sampledBefore prior stored priorAt sample
        exact earlier prior priorAt stored sample (by omega) held kept
      | replaced _ _ _ _ same _ taken => exact own same taken
  · have kept := finish_sample before attemptedAt completed
    refine ⟨fun e member => ?_, fun e member => ?_, ?_, ?_⟩
    · rw [reading]
      exact known.passed e (by simpa using member)
    · obtain ⟨prior, held, some⟩ := known.sampled e (by simpa using member)
      cases stored.symm.trans held
      exact ⟨_, row, by rwa [kept.2.1]⟩
    · intro left held sampledAt sampled
      cases row.symm.trans held
      rw [reading]
      exact known.sampledBefore before stored sampledAt (by rwa [kept.2.1] at sampled)
    · intro left held sampledAt sampled full
      cases row.symm.trans held
      rw [kept.1] at full ⊢
      obtain ⟨e, member, rest⟩ := known.reported before stored sampledAt
        (by rwa [kept.2.1] at sampled) full
      exact ⟨e, List.mem_append_left _ member, rest⟩
  · refine ⟨fun e member => ?_, fun e member => ?_, ?_, ?_⟩
    · rw [reading]
      exact known.passed e (by simpa using member)
    · rw [row]
      exact known.sampled e (by simpa using member)
    · rw [row, reading]
      exact known.sampledBefore
    · rw [row]
      intro prior held sampledAt sampled full
      obtain ⟨e, member, rest⟩ := known.reported prior held sampledAt sampled full
      exact ⟨e, List.mem_append_left _ member, rest⟩

/-- The reservation of a floating claim. -/
structure ReservedBy (a : Observation) (row : ActivationRow) : Prop where
  reset : row.observedResetAtMicros = a.stored.observedResetAtMicros
  below : row.observedResetAtMicros < i64Max
  deadline : row.nextDueAtMicros = i64Max
  attempted : row.attemptedAtMicros = some a.now
  outcome : row.outcome ≠ .rejected
  anchored : row.Anchored

/-- Since a claim: unless its window had expired, it is reserved until a countdown starts. -/
def ReservedSince (accountId : AccountId) (_before : List ActivationEvent)
    (start : ActivationEvent) (later : List ActivationEvent) (world : Clocked) : Prop :=
  ∀ a, start = .observed a → a.claimed = true → (∀ event ∈ later, ¬ FinishesClaim a.now event) →
    a.Expired ∨ (∃ event ∈ later, CountsDown a.stored.observedResetAtMicros event) ∨
      ∃ row, world.row accountId = some row ∧ ReservedBy a row

/-- What one more report does to a reservation. -/
theorem reservedBy_report {a o : Observation} {row : ActivationRow} {due observedAt : Int}
    (reserved : ReservedBy a row) (left : Left (some row) o due observedAt)
    (undisturbed : UndisturbedReport row o) :
    (o.claimed = false ∧ ReservedBy a o.stored) ∨
      CountsDown a.stored.observedResetAtMicros (.observed o) := by
  have pending : row.nextDueAtMicros ≠ row.observedResetAtMicros := by
    have := reserved.below
    rw [reserved.deadline]
    omega
  have ahead : o.now < row.nextDueAtMicros := by
    rw [reserved.deadline]
    exact undisturbed.beforeEnd reserved.deadline
  obtain ⟨sampledAt, sample, held⟩ := reserved.anchored
  rcases pending_waits left (by rw [sample]; nofun) pending ahead with
      ⟨unclaimed, kept, deadline, attempted, outcome, sampled⟩ | ⟨breaks, later⟩
  · refine .inl ⟨unclaimed, kept.trans reserved.reset, ?_, deadline.trans reserved.deadline,
      attempted.trans reserved.attempted, by rw [outcome]; exact reserved.outcome, ?_⟩
    · rw [kept]
      exact reserved.below
    · rcases sampled with same | ⟨breaks, notLater, taken⟩
      · exact ⟨sampledAt, same.trans sample, by rwa [kept]⟩
      · refine ⟨o.now, taken, ?_⟩
        rw [kept]
        exact undisturbed.sampleKept breaks notLater ⟨pending, reserved.outcome⟩ reserved.anchored
  · refine .inr ⟨o, rfl, ?_, fun full => breaks ⟨full, .inl reserved.anchored⟩⟩
    rwa [← reserved.reset]

theorem reservedSince {accountId : AccountId} {events : List ActivationEvent}
    {world after : Clocked} (run : Run (UndisturbedStep accountId) world events after)
    (unsampled : Unsampled accountId world) :
    ∀ before start later, events = before ++ start :: later →
      ReservedSince accountId before start later after := by
  refine run.since (Known accountId) (ReservedSince accountId)
    (fun _ _ _ _ => known_step) ?_ ?_ (known_nil unsampled)
  · rintro before s event t ⟨step, _⟩ _ a rfl claimed _
    rcases step_cases step with ⟨o, due, observedAt, same, _, bounded, _, _, row, left⟩ |
        ⟨_, _, _, same, _⟩ | ⟨_, _, same, _⟩
    · cases same
      obtain ⟨_, trigger, _, attempted, outcome⟩ := left.claim claimed
      rcases trigger with expired | floats
      · exact .inl expired
      · obtain ⟨_, anchored, below, _⟩ := floating_unstarted left floats
        have deadline := left.deadline
        rw [claimed] at deadline
        exact .inr (.inr ⟨_, row, rfl, by omega, deadline, attempted, by rw [outcome]; nofun,
          anchored⟩)
    · cases same
    · cases same
  · rintro before start later s event t ⟨step, undisturbed⟩ _ held a rfl claimed unfinished
    have mono : ∀ reset, (∃ event ∈ later, CountsDown reset event) →
        ∃ e ∈ later ++ [event], CountsDown reset e := by
      rintro reset ⟨e, member, counts⟩
      exact ⟨e, List.mem_append_left _ member, counts⟩
    rcases held a rfl claimed fun e member => unfinished e (List.mem_append_left _ member) with
      expired | counted | ⟨row, stored, reserved⟩
    · exact .inl expired
    · exact .inr (.inl (mono _ counted))
    · rcases step_cases step with ⟨o, due, observedAt, rfl, _, _, _, _, left', left⟩ |
          ⟨attemptedAt, completed, prior, rfl, known, matched, left', _⟩ |
          ⟨attemptedAt, completed, rfl, left', _⟩
      · rw [stored] at left
        rcases reservedBy_report reserved left (undisturbed row stored) with ⟨_, kept⟩ | counts
        · exact .inr (.inr ⟨_, left', kept⟩)
        · exact .inr (.inl ⟨_, by simp, counts⟩)
      · cases stored.symm.trans known
        cases completed with
        | true =>
          exact .inr (.inr ⟨_, left', reserved.reset, reserved.below, reserved.deadline,
            reserved.attempted, nofun, reserved.anchored⟩)
        | false =>
          have same : a.now = attemptedAt :=
            Option.some.inj (reserved.attempted.symm.trans matched.1)
          exact absurd ⟨_, by rw [same]⟩
            (unfinished _ (List.mem_append_right _ (List.mem_singleton_self _)))
      · exact .inr (.inr ⟨row, by rw [left', stored], reserved⟩)

structure BackingOffFrom (attemptedAt reset : Int) (row : ActivationRow) : Prop where
  reset : row.observedResetAtMicros = reset
  deadline : row.nextDueAtMicros = QuotaActivation.saturate (attemptedAt + rejectionBackoffMicros)
  pending : row.nextDueAtMicros ≠ row.observedResetAtMicros
  outcome : row.outcome = .rejected
  sampled : row.observedAtMicros ≠ none

/-- Since a claim of the run was rejected: the backoff runs until its end or a countdown. -/
def BackingOffSince (accountId : AccountId) (before : List ActivationEvent)
    (start : ActivationEvent) (later : List ActivationEvent) (world : Clocked) : Prop :=
  ∀ attemptedAt row, start = .finished attemptedAt false (some row) →
    (∃ a, .observed a ∈ before) →
      (∃ event ∈ later, CountsDown row.observedResetAtMicros event) ∨
      (∃ o, .observed o ∈ later ∧ attemptedAt + rejectionBackoffMicros ≤ o.now) ∨
      ∃ current, world.row accountId = some current ∧
        BackingOffFrom attemptedAt row.observedResetAtMicros current

/-- What one more report does to a backoff that has not ended. -/
theorem backingOffFrom_report {o : Observation} {row : ActivationRow}
    {attemptedAt reset due observedAt : Int} (backing : BackingOffFrom attemptedAt reset row)
    (left : Left (some row) o due observedAt) (undisturbed : UndisturbedReport row o)
    (early : o.now < attemptedAt + rejectionBackoffMicros) :
    (o.claimed = false ∧ BackingOffFrom attemptedAt reset o.stored) ∨
      CountsDown reset (.observed o) := by
  have ahead : o.now < row.nextDueAtMicros := by
    have := undisturbed.beforeEnd
    have deadline := backing.deadline
    unfold QuotaActivation.saturate i64Min i64Max at deadline
    unfold i64Max at this
    omega
  rcases pending_waits left backing.sampled backing.pending ahead with
      ⟨unclaimed, kept, deadline, _, outcome, _⟩ | ⟨breaks, later⟩
  · refine .inl ⟨unclaimed, kept.trans backing.reset, deadline.trans backing.deadline, ?_,
      outcome.trans backing.outcome, by rw [left.sampled]; nofun⟩
    rw [kept, deadline]
    exact backing.pending
  · refine .inr ⟨o, rfl, by rwa [← backing.reset], fun full => ?_⟩
    have ended := undisturbed.backoffKept breaks later full ⟨backing.pending, backing.outcome⟩
    omega

theorem backingOffSince {accountId : AccountId} {events : List ActivationEvent}
    {world after : Clocked} (run : Run (UndisturbedStep accountId) world events after)
    (unsampled : Unsampled accountId world) :
    ∀ before start later, events = before ++ start :: later →
      BackingOffSince accountId before start later after := by
  refine run.since (Known accountId) (BackingOffSince accountId)
    (fun _ _ _ _ => known_step) ?_ ?_ (known_nil unsampled)
  · rintro before s event t ⟨step, undisturbed⟩ known attemptedAt row rfl ⟨a, member⟩
    rcases step_cases step with ⟨_, _, _, same, _⟩ |
        ⟨_, _, prior, same, stored, matched, left, _⟩ | ⟨_, _, same, _⟩
    · cases same
    · cases same
      obtain ⟨held, known', sampled⟩ := known.sampled a member
      cases stored.symm.trans known'
      exact .inr (.inr ⟨_, left, rfl, rfl, undisturbed rfl prior stored matched, rfl, sampled⟩)
    · cases same
  · rintro before start later s event t ⟨step, undisturbed⟩ _ held attemptedAt row rfl claim
    rcases held attemptedAt row rfl claim with ⟨e, member, counts⟩ | ⟨o, member, ended⟩ |
        ⟨current, stored, backing⟩
    · exact .inl ⟨e, List.mem_append_left _ member, counts⟩
    · exact .inr (.inl ⟨o, List.mem_append_left _ member, ended⟩)
    · rcases step_cases step with ⟨o, due, observedAt, rfl, _, _, _, _, left', left⟩ |
          ⟨_, _, prior, rfl, known, matched, _⟩ | ⟨_, _, rfl, left', _⟩
      · rw [stored] at left
        by_cases early : o.now < attemptedAt + rejectionBackoffMicros
        · rcases backingOffFrom_report backing left (undisturbed current stored) early with
            ⟨_, kept⟩ | counts
          · exact .inr (.inr ⟨_, left', kept⟩)
          · exact .inl ⟨_, by simp, counts⟩
        · exact .inr (.inl ⟨o, by simp, by omega⟩)
      · cases stored.symm.trans known
        have unknown := matched.2
        rw [backing.outcome] at unknown
        cases unknown
      · exact .inr (.inr ⟨current, by rw [left', stored], backing⟩)

/-- Since a full window was reported, and none but full ones after it: the row is anchored at
the reset that report left, and only claims and rejections have moved its deadline. -/
def UnstartedSince (accountId : AccountId) (_before : List ActivationEvent)
    (start : ActivationEvent) (later : List ActivationEvent) (world : Clocked) : Prop :=
  ∀ e, start = .observed e → e.Full → (∀ other, .observed other ∈ later → other.Full) →
    ∃ row, world.row accountId = some row ∧ row.Anchored ∧
      row.observedResetAtMicros = e.stored.observedResetAtMicros ∧
      ((∀ other, .observed other ∈ later → other.claimed = false) →
        (∀ attemptedAt, ∀ event ∈ later, ¬ FinishesClaim attemptedAt event) →
          row.nextDueAtMicros = e.stored.nextDueAtMicros)

/-- A report of a full window leaves it anchored. -/
theorem full_anchors {prior : Option ActivationRow} {o : Observation} {due observedAt : Int}
    (left : Left prior o due observedAt) (undisturbed : Undisturbed prior (.observed o))
    (full : o.Full) : o.stored.Anchored := by
  rw [stored_anchored left]
  cases left.read with
  | first _ own _ taken => rwa [own, taken]
  | unstarted known stored sample _ anchored kept _ =>
    rw [kept]
    exact (anchored_iff_of_sampled sample).mp anchored
  | sampled _ _ _ _ own taken => rwa [own, taken]
  | stale known stored breaks notLater =>
    exact absurd full ((undisturbed known stored).noFalseSample breaks notLater).1
  | replaced _ _ _ _ own _ taken => rwa [own, taken]

theorem unstartedSince {accountId : AccountId} {events : List ActivationEvent}
    {world after : Clocked} (run : Run (UndisturbedStep accountId) world events after)
    (unsampled : Unsampled accountId world) :
    ∀ before start later, events = before ++ start :: later →
      UnstartedSince accountId before start later after := by
  refine run.since (Known accountId) (UnstartedSince accountId)
    (fun _ _ _ _ => known_step) ?_ ?_ (known_nil unsampled)
  · rintro before s event t ⟨step, undisturbed⟩ _ e rfl full _
    rcases step_cases step with ⟨o, due, observedAt, same, _, _, _, _, row, left⟩ |
        ⟨_, _, _, same, _⟩ | ⟨_, _, same, _⟩
    · cases same
      exact ⟨_, row, full_anchors left undisturbed full, rfl, fun _ _ => rfl⟩
    · cases same
    · cases same
  · rintro before start later s event t ⟨step, _⟩ _ held e rfl full all
    obtain ⟨row, stored, anchored, reset, deadline⟩ :=
      held e rfl full fun other member => all other (List.mem_append_left _ member)
    have earlier : (∀ other, .observed other ∈ later ++ [event] → other.claimed = false) →
        (∀ attemptedAt, ∀ e ∈ later ++ [event], ¬ FinishesClaim attemptedAt e) →
          row.nextDueAtMicros = e.stored.nextDueAtMicros := fun unclaimed unfinished =>
      deadline (fun other member => unclaimed other (List.mem_append_left _ member))
        fun attemptedAt e member => unfinished attemptedAt e (List.mem_append_left _ member)
    rcases step_cases step with ⟨o, due, observedAt, rfl, _, _, _, _, left', left⟩ |
        ⟨attemptedAt, completed, prior, rfl, known, matched, left', _⟩ | ⟨_, _, rfl, left', _⟩
    · rw [stored] at left
      obtain ⟨kept, same, dueKept⟩ := anchored_continues left anchored (all o (by simp))
      refine ⟨_, left', kept, same.trans reset, fun unclaimed unfinished => ?_⟩
      rw [left.deadline, unclaimed o (by simp), dueKept]
      exact earlier unclaimed unfinished
    · cases stored.symm.trans known
      refine ⟨_, left', anchored, reset, fun unclaimed unfinished => ?_⟩
      cases completed with
      | true => exact earlier unclaimed unfinished
      | false =>
        exact absurd ⟨_, rfl⟩
          (unfinished attemptedAt _ (List.mem_append_right _ (List.mem_singleton_self _)))
    · exact ⟨row, by rw [left', stored], anchored, reset, earlier⟩

theorem promised_of_known {accountId : AccountId} {start world after : Clocked}
    {before : List ActivationEvent} {o : Observation}
    (run : Run (UndisturbedStep accountId) start before world)
    (unsampled : Unsampled accountId start)
    (step : UndisturbedStep accountId world (.observed o) after) : Promised before o := by
  have known := run.history (Known accountId) (fun _ _ _ _ => known_step) (known_nil unsampled)
  obtain ⟨move, undisturbed⟩ := step
  rcases step_cases move with ⟨_, due, observedAt, same, _, _, clock, _, row, left⟩ |
      ⟨_, _, _, same, _⟩ | ⟨_, _, same, _⟩
  · cases same
    refine ⟨fun claimed => ?_, ?_, ?_, ?_⟩
    · obtain ⟨canSend, trigger, _⟩ := left.claim claimed
      refine ⟨canSend, ?_⟩
      rcases trigger with expired | floats
      · exact .inl expired
      · obtain ⟨full, row, sampledAt, stored, sample, held, aged, later⟩ := floating_iff.mp floats
        obtain ⟨e, member, shown, reset, atMost⟩ := known.reported row stored sampledAt sample held
        exact .inr ⟨e, member, shown, full, by omega, by omega⟩
    · intro claimed earlier a later same aClaimed unfinished
      subst same
      rcases reservedSince run unsampled earlier _ later rfl a rfl aClaimed unfinished with
        expired | ⟨event, member, counts⟩ | ⟨row, stored, reserved⟩
      · exact .inl expired
      · exact .inr ⟨event, List.mem_append_left _ member, counts⟩
      · rw [stored] at left
        rcases reservedBy_report reserved left (undisturbed row stored) with
          ⟨unclaimed, _⟩ | counts
        · rw [claimed] at unclaimed
          cases unclaimed
        · exact .inr ⟨_, by simp, counts⟩
    · intro claimed earlier a row later same aMember _ early
      subst same
      rcases backingOffSince run unsampled earlier _ later rfl a.now row rfl ⟨a, aMember⟩ with
        ⟨event, member, counts⟩ | ⟨e, member, ended⟩ | ⟨current, stored, backing⟩
      · exact ⟨event, List.mem_append_left _ member, counts⟩
      · have := known.passed e (List.mem_append_right _ (List.mem_cons_of_mem _ member))
        omega
      · rw [stored] at left
        rcases backingOffFrom_report backing left (undisturbed current stored) early with
          ⟨unclaimed, _⟩ | counts
        · rw [claimed] at unclaimed
          cases unclaimed
        · exact ⟨_, by simp, counts⟩
    · intro full earlier e later same eFull all
      subst same
      obtain ⟨row, stored, anchored, reset, deadline⟩ :=
        unstartedSince run unsampled earlier _ later rfl e rfl eFull all
      rw [stored] at left
      obtain ⟨_, kept, dueKept⟩ := anchored_continues left anchored full
      refine ⟨kept.trans reset, fun unclaimed others unfinished => ?_⟩
      rw [left.deadline, unclaimed, dueKept]
      exact deadline others unfinished
  · cases same
  · cases same

/-- In every run of undisturbed steps, from no row or one without a sample, each observation
keeps what is promised of claims, reservations, backoffs and unstarted windows. -/
theorem activation_keeps_promises {accountId : AccountId} {start after : Clocked}
    {events : List ActivationEvent} (unsampled : Unsampled accountId start)
    (run : Run (UndisturbedStep accountId) start events after) : KeepsPromises events := by
  rintro before o later rfl
  obtain ⟨world, front, back⟩ := run.split before
  cases back with
  | cons step _ => exact promised_of_known front unsampled step

/-- A report whose row passes the checks is a step. -/
theorem report_step {accountId : AccountId} {world : Clocked} (revision : Int)
    (enabled : claimEnabled world.store accountId revision = true) (o : Observation)
    (result : activationRow (world.row accountId) o.reportedReset o.canSend o.now =
      (o.claimed, o.stored))
    (range : i64Min ≤ o.reportedReset ∧ o.reportedReset ≤ i64Max) (positive : 0 < o.now)
    (clock : world.clock ≤ o.now) (check : o.stored.check = true) :
    ActivationStep accountId world (.observed o) ⟨o.now, world.store.write accountId o.stored⟩ := by
  refine ⟨revision, ⟨⟨sevenDaysMinutes, 0, o.reportedReset⟩, range⟩, enabled, rfl, ?_, ?_, clock, rfl⟩
  · unfold claimQuotaActivation writeRow
    rw [if_neg (by simp only [ne_eq, not_true_eq_false, or_false]; omega), if_pos enabled]
    unfold Clocked.row at result
    dsimp only
    rw [result, if_pos check]
    rfl
  · simp [Clocked.row, ActivationStore.write]

/-- An enabled account that was never observed. -/
def sampleStart : Clocked where
  clock := 0
  store := {
    accounts := [⟨sampleAccount, 1, true, none⟩]
    autoActivateQuota := true
    activations := fun _ => none }

def sampleRow (reset due : Int) (attempted : Option Int) (outcome : ActivationOutcome)
    (observedAt : Int) : ActivationRow :=
  ⟨reset, due, attempted, outcome, some observedAt⟩

def firstSample : Observation := ⟨604801000000, true, 1000000, false,
  sampleRow 604801000000 604801000000 none .idle 1000000⟩

def floatingClaim : Observation := ⟨604831000000, true, 31000000, true,
  sampleRow 604801000000 i64Max (some 31000000) .unknown 1000000⟩

/-- The first report again, a minute late. -/
def staleReport : Observation := ⟨604801000000, true, 61000000, false,
  sampleRow 604801000000 i64Max (some 31000000) .unknown 61000000⟩

def secondSample : Observation := ⟨604891000000, true, 91000000, false,
  sampleRow 604891000000 604891000000 (some 31000000) .unknown 91000000⟩

def secondClaim : Observation := ⟨604921000000, true, 121000000, true,
  sampleRow 604891000000 i64Max (some 121000000) .unknown 91000000⟩

def afterReport (world : Clocked) (o : Observation) : Clocked :=
  ⟨o.now, world.store.write sampleAccount o.stored⟩

theorem afterReport_row (world : Clocked) (o : Observation) :
    (afterReport world o).row sampleAccount = some o.stored := by
  simp [afterReport, Clocked.row, ActivationStore.write]

theorem sampleStart_unsampled : Unsampled sampleAccount sampleStart :=
  fun _ known => by cases known

theorem firstSample_step : ActivationStep sampleAccount sampleStart (.observed firstSample)
    (afterReport sampleStart firstSample) :=
  report_step 1 (by decide) firstSample (by decide) (by decide) (by decide) (by decide) (by decide)

/-- One more report behind a report. -/
theorem next_report {world : Clocked} (o next : Observation)
    (enabled : claimEnabled (afterReport world o).store sampleAccount 1 = true)
    (result : activationRow (some o.stored) next.reportedReset next.canSend next.now =
      (next.claimed, next.stored))
    (range : i64Min ≤ next.reportedReset ∧ next.reportedReset ≤ i64Max) (positive : 0 < next.now)
    (clock : o.now ≤ next.now) (check : next.stored.check = true) :
    ActivationStep sampleAccount (afterReport world o) (.observed next)
      (afterReport (afterReport world o) next) := by
  have reading : (afterReport world o).clock ≤ next.now := clock
  refine report_step 1 enabled next ?_ range positive reading check
  rwa [afterReport_row]

theorem floatingClaim_step {world : Clocked}
    (enabled : claimEnabled world.store sampleAccount 1 = true) :
    ActivationStep sampleAccount (afterReport world firstSample) (.observed floatingClaim)
      (afterReport (afterReport world firstSample) floatingClaim) :=
  next_report firstSample floatingClaim enabled (by decide) (by decide) (by decide) (by decide)
    (by decide)

/-- An unstarted window is sampled and then claimed. -/
theorem sample_claim_keeps_promises : ∃ after,
    Run (UndisturbedStep sampleAccount) sampleStart
      [.observed firstSample, .observed floatingClaim] after ∧
    KeepsPromises [.observed firstSample, .observed floatingClaim] := by
  have run : Run (UndisturbedStep sampleAccount) sampleStart
      [.observed firstSample, .observed floatingClaim]
      (afterReport (afterReport sampleStart firstSample) floatingClaim) := by
    refine .cons ⟨firstSample_step, fun _ known => by cases known⟩
      (.single ⟨floatingClaim_step (by decide), ?_⟩)
    rintro row known
    cases (afterReport_row _ _).symm.trans known
    have continues : ¬ Breaks firstSample.stored floatingClaim.reportedReset floatingClaim.now := by
      unfold Breaks
      decide
    exact ⟨fun breaks => absurd breaks continues, fun breaks => absurd breaks continues,
      fun breaks => absurd breaks continues, by decide⟩
  exact ⟨_, run, activation_keeps_promises sampleStart_unsampled run⟩

/-- The stale report takes the sample from the reservation, the next report of the still
unstarted window replaces it, and 30 s later the window is claimed a second time. -/
theorem stale_report_frees_reservation : ∃ after,
    Run (ActivationStep sampleAccount) sampleStart [.observed firstSample, .observed floatingClaim,
      .observed staleReport, .observed secondSample, .observed secondClaim] after ∧
    ¬ KeepsPromises [.observed firstSample, .observed floatingClaim, .observed staleReport,
      .observed secondSample, .observed secondClaim] := by
  have enabled : ∀ world : Clocked, world.store.accounts = sampleStart.store.accounts →
      world.store.autoActivateQuota = true → claimEnabled world.store sampleAccount 1 = true := by
    intro world accounts active
    unfold claimEnabled
    rw [accounts, active]
    decide
  refine ⟨_, .cons firstSample_step (.cons (floatingClaim_step (by decide))
    (.cons (next_report floatingClaim staleReport (enabled _ rfl rfl) (by decide) (by decide)
      (by decide) (by decide) (by decide))
    (.cons (next_report staleReport secondSample (enabled _ rfl rfl) (by decide) (by decide)
      (by decide) (by decide) (by decide))
    (.single (next_report secondSample secondClaim (enabled _ rfl rfl) (by decide) (by decide)
      (by decide) (by decide) (by decide)))))), ?_⟩
  intro kept
  have promised := kept [.observed firstSample, .observed floatingClaim, .observed staleReport,
    .observed secondSample] secondClaim [] rfl
  rcases promised.once rfl [.observed firstSample] floatingClaim
    [.observed staleReport, .observed secondSample] rfl rfl (by simp [FinishesClaim]) with
    expired | ⟨event, member, o, rfl, later, counts⟩
  · exact absurd expired (by unfold Observation.Expired; decide)
  · simp only [List.cons_append, List.nil_append, List.mem_cons, ActivationEvent.observed.injEq,
      List.not_mem_nil, or_false] at member
    rcases member with rfl | rfl | rfl
    · exact absurd later (by decide)
    · exact counts (by unfold Observation.Full; decide)
    · exact counts (by unfold Observation.Full; decide)

end Decodex.Guarantees.QuotaActivations
