import Decodex.Source.Core.Routing
import Decodex.Source.Store.Error

/-!
# Quota activation

Source: database/src/quota_activation.rs:12-148 (`claim_quota_activation`,
`finish_quota_activation`, `full_window_ahead`), database/schema.sql:113-121 (the row and its
checks). Of `accounts` and `desktop_settings` only what the guard of a claim selects is kept.
A call that fails leaves the store as it was.
-/
namespace Decodex.Source.Store.QuotaActivation

open Decodex.Source.Core
open Decodex.Source.Core.Routing (AccountQuotaWindow)

def rejectionBackoffMicros : Int := 900000000
def countdownSampleMicros : Int := 30000000
def resetClockToleranceMicros : Nat := 15000000
def sevenDaysMinutes : Nat := 10080

def i64Min : Int := -i64Max - 1

/-- An `i64` result that saturates. -/
def saturate (value : Int) : Int := max i64Min (min value i64Max)

/-- A window as it is reported, its reset of 64 bits. -/
structure ReportedQuotaWindow extends AccountQuotaWindow where
  resetInRange : i64Min ≤ resetsAtUnixMicros ∧ resetsAtUnixMicros ≤ i64Max

inductive ActivationOutcome where
  | idle | unknown | completed | rejected
  deriving DecidableEq, Repr

/-- A row of `account_quota_activation`. -/
structure ActivationRow where
  observedResetAtMicros : Int
  nextDueAtMicros : Int
  attemptedAtMicros : Option Int
  outcome : ActivationOutcome
  observedAtMicros : Option Int
  deriving DecidableEq, Repr

/-- The column checks of the table. -/
def ActivationRow.check (row : ActivationRow) : Bool :=
  decide (0 < row.observedResetAtMicros) && decide (0 < row.nextDueAtMicros) &&
    row.attemptedAtMicros.all (decide <| 0 < ·) && row.observedAtMicros.all (decide <| 0 < ·)

/-- What the guard of a claim reads of an account. -/
structure ActivationAccount where
  accountId : AccountId
  revision : Int
  enabled : Bool
  tombstonedAtMicros : Option Int

structure ActivationStore where
  accounts : List ActivationAccount
  autoActivateQuota : Bool
  activations : AccountId → Option ActivationRow

def ActivationStore.write (store : ActivationStore) (accountId : AccountId)
    (row : ActivationRow) : ActivationStore :=
  { store with
    activations := fun id => if id = accountId then some row else store.activations id }

/-- The statement that stores a row, refused by the checks of the table. -/
def writeRow (store : ActivationStore) (accountId : AccountId) (row : ActivationRow) :
    Except StoreError ActivationStore :=
  if row.check then .ok (store.write accountId row) else .error sqliteError

/-- `full_window_ahead`. -/
def fullWindowAhead (reset observedAt : Int) : Bool :=
  let duration : Int := sevenDaysMinutes * 60000000
  decide ((saturate (reset - observedAt) - duration).natAbs ≤ resetClockToleranceMicros)

/-- The guard of a claim: the account at that revision is enabled, and so is activation. -/
def claimEnabled (store : ActivationStore) (accountId : AccountId) (accountRevision : Int) : Bool :=
  store.accounts.any fun account =>
    account.accountId == accountId && account.revision == accountRevision && account.enabled &&
      account.tombstonedAtMicros.isNone && store.autoActivateQuota

/-- The stored sample and this report both show a full window, and the reset has moved on. -/
def floating (prior : Option ActivationRow) (reportedReset now : Int) : Bool :=
  fullWindowAhead reportedReset now && prior.any fun row =>
    row.observedAtMicros.any fun sampledAt =>
      fullWindowAhead row.observedResetAtMicros sampledAt &&
        decide (saturate (now - sampledAt) ≥ countdownSampleMicros) &&
          decide (reportedReset > row.observedResetAtMicros)

/-- The reset, the deadline and the observation time that a report leaves. -/
def observe (prior : Option ActivationRow) (reportedReset now : Int) : Int × Int × Int :=
  match prior with
  | none => (reportedReset, reportedReset, now)
  | some row =>
    let reset := row.observedResetAtMicros
    let due := row.nextDueAtMicros
    match row.observedAtMicros with
    | some sampledAt =>
      if fullWindowAhead reportedReset now && fullWindowAhead reset sampledAt then
        (reset, due, sampledAt)
      else if reportedReset ≤ reset then (reset, due, now)
      else (reportedReset, reportedReset, now)
    | none =>
      if fullWindowAhead reportedReset now then
        (reportedReset, if due = reset then reportedReset else due, now)
      else if reportedReset ≤ reset then (reset, due, now)
      else (reportedReset, reportedReset, now)

/-- Whether a claim succeeds, and the row it leaves. -/
def activationRow (prior : Option ActivationRow) (reportedReset : Int) (canSend : Bool)
    (now : Int) : Bool × ActivationRow :=
  let (reset, due, observedAt) := observe prior reportedReset now
  let floats := floating prior reportedReset now
  let expired := reportedReset == reset && decide (reset ≤ now)
  let ready := decide (due ≤ now) || (floats && due == reset)
  let claim := canSend && (expired || floats) && ready
  let attempted := if claim then some now else prior.bind (·.attemptedAtMicros)
  let outcome := if claim then .unknown else (prior.map (·.outcome)).getD .idle
  (claim, {
    observedResetAtMicros := reset
    -- A claimed window stays reserved: its deadline never comes.
    nextDueAtMicros := if claim then i64Max else due
    attemptedAtMicros := attempted
    outcome
    observedAtMicros := some observedAt })

/-- `claim_quota_activation`. -/
def claimQuotaActivation (accountId : AccountId) (accountRevision : Int)
    (weekly : ReportedQuotaWindow) (canSend : Bool) (now : Int) (store : ActivationStore) :
    Except StoreError (Bool × ActivationStore) :=
  if now ≤ 0 ∨ weekly.durationMinutes ≠ sevenDaysMinutes then
    .error (.invalidInput "invalid activation observation")
  else if claimEnabled store accountId accountRevision then do
    let claimed := activationRow (store.activations accountId) weekly.resetsAtUnixMicros canSend now
    let after ← writeRow store accountId claimed.2
    .ok (claimed.1, after)
  else .ok (false, store)

/-- The row is that of the attempt, and its outcome is still unknown. -/
def ActivationRow.Attempting (row : ActivationRow) (attemptedAt : Int) : Prop :=
  row.attemptedAtMicros = some attemptedAt ∧ row.outcome = .unknown

instance decidableAttempting (row : ActivationRow) (attemptedAt : Int) :
    Decidable (row.Attempting attemptedAt) :=
  inferInstanceAs (Decidable (_ ∧ _))

def ActivationRow.finish (row : ActivationRow) (attemptedAt : Int) (completed : Bool) :
    ActivationRow :=
  { row with
    outcome := if completed then .completed else .rejected
    nextDueAtMicros := if completed then row.nextDueAtMicros
      else saturate (attemptedAt + rejectionBackoffMicros) }

/-- `finish_quota_activation`. -/
def finishQuotaActivation (accountId : AccountId) (attemptedAt : Int) (completed : Bool)
    (store : ActivationStore) : Except StoreError ActivationStore :=
  match store.activations accountId with
  | some row =>
    if row.Attempting attemptedAt then writeRow store accountId (row.finish attemptedAt completed)
    else .ok store
  | none => .ok store

/-- The stored reset was a full window ahead when it was sampled. -/
def ActivationRow.Anchored (row : ActivationRow) : Prop :=
  ∃ sampledAt, row.observedAtMicros = some sampledAt ∧
    fullWindowAhead row.observedResetAtMicros sampledAt = true

instance decidableAnchored (row : ActivationRow) : Decidable row.Anchored :=
  decidable_of_iff (row.observedAtMicros.any fun sampledAt =>
    fullWindowAhead row.observedResetAtMicros sampledAt) (by
      unfold ActivationRow.Anchored
      cases row.observedAtMicros <;> simp)

/-- The report neither continues an unstarted window nor is the first sample of the row. -/
def Breaks (row : ActivationRow) (reportedReset now : Int) : Prop :=
  ¬ (fullWindowAhead reportedReset now = true ∧
    (row.Anchored ∨ row.observedAtMicros = none))

/-- The five ways to read a report, and what each leaves. -/
inductive Observes (prior : Option ActivationRow) (reportedReset now reset due observedAt : Int) :
    Prop
  | first (fresh : prior = none) (own : reset = reportedReset) (dueThen : due = reportedReset)
    (taken : observedAt = now)
  /-- The window is still unstarted: its first sample stays. -/
  | unstarted (row : ActivationRow) (stored : prior = some row)
    (sampled : row.observedAtMicros = some observedAt)
    (full : fullWindowAhead reportedReset now = true) (anchored : row.Anchored)
    (kept : reset = row.observedResetAtMicros) (dueKept : due = row.nextDueAtMicros)
  /-- A row without a sample gets its first one. -/
  | sampled (row : ActivationRow) (stored : prior = some row)
    (unsampled : row.observedAtMicros = none)
    (full : fullWindowAhead reportedReset now = true) (own : reset = reportedReset)
    (taken : observedAt = now)
  /-- A reset that is not later is stale or the one already known. -/
  | stale (row : ActivationRow) (stored : prior = some row)
    (breaks : Breaks row reportedReset now)
    (notLater : reportedReset ≤ row.observedResetAtMicros)
    (kept : reset = row.observedResetAtMicros) (dueKept : due = row.nextDueAtMicros)
    (taken : observedAt = now)
  /-- A later reset replaces the stored one and its deadline. -/
  | replaced (row : ActivationRow) (stored : prior = some row)
    (breaks : Breaks row reportedReset now)
    (later : row.observedResetAtMicros < reportedReset)
    (own : reset = reportedReset) (dueThen : due = reportedReset) (taken : observedAt = now)

theorem anchored_iff_of_sampled {row : ActivationRow} {sampledAt : Int}
    (sampled : row.observedAtMicros = some sampledAt) :
    row.Anchored ↔ fullWindowAhead row.observedResetAtMicros sampledAt = true := by
  unfold ActivationRow.Anchored
  simp [sampled]

theorem observe_observes {prior : Option ActivationRow}
    {reportedReset now reset due observedAt : Int}
    (left : observe prior reportedReset now = (reset, due, observedAt)) :
    Observes prior reportedReset now reset due observedAt := by
  cases prior with
  | none =>
    cases left
    exact .first rfl rfl rfl rfl
  | some row =>
    unfold observe at left
    dsimp only at left
    cases sample : row.observedAtMicros with
    | some sampledAt =>
      have anchored := anchored_iff_of_sampled sample
      rw [sample] at left
      dsimp only at left
      split at left
      · rename_i both
        obtain ⟨full, held⟩ := Bool.and_eq_true _ _ ▸ both
        cases left
        exact .unstarted row rfl sample full (anchored.mpr held) rfl rfl
      · rename_i other
        have breaks : Breaks row reportedReset now := by
          rintro ⟨full, held | unsampled⟩
          · exact other (by rw [full, anchored.mp held]; rfl)
          · rw [sample] at unsampled
            cases unsampled
        split at left
        · cases left
          exact .stale row rfl breaks ‹_› rfl rfl rfl
        · cases left
          exact .replaced row rfl breaks (Int.lt_of_not_ge ‹_›) rfl rfl rfl
    | none =>
      rw [sample] at left
      dsimp only at left
      split at left
      · cases left
        exact .sampled row rfl sample ‹_› rfl rfl
      · rename_i other
        have breaks : Breaks row reportedReset now := fun both => other both.1
        split at left
        · cases left
          exact .stale row rfl breaks ‹_› rfl rfl rfl
        · cases left
          exact .replaced row rfl breaks (Int.lt_of_not_ge ‹_›) rfl rfl rfl

theorem floating_iff {prior : Option ActivationRow} {reportedReset now : Int} :
    floating prior reportedReset now = true ↔
      fullWindowAhead reportedReset now = true ∧ ∃ row sampledAt, prior = some row ∧
        row.observedAtMicros = some sampledAt ∧
        fullWindowAhead row.observedResetAtMicros sampledAt = true ∧
        sampledAt + countdownSampleMicros ≤ now ∧ row.observedResetAtMicros < reportedReset := by
  have elapsed : ∀ sampledAt, countdownSampleMicros ≤ saturate (now - sampledAt) ↔
      sampledAt + countdownSampleMicros ≤ now := by
    intro sampledAt
    unfold saturate i64Min i64Max countdownSampleMicros
    omega
  unfold floating
  cases prior with
  | none => simp
  | some row => cases sample : row.observedAtMicros <;> simp [sample, elapsed, and_assoc]

end Decodex.Source.Store.QuotaActivation
