import Decodex.Library.Run
import Decodex.Guarantees.Samples
import Decodex.Source.Store.ProviderAttempts

/-!
# A dispatch is authorized once and an attempt ends by evidence

Over every sequence of committed provider attempt operations, each with any arguments, from
empty attempt tables, while every other table changes at will between them. The life of one
attempt id is stated first, as a machine of its own; each step of the store moves it by one
label or not at all. A call that fails or is rejected leaves the store as it was.
-/
namespace Decodex.Guarantees.ProviderAttempts

open Decodex.Library
open Decodex.Source.Core Decodex.Source.Store Decodex.Source.Store.ProviderAttempts
open Decodex.Guarantees.Samples

/-- A committed operation with what it returned, or a change of other tables. -/
inductive AttemptEvent where
  | prepare (outcome : PrepareProviderAttemptOutcome)
  | authorize (outcome : AuthorizeProviderDispatchOutcome)
  | cancel (outcome : ProviderAttemptMutationOutcome)
  | markUnknown (outcome : ProviderAttemptMutationOutcome)
  | evidence (evidence : ProviderPositiveEvidence) (outcome : ProviderAttemptMutationOutcome)
  | supervisorLoss (count : Nat)
  | other

def AttemptStep (host : Host) (store : SqliteStore) (event : AttemptEvent)
    (after : SqliteStore) : Prop :=
  match event with
  | .prepare outcome => ∃ preparation generationId generationRevision epochId key expected now,
      prepareProviderAttempt host preparation generationId generationRevision epochId key expected
        now store = .ok (outcome, after)
  | .authorize outcome => ∃ prepared generationId generationRevision now,
      authorizeProviderAttemptDispatch prepared generationId generationRevision now store
        = .ok (outcome, after)
  | .cancel outcome => ∃ attemptId expectedRevision now,
      cancelProviderAttempt attemptId expectedRevision now store = .ok (outcome, after)
  | .markUnknown outcome => ∃ attemptId expectedRevision reason now,
      markProviderAttemptUnknown attemptId expectedRevision reason now store
        = .ok (outcome, after)
  | .evidence evidence outcome => ∃ expectedRevision now,
      recordProviderAttemptPositiveEvidence expectedRevision evidence now store
        = .ok (outcome, after)
  | .supervisorLoss count => ∃ now,
      projectProviderAttemptsAfterSupervisorLoss now store = .ok (count, after)
  | .other =>
      after.providerAttempts = store.providerAttempts ∧
        after.positiveEvidence = store.positiveEvidence

inductive LifeLabel where
  | idle | prepare | authorize | cancel | lose | prove
  deriving DecidableEq

/-- What may happen to one attempt id: `none` before its preparation. -/
inductive Life : Option ProviderAttemptState → LifeLabel → Option ProviderAttemptState → Prop
  | idle (state : Option ProviderAttemptState) : Life state .idle state
  | prepare : Life none .prepare (some .prepared)
  | authorize : Life (some .prepared) .authorize (some .dispatchAuthorized)
  | cancel : Life (some .prepared) .cancel (some .canceled)
  | lose {state : ProviderAttemptState}
      (live : state = .prepared ∨ state = .dispatchAuthorized) :
      Life (some state) .lose (some .unknown)
  | prove {state : ProviderAttemptState} (outcome : ProviderTerminalOutcome)
      (dispatched : state = .dispatchAuthorized ∨ state = .unknown) :
      Life (some state) .prove (some outcome.state)

/-- The state can no longer reach the one a dispatch is authorized from. -/
def PastPreparation (state : Option ProviderAttemptState) : Prop :=
  state ≠ none ∧ state ≠ some .prepared

namespace Life

variable {before after : Option ProviderAttemptState} {label : LifeLabel}

theorem idle_of_terminal (life : Life before label after) {state : ProviderAttemptState}
    (at_ : before = some state) (terminal : state.isTerminal = true) : label = .idle := by
  cases life with
  | idle => rfl
  | prepare => cases at_
  | authorize => cases at_; cases terminal
  | cancel => cases at_; cases terminal
  | lose live =>
    cases at_
    rcases live with rfl | rfl <;> cases terminal
  | prove outcome dispatched =>
    cases at_
    rcases dispatched with rfl | rfl <;> cases terminal

theorem idle_or_prove_of_unknown (life : Life before label after)
    (at_ : before = some .unknown) : label = .idle ∨ label = .prove := by
  cases life with
  | idle => exact .inl rfl
  | prepare => cases at_
  | authorize => cases at_
  | cancel => cases at_
  | lose live =>
    cases at_
    rcases live with h | h <;> cases h
  | prove => exact .inr rfl

theorem pastPreparation_stays (life : Life before label after) (past : PastPreparation before) :
    PastPreparation after := by
  cases life with
  | idle => exact past
  | prepare => exact (past.1 rfl).elim
  | authorize => exact (past.2 rfl).elim
  | cancel => exact (past.2 rfl).elim
  | lose => exact ⟨nofun, nofun⟩
  | prove outcome => cases outcome <;> exact ⟨nofun, nofun⟩

theorem authorize_from (life : Life before .authorize after) :
    ¬PastPreparation before ∧ PastPreparation after := by
  cases life
  exact ⟨fun past => past.2 rfl, nofun, nofun⟩

/-- Only evidence enters or leaves a proved state. -/
theorem unproved_of_ne (life : Life before label after) (moves : label ≠ .idle)
    (unproved : label ≠ .prove) :
    before.all (fun state => !evidencedState state) = true ∧
      after.all (fun state => !evidencedState state) = true := by
  cases life with
  | idle => exact (moves rfl).elim
  | prepare | authorize | cancel => exact ⟨rfl, rfl⟩
  | lose live => rcases live with rfl | rfl <;> exact ⟨rfl, rfl⟩
  | prove => exact (unproved rfl).elim

end Life

def attemptState (store : SqliteStore) (id : ProviderAttemptId) : Option ProviderAttemptState :=
  (store.providerAttempts.find? id).map (·.state)

/-- The event returned a fresh dispatch fence for the attempt. -/
def authorizesFresh (id : ProviderAttemptId) : AttemptEvent → Bool
  | .authorize (.fresh fence) => fence.attemptId == id
  | _ => false

/-- The event applied positive evidence to the attempt. -/
def provesAttempt (id : ProviderAttemptId) : AttemptEvent → Bool
  | .evidence evidence (.applied _) => evidence.attemptId == id
  | _ => false

/-- One step seen from one attempt id. -/
structure AttemptMove (store after : SqliteStore) (event : AttemptEvent)
    (id : ProviderAttemptId) (label : LifeLabel) : Prop where
  life : Life (attemptState store id) label (attemptState after id)
  fresh : authorizesFresh id event = true → label = .authorize
  proved : label = .prove → provesAttempt id event = true
  kept : label = .idle → after.providerAttempts.find? id = store.providerAttempts.find? id

theorem attemptMove_of_kept {store after : SqliteStore} {event : AttemptEvent}
    {id : ProviderAttemptId}
    (same : after.providerAttempts.find? id = store.providerAttempts.find? id)
    (stale : authorizesFresh id event = false) : AttemptMove store after event id .idle where
  life := by
    rw [attemptState, attemptState, same]
    exact .idle _
  fresh h := by simp [stale] at h
  proved := nofun
  kept _ := same

/-- An update of one attempt by its key, seen from that attempt. -/
theorem attemptState_updateKey {store : SqliteStore} (after : SqliteStore) {target : ProviderAttemptId}
    {change : ProviderAttempt → ProviderAttempt} {current : ProviderAttempt}
    (updated : store.providerAttempts.updateKey target change = some after.providerAttempts)
    (keeps : ∀ row, (change row).attemptId = row.attemptId)
    (found : store.providerAttempts.find? target = some current) :
    attemptState store target = some current.state ∧
      attemptState after target = some (change current).state ∧
      ∀ id, id ≠ target →
        after.providerAttempts.find? id = store.providerAttempts.find? id := by
  have view := Table.find?_updateKey updated keeps
  refine ⟨by simp [attemptState, found], by simp [attemptState, view, found], fun id differ => ?_⟩
  rw [view id, if_neg differ]

theorem prepare_move {host : Host} {store after : SqliteStore}
    {outcome : PrepareProviderAttemptOutcome}
    (step : AttemptStep host store (.prepare outcome) after) (id : ProviderAttemptId) :
    ∃ label, AttemptMove store after (.prepare outcome) id label := by
  obtain ⟨preparation, generationId, generationRevision, epochId, key, expected, now, success⟩ :=
    step
  rcases prepareProviderAttempt_effects success with rfl | ⟨authority, attempts, inserted, rfl⟩
  · exact ⟨.idle, attemptMove_of_kept rfl rfl⟩
  · have view := Table.find?_insert inserted id
    by_cases here : preparation.attemptId = id
    · subst here
      have fresh := Table.insert_fresh inserted
      refine ⟨.prepare, ?_, nofun, nofun, nofun⟩
      have absent : attemptState store preparation.attemptId = none := by
        simpa [attemptState, preparedAttempt] using fresh
      have stored : attemptState { store with providerAttempts := attempts }
          preparation.attemptId = some .prepared := by
        simp [attemptState, view, preparedAttempt]
      rw [absent, stored]
      exact .prepare
    · refine ⟨.idle, attemptMove_of_kept ?_ rfl⟩
      rw [view]
      exact if_neg here

theorem authorize_move {host : Host} {store after : SqliteStore}
    {outcome : AuthorizeProviderDispatchOutcome}
    (step : AttemptStep host store (.authorize outcome) after) (id : ProviderAttemptId) :
    ∃ label, AttemptMove store after (.authorize outcome) id label := by
  obtain ⟨prepared, generationId, generationRevision, now, success⟩ := step
  rcases authorizeProviderAttemptDispatch_effects success with
    ⟨rfl, stale⟩ | ⟨current, attempts, fence, found, state, updated, rfl, rfl, names⟩
  · refine ⟨.idle, attemptMove_of_kept rfl ?_⟩
    cases outcome with
    | fresh fence => exact (stale fence rfl).elim
    | replayed | rejected => rfl
  · have view := attemptState_updateKey { store with providerAttempts := attempts } updated
      (fun _ => rfl) found
    by_cases here : id = prepared.attemptId
    · subst here
      refine ⟨.authorize, ?_, fun _ => rfl, nofun, nofun⟩
      rw [view.1, view.2.1, state]
      exact .authorize
    · refine ⟨.idle, attemptMove_of_kept (view.2.2 id here) ?_⟩
      simpa [authorizesFresh, names] using fun h => here h.symm

/-- `transition_attempt` moves its attempt when the life of an attempt allows the move. -/
theorem transition_move {store after : SqliteStore} {event : AttemptEvent}
    {attemptId : ProviderAttemptId} {expectedRevision now : Int}
    {expectedState targetState : ProviderAttemptState}
    {reason : Option ProviderAttemptUnknownReason} {outcome : ProviderAttemptMutationOutcome}
    {label : LifeLabel}
    (success : transitionAttempt attemptId expectedRevision expectedState targetState reason now
      store = .ok (outcome, after))
    (life : Life (some expectedState) label (some targetState))
    (moves : label ≠ .idle) (unproved : label ≠ .prove)
    (stale : ∀ id, authorizesFresh id event = false) (id : ProviderAttemptId) :
    ∃ label, AttemptMove store after event id label := by
  rcases transitionAttempt_effects success with rfl | ⟨current, attempts, found, state, updated, rfl⟩
  · exact ⟨.idle, attemptMove_of_kept rfl (stale id)⟩
  · have view := attemptState_updateKey { store with providerAttempts := attempts } updated
      (fun _ => rfl) found
    by_cases here : id = attemptId
    · subst here
      refine ⟨label, ?_, fun h => by simp [stale] at h, fun h => (unproved h).elim,
        fun h => (moves h).elim⟩
      rw [view.1, view.2.1, state]
      exact life
    · exact ⟨.idle, attemptMove_of_kept (view.2.2 id here) (stale id)⟩

/-- Whatever `finalize` does, it does not touch the attempt tables. -/
theorem finalize_keeps_attempts {store after : SqliteStore} {attempt : ProviderAttempt}
    {evidence : ProviderPositiveEvidence} {now : Int}
    (success : finalize store attempt evidence now = .ok after) :
    after.providerAttempts = store.providerAttempts ∧
      after.positiveEvidence = store.positiveEvidence := by
  rcases finalize_effects success with rfl | ⟨_, _, _, _, _, _, _, _, _, _, _, rfl⟩
  · exact ⟨rfl, rfl⟩
  · exact ⟨rfl, rfl⟩

theorem evidence_move {host : Host} {store after : SqliteStore}
    {evidence : ProviderPositiveEvidence} {outcome : ProviderAttemptMutationOutcome}
    (step : AttemptStep host store (.evidence evidence outcome) after) (id : ProviderAttemptId) :
    ∃ label, AttemptMove store after (.evidence evidence outcome) id label := by
  obtain ⟨expectedRevision, now, success⟩ := step
  rcases recordProviderAttemptPositiveEvidence_effects success with
    ⟨rfl, _⟩ | ⟨current, rows, attempts, found, _, state, _, _, _, updated, finalized, rfl⟩
  · exact ⟨.idle, attemptMove_of_kept rfl rfl⟩
  · have kept : after.providerAttempts = attempts := (finalize_keeps_attempts finalized).1
    rw [← kept] at updated
    have view := attemptState_updateKey _ updated (fun _ => rfl) found
    by_cases here : id = evidence.attemptId
    · subst here
      refine ⟨.prove, ?_, nofun, fun _ => by simp [provesAttempt], nofun⟩
      rw [view.1, view.2.1]
      exact .prove evidence.outcome state
    · exact ⟨.idle, attemptMove_of_kept (view.2.2 id here) rfl⟩

theorem supervisorLoss_move {host : Host} {store after : SqliteStore} {count : Nat}
    (step : AttemptStep host store (.supervisorLoss count) after) (id : ProviderAttemptId) :
    ∃ label, AttemptMove store after (.supervisorLoss count) id label := by
  obtain ⟨now, success⟩ := step
  obtain ⟨attempts, updated, rfl⟩ := projectProviderAttempts_effects success
  have view := Table.find?_updateWhere updated (fun _ _ => rfl) id
  cases found : store.providerAttempts.find? id with
  | none =>
    refine ⟨.idle, attemptMove_of_kept ?_ rfl⟩
    rw [view, found]
    rfl
  | some row =>
    by_cases hit : projectable row = true
    · have live : row.state = .prepared ∨ row.state = .dispatchAuthorized := by
        simpa [projectable] using hit
      refine ⟨.lose, ?_, nofun, nofun, nofun⟩
      simp only [attemptState, view, found, Option.map_some, hit, if_true]
      exact .lose live
    · refine ⟨.idle, attemptMove_of_kept ?_ rfl⟩
      rw [view, found]
      simp [hit]

/-- Each step of the store is at most one move in the life of each attempt. -/
theorem attemptStep_moves {host : Host} {store after : SqliteStore} {event : AttemptEvent}
    (step : AttemptStep host store event after) (id : ProviderAttemptId) :
    ∃ label, AttemptMove store after event id label := by
  cases event with
  | prepare outcome => exact prepare_move step id
  | authorize outcome => exact authorize_move step id
  | cancel outcome =>
    obtain ⟨attemptId, expectedRevision, now, success⟩ := step
    exact transition_move success .cancel nofun nofun (fun _ => rfl) id
  | markUnknown outcome =>
    obtain ⟨attemptId, expectedRevision, reason, now, success⟩ := step
    unfold markProviderAttemptUnknown at success
    split at success
    · cases success
    · exact transition_move success (.lose (.inr rfl)) nofun nofun (fun _ => rfl) id
  | evidence evidence outcome => exact evidence_move step id
  | supervisorLoss count => exact supervisorLoss_move step id
  | other => exact ⟨.idle, attemptMove_of_kept (by rw [step.1]) rfl⟩

/-- The evidence row proves the state its attempt is in. -/
structure Proves (row : PositiveEvidenceRow) (attempt : ProviderAttempt) : Prop where
  named : attempt.terminalEvidenceId = some row.evidence.evidenceId
  outcome : row.evidence.outcome.state = attempt.state
  request : row.evidence.requestId = attempt.requestId
  key : attempt.providerKeys.contains row.evidence.providerKey = true

structure EvidenceAgrees (store : SqliteStore) : Prop where
  owned : ∀ row ∈ store.positiveEvidence.rows, ∃ attempt,
    store.providerAttempts.find? row.evidence.attemptId = some attempt ∧ Proves row attempt
  proved : ∀ id attempt, store.providerAttempts.find? id = some attempt →
    evidencedState attempt.state = true →
    ∃ row ∈ store.positiveEvidence.rows, row.evidence.attemptId = id

theorem evidencedState_of_proves {row : PositiveEvidenceRow} {attempt : ProviderAttempt}
    (proves : Proves row attempt) : evidencedState attempt.state = true := by
  rw [← proves.outcome]
  cases row.evidence.outcome <;> rfl

/-- A step that stores no evidence keeps the agreement: it moves no proved attempt. -/
theorem evidenceAgrees_of_unproved {store after : SqliteStore} {event : AttemptEvent}
    (agrees : EvidenceAgrees store)
    (same : after.positiveEvidence = store.positiveEvidence)
    (moves : ∀ id, ∃ label, AttemptMove store after event id label)
    (unproved : ∀ id, provesAttempt id event = false) : EvidenceAgrees after := by
  have unmoved : ∀ id label, AttemptMove store after event id label → label ≠ .idle →
      (∀ attempt, store.providerAttempts.find? id = some attempt →
        evidencedState attempt.state = false) ∧
      ∀ attempt, after.providerAttempts.find? id = some attempt →
        evidencedState attempt.state = false := by
    intro id label move busy
    have notProved : label ≠ .prove := fun h => by
      have := move.proved h
      simp [unproved] at this
    obtain ⟨before, later⟩ := move.life.unproved_of_ne busy notProved
    refine ⟨fun attempt found => ?_, fun attempt found => ?_⟩
    · simpa [attemptState, found] using before
    · simpa [attemptState, found] using later
  constructor
  · intro row member
    rw [same] at member
    obtain ⟨attempt, found, proves⟩ := agrees.owned row member
    obtain ⟨label, move⟩ := moves row.evidence.attemptId
    by_cases idle : label = .idle
    · exact ⟨attempt, by rw [move.kept idle]; exact found, proves⟩
    · have := (unmoved _ _ move idle).1 attempt found
      simp [evidencedState_of_proves proves] at this
  · intro id attempt found proved
    rw [same]
    obtain ⟨label, move⟩ := moves id
    by_cases idle : label = .idle
    · rw [move.kept idle] at found
      exact agrees.proved id attempt found proved
    · have := (unmoved _ _ move idle).2 attempt found
      simp [proved] at this

/-- Recording evidence stores the row of exactly the attempt it proves. -/
theorem evidence_agrees {host : Host} {store after : SqliteStore}
    {evidence : ProviderPositiveEvidence} {outcome : ProviderAttemptMutationOutcome}
    (agrees : EvidenceAgrees store)
    (step : AttemptStep host store (.evidence evidence outcome) after) : EvidenceAgrees after := by
  obtain ⟨expectedRevision, now, success⟩ := step
  rcases recordProviderAttemptPositiveEvidence_effects success with
    ⟨rfl, _⟩ |
      ⟨current, rows, attempts, found, _, state, request, key, inserted, updated, finalized, rfl⟩
  · exact agrees
  · have kept := finalize_keeps_attempts finalized
    have attemptsAfter : after.providerAttempts = attempts := kept.1
    have evidenceAfter : after.positiveEvidence = rows := kept.2
    have stored := Table.insert_rows inserted
    have view := Table.find?_updateKey updated fun _ => rfl
    have unproved : evidencedState current.state = false := by
      rcases state with h | h <;> rw [h] <;> rfl
    constructor
    · intro row member
      rw [evidenceAfter, stored, List.mem_append, List.mem_singleton] at member
      rw [attemptsAfter, view]
      rcases member with old | rfl
      · obtain ⟨attempt, owner, proves⟩ := agrees.owned row old
        have differ : row.evidence.attemptId ≠ evidence.attemptId := by
          intro same
          rw [same, found] at owner
          cases owner
          simp [evidencedState_of_proves proves] at unproved
        rw [if_neg differ]
        exact ⟨attempt, owner, proves⟩
      · refine ⟨evidencedAttempt evidence (expectedRevision + 1) now current, ?_, rfl, rfl,
          request.symm, key⟩
        simp [found]
    · intro id attempt owner proved
      rw [attemptsAfter, view] at owner
      rw [evidenceAfter, stored]
      by_cases here : id = evidence.attemptId
      · exact ⟨⟨evidence, now⟩, by simp, here.symm⟩
      · rw [if_neg here] at owner
        obtain ⟨row, member, names⟩ := agrees.proved id attempt owner proved
        exact ⟨row, List.mem_append_left _ member, names⟩

theorem attemptStep_agrees (host : Host) (store : SqliteStore) (event : AttemptEvent)
    (after : SqliteStore) (step : AttemptStep host store event after)
    (agrees : EvidenceAgrees store) : EvidenceAgrees after := by
  have moves := attemptStep_moves step
  cases event with
  | evidence evidence outcome => exact evidence_agrees agrees step
  | other => exact evidenceAgrees_of_unproved agrees step.2 moves fun _ => rfl
  | prepare outcome =>
    refine evidenceAgrees_of_unproved agrees ?_ moves fun _ => rfl
    obtain ⟨_, _, _, _, _, _, _, success⟩ := step
    rcases prepareProviderAttempt_effects success with rfl | ⟨_, _, _, rfl⟩ <;> rfl
  | authorize outcome =>
    refine evidenceAgrees_of_unproved agrees ?_ moves fun _ => rfl
    obtain ⟨_, _, _, _, success⟩ := step
    rcases authorizeProviderAttemptDispatch_effects success with
      ⟨rfl, _⟩ | ⟨_, _, _, _, _, _, rfl, _, _⟩ <;> rfl
  | cancel outcome =>
    refine evidenceAgrees_of_unproved agrees ?_ moves fun _ => rfl
    obtain ⟨_, _, _, success⟩ := step
    rcases transitionAttempt_effects success with rfl | ⟨_, _, _, _, _, rfl⟩ <;> rfl
  | markUnknown outcome =>
    refine evidenceAgrees_of_unproved agrees ?_ moves fun _ => rfl
    obtain ⟨_, _, _, _, success⟩ := step
    unfold markProviderAttemptUnknown at success
    split at success
    · cases success
    · rcases transitionAttempt_effects success with rfl | ⟨_, _, _, _, _, rfl⟩ <;> rfl
  | supervisorLoss count =>
    refine evidenceAgrees_of_unproved agrees ?_ moves fun _ => rfl
    obtain ⟨_, success⟩ := step
    obtain ⟨_, _, rfl⟩ := projectProviderAttempts_effects success
    rfl

theorem evidenceAgrees_empty {store : SqliteStore}
    (noAttempts : store.providerAttempts.rows = []) (noEvidence : store.positiveEvidence.rows = []) :
    EvidenceAgrees store where
  owned row member := by
    rw [noEvidence] at member
    cases member
  proved id attempt found := by
    have member := Table.mem_of_find? found
    rw [noAttempts] at member
    cases member

/-- In an agreeing store, an attempt is in a proved state exactly when its one evidence row
exists, and that row is the one it names. -/
theorem EvidenceAgrees.exact {store : SqliteStore} (agrees : EvidenceAgrees store)
    {id : ProviderAttemptId} {attempt : ProviderAttempt}
    (found : store.providerAttempts.find? id = some attempt) :
    (evidencedState attempt.state = true ↔
      ∃ row ∈ store.positiveEvidence.rows, row.evidence.attemptId = id) ∧
    ∀ row ∈ store.positiveEvidence.rows, row.evidence.attemptId = id →
      Proves row attempt ∧
        ∀ other ∈ store.positiveEvidence.rows, other.evidence.attemptId = id → other = row := by
  have proves : ∀ row ∈ store.positiveEvidence.rows, row.evidence.attemptId = id →
      Proves row attempt := by
    intro row member names
    obtain ⟨owner, ownerFound, proves⟩ := agrees.owned row member
    rw [names, found] at ownerFound
    cases ownerFound
    exact proves
  refine ⟨⟨agrees.proved id attempt found, ?_⟩, fun row member names => ?_⟩
  · rintro ⟨row, member, names⟩
    exact evidencedState_of_proves (proves row member names)
  · refine ⟨proves row member names, fun other otherMember otherNames => ?_⟩
    by_contra differ
    have distinct := (store.positiveEvidence.distinct.forall otherMember member differ).2.1
    simp [positiveEvidence, otherNames, names] at distinct

/-- No step changes a terminal attempt. -/
theorem terminal_attempt_kept (host : Host) (id : ProviderAttemptId) {attempt : ProviderAttempt}
    (terminal : attempt.state.isTerminal = true) (store : SqliteStore) (event : AttemptEvent)
    (after : SqliteStore) (step : AttemptStep host store event after)
    (found : store.providerAttempts.find? id = some attempt) :
    after.providerAttempts.find? id = some attempt := by
  obtain ⟨label, move⟩ := attemptStep_moves step id
  have idle := move.life.idle_of_terminal (by simp [attemptState, found]) terminal
  rw [move.kept idle]
  exact found

/-- An attempt stays unknown until an event of the run proves it. -/
theorem unknown_left_by_evidence {host : Host} {middle store : SqliteStore}
    {events : List AttemptEvent} (run : Run (AttemptStep host) middle events store)
    {id : ProviderAttemptId} (unknown : attemptState middle id = some .unknown) :
    attemptState store id = some .unknown ∨ ∃ event ∈ events, provesAttempt id event = true := by
  induction run with
  | nil => exact .inl unknown
  | @cons before next last event events step rest ih =>
    obtain ⟨label, move⟩ := attemptStep_moves step id
    rcases move.life.idle_or_prove_of_unknown unknown with idle | prove
    · have stays : attemptState next id = some .unknown := by
        rw [attemptState, move.kept idle]
        exact unknown
      rcases ih stays with still | ⟨event, member, proves⟩
      · exact .inl still
      · exact .inr ⟨event, List.mem_cons_of_mem _ member, proves⟩
    · exact .inr ⟨event, by simp, move.proved prove⟩

theorem fresh_needs_preparation (host : Host) (id : ProviderAttemptId) (store : SqliteStore)
    (event : AttemptEvent) (after : SqliteStore) (step : AttemptStep host store event after)
    (hit : authorizesFresh id event = true) :
    ¬PastPreparation (attemptState store id) ∧ PastPreparation (attemptState after id) := by
  obtain ⟨label, move⟩ := attemptStep_moves step id
  have authorizes := move.fresh hit
  subst authorizes
  exact move.life.authorize_from

theorem pastPreparation_stays (host : Host) (id : ProviderAttemptId) (store : SqliteStore)
    (event : AttemptEvent) (after : SqliteStore) (step : AttemptStep host store event after)
    (past : PastPreparation (attemptState store id)) :
    PastPreparation (attemptState after id) := by
  obtain ⟨label, move⟩ := attemptStep_moves step id
  exact move.life.pastPreparation_stays past

/-- Over every run from empty attempt tables and every state `middle` it passes, for each
attempt id: at most one fresh dispatch fence is returned, and none once the attempt has been
unknown or terminal; a terminal attempt never changes and an unknown one is left only by
applied evidence; and an attempt is in a proved state exactly when its one evidence row
exists, which it names, with its state as outcome, its request and one of its keys. -/
theorem providerAttempts_authorize_once_and_end_by_evidence (host : Host)
    (start middle store : SqliteStore) (earlier later : List AttemptEvent)
    (noAttempts : start.providerAttempts.rows = []) (noEvidence : start.positiveEvidence.rows = [])
    (before : Run (AttemptStep host) start earlier middle)
    (after : Run (AttemptStep host) middle later store) (id : ProviderAttemptId) :
    (earlier ++ later).countP (authorizesFresh id) ≤ 1 ∧
    (∀ attempt, middle.providerAttempts.find? id = some attempt →
      attempt.state = .unknown ∨ attempt.state.isTerminal = true →
      later.countP (authorizesFresh id) = 0) ∧
    (∀ attempt, middle.providerAttempts.find? id = some attempt →
      attempt.state.isTerminal = true → store.providerAttempts.find? id = some attempt) ∧
    (attemptState middle id = some .unknown →
      attemptState store id = some .unknown ∨ ∃ event ∈ later, provesAttempt id event = true) ∧
    ∀ attempt, store.providerAttempts.find? id = some attempt →
      (evidencedState attempt.state = true ↔
        ∃ row ∈ store.positiveEvidence.rows, row.evidence.attemptId = id) ∧
      ∀ row ∈ store.positiveEvidence.rows, row.evidence.attemptId = id →
        Proves row attempt ∧
          ∀ other ∈ store.positiveEvidence.rows, other.evidence.attemptId = id → other = row := by
  have whole := before.append after
  have stays := pastPreparation_stays host id
  have needs := fresh_needs_preparation host id
  refine ⟨?_, fun attempt found closed => ?_, fun attempt found terminal => ?_,
    unknown_left_by_evidence after, fun attempt found => ?_⟩
  · exact whole.countP_le_one stays (fun s event t step hit => (needs s event t step hit).1)
      fun s event t step hit => (needs s event t step hit).2
  · refine after.countP_eq_zero_of_closed stays
      (fun s event t step hit => (needs s event t step hit).1) ?_
    have state : attemptState middle id = some attempt.state := by simp [attemptState, found]
    rw [PastPreparation, state]
    refine ⟨by simp, fun prepared => ?_⟩
    rw [Option.some.inj prepared] at closed
    rcases closed with h | h <;> cases h
  · have kept := Run.invariant (terminal_attempt_kept host id terminal) after found
    exact kept
  · have agrees := Run.invariant (attemptStep_agrees host) whole
      (evidenceAgrees_empty noAttempts noEvidence)
    exact agrees.exact found

def sampleAttempt : ProviderAttemptId := ⟨"70000000-0000-4000-8000-000000000001", by decide⟩

def sampleRequest : ProviderRequestId := ⟨"80000000-0000-4000-8000-000000000001", by decide⟩

def sampleEvidence : ProviderEvidenceId := ⟨"90000000-0000-4000-8000-000000000001", by decide⟩

def samplePlan : String := "a0000000-0000-4000-8000-000000000001"

def sampleKeys : ProviderRequestKeys where
  idempotency := some ⟨"key-1", by decide⟩
  correlation := none
  present := by decide

def sampleProcess : ProcessIdentity where
  bootId := ⟨"boot-1", by decide⟩
  processId := 7
  processStartId := ⟨"start-1", by decide⟩
  processGroupId := 7
  sessionId := 7

def sampleGenerationRow : ProcessGenerationRow where
  generation :=
    { generationId := sampleGeneration
      accountId := sampleAccount
      executionEpochId := sampleEpoch
      runnerIdentity :=
        ⟨"sha256:aaaaaaaaaaaaaaaaaaaaaaaaaaaaaaaaaaaaaaaaaaaaaaaaaaaaaaaaaaaaaaaa", by decide⟩
      intendedBootId := ⟨"boot-1", by decide⟩
      controlKind := .stdioOnlyBestEffortEof
      isolationKind := .session
      processIdentity := some sampleProcess
      state := .ready
      authorityLossReason := none
      deathEvidenceId := none
      revision := 3
      createdAtMicros := 1
      updatedAtMicros := 1 }
  runtimeSessionId := some sampleSession
  binding :=
    { accountRevision := 1
      credential :=
        { schemaVersion := .v1
          version := 1
          fingerprint := sampleDigest
          providerAccountId := "provider"
          writerOperationId := sampleEpoch }
      refreshCallbackProfileSha256 := sampleDigest }
  quickTaskAdmissionKey := some "admission"

/-- One active conversation with an active session, a user turn and a ready process. -/
def sampleStore : SqliteStore :=
  { SqliteStore.empty with
    conversations := sampleConversations
    runtimeSessions := ⟨[⟨sampleSession, sampleConversation, sampleAccount, 1, some "thread-1",
      .active, none, some 1, some 1, some "binding", false, 2, 1, 1, none⟩], by decide, by decide⟩
    routingDecisions := ["decision"]
    continuationPlans := ⟨[⟨samplePlan, sampleConversation, sampleTurn, "decision",
      sampleSession, 1, sampleAccount, some sampleSession, .initialThread, none, none, none,
      none⟩], by decide, by decide⟩
    turns := ⟨[⟨sampleTurn, sampleConversation, some sampleSession, 1, .user, .unknown, .active, 1,
      1, 1, none⟩], by decide, by decide⟩
    processGenerations := ⟨[sampleGenerationRow], by decide, by decide⟩ }

def samplePreparation : ProviderAttemptPreparation where
  attemptId := sampleAttempt
  consumer := ⟨sampleConversation, sampleTurn⟩
  continuationPlanId := samplePlan
  requestId := sampleRequest
  requestDigest := sampleDigest
  providerKeys := sampleKeys
  duplicateRisk := .originalIntent

def sampleToken : FreshPreparedProviderAttempt :=
  ⟨sampleAttempt, 1, 2, some ⟨sampleConversation, 1, sampleTurn, 1⟩⟩

def preparedRow : ProviderAttempt :=
  preparedAttempt samplePreparation sampleGeneration 3 sampleEpoch
    ⟨"decision", sampleSession, 2, sampleAccount, .initialThread, sampleSession⟩ 2

def preparedStore : SqliteStore :=
  { sampleStore with providerAttempts := ⟨[preparedRow], by decide, by decide⟩ }

def authorizedRow : ProviderAttempt :=
  { preparedRow with state := .dispatchAuthorized, revision := 2, updatedAtMicros := 3 }

def authorizedStore : SqliteStore :=
  { sampleStore with providerAttempts := ⟨[authorizedRow], by decide, by decide⟩ }

def sampleProof : ProviderPositiveEvidence where
  evidenceId := sampleEvidence
  attemptId := sampleAttempt
  requestId := sampleRequest
  source := .exactThreadReadback
  outcome := .succeeded
  providerKey := ⟨"key-1", by decide⟩
  providerReceiptId := none
  providerThreadId := some "thread-1"
  providerTurnId := some "provider-turn"
  witnessDigest := sampleDigest

def provedStore : SqliteStore :=
  { sampleStore with
    providerAttempts := ⟨[evidencedAttempt sampleProof 3 4 authorizedRow], by decide, by decide⟩
    positiveEvidence := ⟨[⟨sampleProof, 4⟩], by decide, by decide⟩ }

def sampleDispatch : List AttemptEvent :=
  [.prepare (.fresh sampleToken),
    .authorize (.fresh ⟨sampleAttempt, 2, sampleGeneration, 3, 3⟩)]

def sampleEnd : List AttemptEvent := [.evidence sampleProof (.applied ⟨3, .succeeded, 4⟩)]

theorem sampleDispatch_run :
    Run (AttemptStep sampleHost) sampleStore sampleDispatch authorizedStore := by
  refine .cons (m := preparedStore) ?_ (.single ?_)
  · exact ⟨samplePreparation, sampleGeneration, 3, sampleEpoch, none, (some 1, some 1), 2, rfl⟩
  · exact ⟨sampleToken, sampleGeneration, 3, 3, rfl⟩

theorem sampleEnd_run : Run (AttemptStep sampleHost) authorizedStore sampleEnd provedStore :=
  .single ⟨2, 4, rfl⟩

/-- A prepared, dispatched and proved attempt had one fence and is named by its evidence. -/
theorem sample_attempt_proved_once :
    (sampleDispatch ++ sampleEnd).countP (authorizesFresh sampleAttempt) ≤ 1 ∧
      ∃ row ∈ provedStore.positiveEvidence.rows, row.evidence.attemptId = sampleAttempt := by
  obtain ⟨once, _, _, _, agrees⟩ :=
    providerAttempts_authorize_once_and_end_by_evidence sampleHost sampleStore authorizedStore
      provedStore sampleDispatch sampleEnd rfl rfl sampleDispatch_run sampleEnd_run sampleAttempt
  exact ⟨once, (agrees _ rfl).1.mp rfl⟩

end Decodex.Guarantees.ProviderAttempts
