import Decodex.Guarantees.ProviderAttempts
import Decodex.Source.Store.ProcessGenerations
import Decodex.Source.Store.TurnChanges

/-!
# What reconciling a stranded turn discards

The guard of `reconcile_stranded_conversation_turn` excludes the attempts that are not
terminal. Over every run of attempt operations it therefore fails a turn without a possible
provider effect exactly when no recorded evidence of the turn's attempts says that the
provider took the request.
-/
namespace Decodex.Guarantees.StrandedTurns

open Decodex.Library
open Decodex.Source.Core Decodex.Source.Store Decodex.Source.Store.Conversations
open Decodex.Source.Store.ProcessGenerations (recordProcessGenerationDeath deadGeneration)
open Decodex.Source.Store.ProviderAttempts (evidencedAttempt)
open Decodex.Guarantees.Samples Decodex.Guarantees.ProviderAttempts

/-- Every attempt of the turn is canceled or was not submitted. -/
def NoProviderEffect (store : SqliteStore) (turnId : TurnId) : Prop :=
  ∀ attempt ∈ store.providerAttempts.rows, attempt.consumer.turnId = turnId →
    attempt.state = .canceled ∨ attempt.state = .notSubmitted

/-- No recorded evidence says that the provider took a request of the turn. -/
def NoEffectEvidence (store : SqliteStore) (turnId : TurnId) : Prop :=
  ∀ row ∈ store.positiveEvidence.rows, ∀ attempt ∈ store.providerAttempts.rows,
    row.evidence.attemptId = attempt.attemptId → attempt.consumer.turnId = turnId →
    row.evidence.outcome = .notSubmitted

theorem canceled_of_unproved {state : ProviderAttemptState} (ended : state.isTerminal = true)
    (unproved : ¬evidencedState state = true) : state = .canceled := by
  cases state <;> first
    | rfl
    | exact (unproved rfl).elim
    | cases ended

/-- A terminal attempt without effect evidence had no effect, and conversely. -/
theorem noProviderEffect_iff {store : SqliteStore} (agrees : EvidenceAgrees store)
    {turnId : TurnId}
    (terminal : ∀ attempt ∈ store.providerAttempts.rows, attempt.consumer.turnId = turnId →
      attempt.state.isTerminal = true) :
    NoProviderEffect store turnId ↔ NoEffectEvidence store turnId := by
  constructor
  · intro harmless row rowMember attempt member names owner
    obtain ⟨named, found, proves⟩ := agrees.owned row rowMember
    have here : named = attempt :=
      Table.eq_of_key (Table.mem_of_find? found) member ((Table.key_of_find? found).trans names)
    subst here
    have outcome := proves.outcome
    rcases harmless named member owner with canceled | notSubmitted
    · rw [canceled] at outcome
      cases h : row.evidence.outcome <;> rw [h] at outcome <;> cases outcome
    · rw [notSubmitted] at outcome
      exact ProviderTerminalOutcome.state_injective outcome
  · intro harmless attempt member owner
    have found := Table.find?_of_mem member
    by_cases proved : evidencedState attempt.state = true
    · obtain ⟨row, rowMember, names⟩ := agrees.proved _ attempt found proved
      obtain ⟨proves, _⟩ := (agrees.exact found).2 row rowMember names
      have outcome := harmless row rowMember attempt member names owner
      rw [← proves.outcome, outcome]
      exact .inr rfl
    · exact .inl (canceled_of_unproved (terminal attempt member owner) proved)

/-- An applied reconciliation found the turn active and every attempt of it terminal, and
failed the turn. -/
theorem reconcile_applied {command : CommandIdentity}
    {request : ReconcileStrandedConversationTurn} {now revision : Int} {store after : SqliteStore}
    (applied : reconcileStrandedConversationTurn command request now store
      = .ok (.applied revision, after)) :
    (∃ turn, store.turns.find? request.turnId = some turn ∧ turn.status = .active) ∧
    (∃ turn, after.turns.find? request.turnId = some turn ∧ turn.status = .failed) ∧
    ∀ attempt ∈ store.providerAttempts.rows, attempt.consumer.turnId = request.turnId →
      attempt.state.isTerminal = true := by
  unfold reconcileStrandedConversationTurn at applied
  split at applied
  · cases applied
  · obtain ⟨receipt, _, applied⟩ := bind_ok applied
    split at applied
    · cases applied
    · cases applied
    · split at applied
      · cases applied
      · rename_i turn admitted
        obtain ⟨middle, closing, applied⟩ := bind_ok applied
        obtain ⟨touched, touch, applied⟩ := bind_ok applied
        obtain ⟨final, receipt, applied⟩ := bind_ok applied
        cases applied
        obtain ⟨found, matched⟩ := Option.filter_eq_some_iff.mp admitted
        simp only [strandedMatches, Bool.and_eq_true, beq_iff_eq, Bool.not_eq_true'] at matched
        obtain ⟨⟨⟨⟨⟨⟨_, active⟩, _⟩, _⟩, ended⟩, _⟩, _⟩ := matched
        obtain ⟨turns, updated, closing⟩ := bind_ok closing
        cases closing
        obtain ⟨_, _, touch⟩ := bind_ok touch
        cases touch
        obtain ⟨_, rfl⟩ := writeRuntimeReceipt_effects receipt
        refine ⟨⟨turn, found, active⟩, ⟨turn.close .failed now now, ?_, rfl⟩,
          fun attempt member owner => ?_⟩
        · have view := Table.find?_updateKey (execute_eq_ok.mp updated) (fun _ => rfl)
            request.turnId
          rw [if_pos rfl, found] at view
          exact view
        · have := List.any_eq_false.mp ended attempt member
          simpa [owner, nonterminalAttempt] using this

/-- Over every run from empty attempt tables, and every call that returns `Applied` in the
state it reaches: the active turn is failed, and no attempt of it can have had an effect
exactly when no evidence of its attempts says that the provider took the request. -/
theorem reconciliation_discards_no_effect_iff (host : Host) (start store after : SqliteStore)
    (events : List AttemptEvent) (noAttempts : start.providerAttempts.rows = [])
    (noEvidence : start.positiveEvidence.rows = [])
    (run : Run (AttemptStep host) start events store) (command : CommandIdentity)
    (request : ReconcileStrandedConversationTurn) (now revision : Int)
    (applied : reconcileStrandedConversationTurn command request now store
      = .ok (.applied revision, after)) :
    (∃ turn, store.turns.find? request.turnId = some turn ∧ turn.status = .active) ∧
    (∃ turn, after.turns.find? request.turnId = some turn ∧ turn.status = .failed) ∧
    (NoProviderEffect store request.turnId ↔ NoEffectEvidence store request.turnId) := by
  obtain ⟨before, failed, terminal⟩ := reconcile_applied applied
  have agrees := Run.invariant (attemptStep_agrees host) run
    (evidenceAgrees_empty noAttempts noEvidence)
  exact ⟨before, failed, noProviderEffect_iff agrees terminal⟩

/-- The owned child of the sample process exited. -/
def sampleExit : ProcessDeathEvidence where
  evidenceId := ⟨"b0000000-0000-4000-8000-000000000001", by decide⟩
  generationId := sampleGeneration
  kind := .ownedChildExit
  observedBootId := sampleProcess.bootId
  processIdentity := some sampleProcess
  witnessDigest := sampleDigest

/-- The proved attempt, its process dead before the turn was terminalized. -/
def interruptedStore : SqliteStore :=
  { provedStore with
    deathEvidence := ⟨[⟨sampleExit, 5⟩], by decide, by decide⟩
    processGenerations := ⟨[{ sampleGenerationRow with
      generation := deadGeneration sampleExit 4 5 sampleGenerationRow.generation }], by decide,
      by decide⟩ }

def sampleReconciliation : ReconcileStrandedConversationTurn where
  conversationId := sampleConversation
  expectedConversationRevision := 1
  runtimeSessionId := sampleSession
  expectedRuntimeSessionRevision := 2
  turnId := sampleTurn
  expectedTurnRevision := 1

def sampleCommand : CommandIdentity := ⟨"reconcile", sampleDigest⟩

/-- The turn of a succeeded attempt, whose terminalization is pending, is failed once the
death of its process is recorded. -/
theorem succeeded_turn_is_reconciled :
    Run (AttemptStep sampleHost) sampleStore (sampleDispatch ++ sampleEnd) provedStore ∧
    recordProcessGenerationDeath 3 sampleExit 5 provedStore
      = .ok (.applied ⟨4, .dead, 5⟩, interruptedStore) ∧
    (readPendingConversationTerminalization sampleConversation interruptedStore).map
      (Option.map (·.attemptId)) = .ok (some sampleAttempt) ∧
    (interruptedStore.providerAttempts.find? sampleAttempt).map (·.state) = some .succeeded ∧
    (interruptedStore.turns.find? sampleTurn).map (·.status) = some .active ∧
    ∃ after, reconcileStrandedConversationTurn sampleCommand sampleReconciliation 6
        interruptedStore = .ok (.applied 2, after) ∧
      (after.turns.find? sampleTurn).map (·.status) = some .failed :=
  ⟨sampleDispatch_run.append sampleEnd_run, rfl, rfl, rfl, rfl, _, rfl, rfl⟩

/-- The same run under the equivalence: its recorded success is the effect. -/
theorem reconciled_turn_had_effect : ¬NoProviderEffect interruptedStore sampleTurn := by
  have run : Run (AttemptStep sampleHost) sampleStore (sampleDispatch ++ sampleEnd ++ [.other])
      interruptedStore :=
    (sampleDispatch_run.append sampleEnd_run).append (.single ⟨rfl, rfl⟩)
  obtain ⟨_, _, iff⟩ :=
    reconciliation_discards_no_effect_iff sampleHost sampleStore interruptedStore _ _ rfl rfl run
      sampleCommand sampleReconciliation 6 2 rfl
  intro harmless
  have outcome := iff.mp harmless ⟨sampleProof, 4⟩ (.head _)
    (evidencedAttempt sampleProof 3 4 authorizedRow) (.head _) rfl rfl
  cases outcome

end Decodex.Guarantees.StrandedTurns
