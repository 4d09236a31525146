import Decodex.Library.Run
import Decodex.Guarantees.Samples
import Decodex.Source.Store.AgentProcess

/-!
# One live process per account, and death by evidence only

Over every sequence of committed generation operations, each with any arguments, from empty
generation tables, while every other table changes at will between them. The unique index
and the row checks are part of the table type; what the operations add is how one row may
change and that death evidence and dead rows agree.
-/
namespace Decodex.Guarantees.ProcessGenerations

open Decodex.Library
open Decodex.Source.Core Decodex.Source.Store Decodex.Source.Store.ProcessGenerations
open Decodex.Source.Store.AgentProcess
open Decodex.Guarantees.Samples

/-- A committed operation, or a change of other tables. The two callers that commit
`prepare_bound_generation` are the two preparations. -/
inductive GenerationEvent where
  | prepareConversation (outcome : PrepareProcessGenerationOutcome)
  | prepareAgent (outcome : PrepareProcessGenerationOutcome)
  | bindIdentity (outcome : ProcessGenerationMutationOutcome)
  | ready (outcome : ProcessGenerationMutationOutcome)
  | stopping (outcome : ProcessGenerationMutationOutcome)
  | deathUnknown (outcome : ProcessGenerationMutationOutcome)
  | death (outcome : ProcessGenerationMutationOutcome)
  | supervisorLoss (count : Nat)
  | other

def GenerationStep (host : Host) (store : SqliteStore) (event : GenerationEvent)
    (after : SqliteStore) : Prop :=
  match event with
  | .prepareConversation outcome => ∃ intent binding admission epochNow now,
      prepareConversationBoundProcessGeneration intent binding admission epochNow now store
        = .ok (outcome, after)
  | .prepareAgent outcome => ∃ intent binding rootId operationKey epochNow now bindingNow,
      prepareAgentBoundProcessGeneration host intent binding rootId operationKey epochNow now
        bindingNow store = .ok (outcome, after)
  | .bindIdentity outcome => ∃ generationId expectedRevision identity now,
      bindProcessGenerationIdentity generationId expectedRevision identity now store
        = .ok (outcome, after)
  | .ready outcome => ∃ generationId expectedRevision now,
      markProcessGenerationReady generationId expectedRevision now store = .ok (outcome, after)
  | .stopping outcome => ∃ generationId expectedRevision now,
      markProcessGenerationStopping generationId expectedRevision now store
        = .ok (outcome, after)
  | .deathUnknown outcome => ∃ generationId expectedRevision reason now,
      markProcessGenerationDeathUnknown generationId expectedRevision reason now store
        = .ok (outcome, after)
  | .death outcome => ∃ expectedRevision evidence now,
      recordProcessGenerationDeath expectedRevision evidence now store = .ok (outcome, after)
  | .supervisorLoss count => ∃ now,
      projectProcessGenerationsAfterSupervisorLoss now store = .ok (count, after)
  | .other =>
      after.processGenerations = store.processGenerations ∧
        after.deathEvidence = store.deathEvidence

theorem generationStep_change {host : Host} {store after : SqliteStore} {event : GenerationEvent}
    (step : GenerationStep host store event after) : GenerationChange store after := by
  cases event with
  | prepareConversation =>
    obtain ⟨_, _, _, _, _, success⟩ := step
    exact prepareConversationBound_change success
  | prepareAgent =>
    obtain ⟨_, _, _, _, _, _, _, success⟩ := step
    exact prepareAgentBound_change success
  | bindIdentity =>
    obtain ⟨_, _, _, _, success⟩ := step
    exact bindProcessGenerationIdentity_change success
  | ready =>
    obtain ⟨_, _, _, success⟩ := step
    exact transitionGeneration_change success (by decide) ⟨nofun, nofun⟩ fun _ => rfl
  | stopping =>
    obtain ⟨_, _, _, success⟩ := step
    exact transitionGeneration_change success (by decide) ⟨nofun, nofun⟩ nofun
  | deathUnknown =>
    obtain ⟨_, _, _, _, success⟩ := step
    exact markProcessGenerationDeathUnknown_change success
  | death =>
    obtain ⟨_, _, _, success⟩ := step
    exact recordProcessGenerationDeath_change success
  | supervisorLoss =>
    obtain ⟨_, success⟩ := step
    exact projectProcessGenerations_change success
  | other => exact .kept step.1 step.2

/-- What no sequence of operations does to a row. -/
structure RowHistory (before after : ProcessGenerationRow) : Prop where
  dead : before.generation.state = .dead → after = before
  identity : ∀ identity, before.generation.processIdentity = some identity →
    after.generation.processIdentity = some identity
  ready : after.generation.state = .ready →
    before.generation.state = .ready ∨ before.generation.state = .starting
  starting : after.generation.state = .starting → before.generation.state = .starting

theorem RowHistory.refl (row : ProcessGenerationRow) : RowHistory row row :=
  ⟨fun _ => rfl, fun _ h => h, .inl, id⟩

theorem RowHistory.trans {a b c : ProcessGenerationRow} (first : RowHistory a b)
    (second : RowHistory b c) : RowHistory a c where
  dead h := by
    have same := first.dead h
    subst same
    exact second.dead h
  identity i h := second.identity i (first.identity i h)
  ready h := by
    rcases second.ready h with ready | starting
    · exact first.ready ready
    · exact .inr (first.starting starting)
  starting h := first.starting (second.starting h)

theorem rowHistory_of_liveMove {row : ProcessGenerationRow} {generation : ProcessGeneration}
    (move : LiveMove row.generation generation) : RowHistory row { row with generation } := by
  cases move with
  | bound identity revision now starting unbound boot =>
    refine ⟨fun dead => ?_, fun other h => ?_, fun h => .inl h, fun h => h⟩
    · rw [starting] at dead
      cases dead
    · rw [unbound] at h
      cases h
  | moved target reason revision now live stays ready =>
    exact ⟨fun dead => (live dead).elim, fun _ h => h, fun h => .inr (ready h),
      fun h => (stays.2 h).elim⟩

/-- One step seen from a row that is there. -/
theorem generationChange_row {store after : SqliteStore} (change : GenerationChange store after)
    {id : ProcessGenerationId} {row : ProcessGenerationRow}
    (found : store.processGenerations.find? id = some row) :
    ∃ row', after.processGenerations.find? id = some row' ∧ RowHistory row row' := by
  cases change with
  | kept generations evidence => exact ⟨row, by rw [generations]; exact found, .refl row⟩
  | started new inserted starting evidence =>
    have view := Table.find?_insert inserted id
    have old : new.generation.generationId ≠ id := by
      intro same
      have fresh := Table.insert_fresh inserted
      rw [processGenerations_key, same, found] at fresh
      cases fresh
    rw [processGenerations_key, if_neg old] at view
    exact ⟨row, view.trans found, .refl row⟩
  | updated target current change currentFound move updated keeps evidence =>
    have view := Table.find?_updateKey updated (fun row => keeps row.generation) id
    by_cases here : id = target
    · subst here
      rw [found] at currentFound
      cases currentFound
      exact ⟨_, by simp [view, found], rowHistory_of_liveMove move⟩
    · rw [if_neg here] at view
      exact ⟨row, view.trans found, .refl row⟩
  | restarted now updated evidence =>
    have view := Table.find?_updateWhere updated (fun _ _ => rfl) id
    rw [found, Option.map_some] at view
    refine ⟨_, view, ?_⟩
    split
    · rename_i loses
      have live : row.generation.state ≠ .dead := by
        simp only [losesSupervisor, Bool.and_eq_true, bne_iff_ne] at loses
        exact loses.1
      refine ⟨fun dead => (live dead).elim, fun _ h => h, ?_, ?_⟩ <;>
        simp [supervisorRestarted]
    · exact .refl row
  | died evidence current revision now currentFound live identity inserted updated =>
    have view := Table.find?_updateKey updated (fun _ => rfl) id
    by_cases here : id = evidence.generationId
    · subst here
      rw [found] at currentFound
      cases currentFound
      exact ⟨{ row with generation := deadGeneration evidence revision now row.generation },
        by simp [view, found], fun dead => (live dead).elim, fun _ h => h, by simp [deadGeneration],
        by simp [deadGeneration]⟩
    · rw [if_neg here] at view
      exact ⟨row, view.trans found, .refl row⟩

/-- Every row of the first state has a history that ends in the second. -/
def Histories (before after : SqliteStore) : Prop :=
  ∀ id row, before.processGenerations.find? id = some row →
    ∃ row', after.processGenerations.find? id = some row' ∧ RowHistory row row'

theorem Histories.trans (a b c : SqliteStore) (first : Histories a b) (second : Histories b c) :
    Histories a c := by
  intro id row found
  obtain ⟨next, nextFound, one⟩ := first id row found
  obtain ⟨last, lastFound, two⟩ := second id next nextFound
  exact ⟨last, lastFound, one.trans two⟩

theorem generationStep_histories (host : Host) (store : SqliteStore) (event : GenerationEvent)
    (after : SqliteStore) (step : GenerationStep host store event after) :
    Histories store after :=
  fun _ _ found => generationChange_row (generationStep_change step) found

theorem generation_history {host : Host} {middle store : SqliteStore}
    {events : List GenerationEvent} (run : Run (GenerationStep host) middle events store) :
    Histories middle store :=
  Run.relates (fun _ _ row found => ⟨row, found, .refl row⟩) Histories.trans
    (generationStep_histories host) run

/-- The evidence row is the proof a dead row names: it carries exactly the identity of the
generation, absent or not, or it proves that the intended boot has ended. -/
structure ProvesDeath (evidence : ProcessDeathEvidence) (generation : ProcessGeneration) : Prop where
  dead : generation.state = .dead
  named : generation.deathEvidenceId = some evidence.evidenceId
  identity : evidence.processIdentity = generation.processIdentity ∨
    (evidence.kind = .priorBootEnded ∧ evidence.processIdentity = none ∧
      evidence.observedBootId ≠ generation.intendedBootId)

structure DeathAgrees (store : SqliteStore) : Prop where
  owned : ∀ row ∈ store.deathEvidence.rows, ∃ generation,
    store.processGenerations.find? row.evidence.generationId = some generation ∧
      ProvesDeath row.evidence generation.generation
  proved : ∀ id row, store.processGenerations.find? id = some row →
    row.generation.state = .dead →
    ∃ evidence ∈ store.deathEvidence.rows, evidence.evidence.generationId = id

theorem provesDeath_of_matches {evidence : ProcessDeathEvidence} {generation : ProcessGeneration}
    (identity : deathIdentityMatches evidence generation = true) (revision now : Int) :
    ProvesDeath evidence (deadGeneration evidence revision now generation) where
  dead := rfl
  named := rfl
  identity := by
    unfold deathIdentityMatches at identity
    split at identity
    · rename_i kind
      simp only [Bool.and_eq_true, Option.isNone_iff_eq_none, bne_iff_ne] at identity
      exact .inr ⟨kind, identity⟩
    · exact .inl (beq_iff_eq.mp identity)

/-- A step that stores no evidence keeps the agreement when it kills no row. -/
theorem deathAgrees_of_live {store after : SqliteStore} (agrees : DeathAgrees store)
    (change : GenerationChange store after) (same : after.deathEvidence = store.deathEvidence)
    (back : ∀ id row, after.processGenerations.find? id = some row →
      row.generation.state = .dead → store.processGenerations.find? id = some row) :
    DeathAgrees after := by
  constructor
  · intro row member
    rw [same] at member
    obtain ⟨generation, found, proves⟩ := agrees.owned row member
    obtain ⟨later, laterFound, history⟩ := generationChange_row change found
    rw [history.dead proves.dead] at laterFound
    exact ⟨generation, laterFound, proves⟩
  · intro id row found dead
    rw [same]
    exact agrees.proved id row (back id row found dead) dead

theorem generationChange_agrees {store after : SqliteStore} (agrees : DeathAgrees store)
    (change : GenerationChange store after) : DeathAgrees after := by
  cases change with
  | kept generations evidence =>
    refine deathAgrees_of_live agrees (.kept generations evidence) evidence fun id row found _ => ?_
    rwa [generations] at found
  | started new inserted starting evidence =>
    refine deathAgrees_of_live agrees (.started new inserted starting evidence) evidence
      fun id row found dead => ?_
    rw [Table.find?_insert inserted] at found
    split at found
    · cases found
      rw [starting] at dead
      cases dead
    · exact found
  | updated target current change currentFound move updated keeps evidence =>
    refine deathAgrees_of_live agrees
      (.updated target current change currentFound move updated keeps evidence) evidence
      fun id row found dead => ?_
    rw [Table.find?_updateKey updated fun row => keeps row.generation] at found
    split at found
    · rename_i here
      subst here
      rw [currentFound] at found
      cases found
      dsimp only at dead
      generalize change current.generation = generation at move dead
      cases move with
      | bound identity revision now starting unbound boot =>
        cases starting.symm.trans dead
      | moved next reason revision now live stays ready => exact (stays.1 dead).elim
    · exact found
  | restarted now updated evidence =>
    refine deathAgrees_of_live agrees (.restarted now updated evidence) evidence
      fun id row found dead => ?_
    rw [Table.find?_updateWhere updated fun _ _ => rfl, Option.map_eq_some_iff] at found
    obtain ⟨old, oldFound, rfl⟩ := found
    split at dead
    · cases dead
    · rename_i kept
      simpa [kept] using oldFound
  | died evidence current revision now currentFound live identity inserted updated =>
    have view := Table.find?_updateKey updated fun _ => rfl
    have stored := Table.insert_rows inserted
    constructor
    · intro row member
      rw [stored, List.mem_append, List.mem_singleton] at member
      rw [view]
      rcases member with old | rfl
      · obtain ⟨generation, found, proves⟩ := agrees.owned row old
        have differ : row.evidence.generationId ≠ evidence.generationId := by
          intro same
          rw [same, currentFound] at found
          cases found
          exact live proves.dead
        rw [if_neg differ]
        exact ⟨generation, found, proves⟩
      · exact ⟨{ current with
            generation := deadGeneration evidence revision now current.generation },
          by simp [currentFound], provesDeath_of_matches identity revision now⟩
    · intro id row found dead
      rw [stored]
      rw [view] at found
      by_cases here : id = evidence.generationId
      · exact ⟨⟨evidence, now⟩, by simp, here.symm⟩
      · rw [if_neg here] at found
        obtain ⟨old, member, names⟩ := agrees.proved id row found dead
        exact ⟨old, List.mem_append_left _ member, names⟩

theorem generationStep_agrees (host : Host) (store : SqliteStore) (event : GenerationEvent)
    (after : SqliteStore) (step : GenerationStep host store event after)
    (agrees : DeathAgrees store) : DeathAgrees after :=
  generationChange_agrees agrees (generationStep_change step)

/-- In an agreeing store a generation is dead exactly when its one evidence row exists, and
that row is the one it names. -/
theorem DeathAgrees.exact {store : SqliteStore} (agrees : DeathAgrees store)
    {id : ProcessGenerationId} {row : ProcessGenerationRow}
    (found : store.processGenerations.find? id = some row) :
    (row.generation.state = .dead ↔
      ∃ death ∈ store.deathEvidence.rows, death.evidence.generationId = id) ∧
    ∀ death ∈ store.deathEvidence.rows, death.evidence.generationId = id →
      ProvesDeath death.evidence row.generation ∧
        ∀ other ∈ store.deathEvidence.rows, other.evidence.generationId = id → other = death := by
  have proves : ∀ death ∈ store.deathEvidence.rows, death.evidence.generationId = id →
      ProvesDeath death.evidence row.generation := by
    intro death member names
    obtain ⟨owner, ownerFound, proves⟩ := agrees.owned death member
    rw [names, found] at ownerFound
    cases ownerFound
    exact proves
  refine ⟨⟨agrees.proved id row found, ?_⟩, fun death member names => ?_⟩
  · rintro ⟨death, member, names⟩
    exact (proves death member names).dead
  · refine ⟨proves death member names, fun other otherMember otherNames => ?_⟩
    by_contra differ
    have distinct := (store.deathEvidence.distinct.forall otherMember member differ).2.1
    simp [deathEvidence, otherNames, names] at distinct

/-- `one_quarantining_process_generation_per_account`. -/
theorem one_live_generation_per_account {store : SqliteStore} {a b : ProcessGenerationRow}
    (ha : a ∈ store.processGenerations.rows) (hb : b ∈ store.processGenerations.rows)
    (aLive : a.generation.state ≠ .dead) (bLive : b.generation.state ≠ .dead)
    (same : a.generation.accountId = b.generation.accountId) : a = b := by
  by_contra differ
  have distinct := (store.processGenerations.distinct.forall ha hb differ).2.1
  simp [processGenerations, aLive, bLive, same] at distinct

/-- The row checks on identity and authority loss. -/
theorem generation_checked {store : SqliteStore} {row : ProcessGenerationRow}
    (member : row ∈ store.processGenerations.rows) :
    (row.generation.state = .ready ∨ row.generation.state = .stopping →
      row.generation.processIdentity.isSome = true) ∧
    (row.generation.state = .deathUnknown ↔
      row.generation.authorityLossReason.isSome = true) := by
  have checked := store.processGenerations.checked row member
  simp only [processGenerations, Bool.and_eq_true, Bool.or_eq_true, beq_iff_eq, Bool.not_eq_true',
    Bool.or_eq_false_iff] at checked
  obtain ⟨⟨⟨⟨⟨_, identity⟩, loss⟩, _⟩, _⟩, _⟩ := checked
  constructor
  · intro busy
    rcases identity with ⟨notReady, notStopping⟩ | bound
    · rcases busy with h | h <;> simp [h] at notReady notStopping
    · exact bound
  · rw [← loss]
    exact beq_iff_eq.symm

/-- Over every run from empty generation tables and every state `middle` it passes: each
account has at most one generation that is not dead; a dead row never changes, a bound
identity stays, and only a starting generation becomes ready; ready and stopping rows have
an identity; authority loss is recorded exactly while death is unknown; and a generation is
dead exactly when its one evidence row exists, which it names and which carries its identity
or proves its boot ended. -/
theorem processGenerations_keep_their_contract (host : Host) (start middle store : SqliteStore)
    (earlier later : List GenerationEvent)
    (noGenerations : start.processGenerations.rows = [])
    (noEvidence : start.deathEvidence.rows = [])
    (before : Run (GenerationStep host) start earlier middle)
    (after : Run (GenerationStep host) middle later store) :
    (∀ a ∈ store.processGenerations.rows, ∀ b ∈ store.processGenerations.rows,
      a.generation.state ≠ .dead → b.generation.state ≠ .dead →
      a.generation.accountId = b.generation.accountId → a = b) ∧
    (∀ id row, middle.processGenerations.find? id = some row →
      ∃ row', store.processGenerations.find? id = some row' ∧
        (row.generation.state = .dead → row' = row) ∧
        (∀ identity, row.generation.processIdentity = some identity →
          row'.generation.processIdentity = some identity) ∧
        (row'.generation.state = .ready →
          row.generation.state = .ready ∨ row.generation.state = .starting)) ∧
    ∀ id row, store.processGenerations.find? id = some row →
      (row.generation.state = .ready ∨ row.generation.state = .stopping →
        row.generation.processIdentity.isSome = true) ∧
      (row.generation.state = .deathUnknown ↔
        row.generation.authorityLossReason.isSome = true) ∧
      (row.generation.state = .dead ↔
        ∃ death ∈ store.deathEvidence.rows, death.evidence.generationId = id) ∧
      ∀ death ∈ store.deathEvidence.rows, death.evidence.generationId = id →
        ProvesDeath death.evidence row.generation ∧
          ∀ other ∈ store.deathEvidence.rows, other.evidence.generationId = id →
            other = death := by
  refine ⟨fun a ha b hb aLive bLive same =>
    one_live_generation_per_account ha hb aLive bLive same, fun id row found => ?_,
    fun id row found => ?_⟩
  · obtain ⟨row', found', history⟩ := generation_history after id row found
    exact ⟨row', found', history.dead, history.identity, history.ready⟩
  · have initial : DeathAgrees start := by
      constructor
      · intro row member
        rw [noEvidence] at member
        cases member
      · intro id row found
        have := Table.mem_of_find? found
        rw [noGenerations] at this
        cases this
    have agrees := Run.invariant (generationStep_agrees host) (before.append after) initial
    obtain ⟨identity, loss⟩ := generation_checked (Table.mem_of_find? found)
    exact ⟨identity, loss, agrees.exact found⟩

def sampleBinding : ProcessGenerationAccountBinding where
  accountRevision := 1
  credential := ⟨.v1, 1, sampleDigest, "provider", sampleEpoch⟩
  refreshCallbackProfileSha256 := sampleDigest

def sampleIntent : ProcessGenerationIntent where
  generationId := sampleGeneration
  accountId := sampleAccount
  runnerIdentity :=
    ⟨"sha256:bbbbbbbbbbbbbbbbbbbbbbbbbbbbbbbbbbbbbbbbbbbbbbbbbbbbbbbbbbbbbbbb", by decide⟩
  intendedBootId := ⟨"boot-2", by decide⟩
  controlKind := .stdioOnlyBestEffortEof
  isolationKind := .session
  executionAuthorization := ⟨sampleEpoch, sampleDigest⟩

/-- One usable account and the receipt of one admitted process. -/
def sampleStore : SqliteStore :=
  { SqliteStore.empty with
    runtimeSessions := ⟨[⟨sampleSession, sampleConversation, sampleAccount, 1, none, .starting,
      none, none, none, none, false, 1, 1, 1, none⟩], by decide, by decide⟩
    runtimeCommandReceipts := ⟨[⟨"admission", sampleDigest, "prepare_quick_task_process_generation",
      sampleGeneration.text, .other "", 1⟩], by decide, by decide⟩
    accounts := ⟨[⟨sampleAccount, true, 1, .exact, none⟩], by decide, by decide⟩
    accountCredentials := ⟨[⟨sampleAccount, 1, 1, sampleDigest, sampleEpoch, "provider"⟩],
      by decide, by decide⟩
    accountCapability := some ⟨sampleDigest, true, true⟩ }

def startedRow : ProcessGenerationRow :=
  startingRow sampleIntent sampleBinding (some sampleSession) (some "admission") 3

def startedStore : SqliteStore :=
  { sampleStore with
    processExecutionEpochs := ⟨[⟨sampleEpoch, sampleDigest, 2⟩], by decide, by decide⟩
    processGenerations := ⟨[startedRow], by decide, by decide⟩ }

def sampleDeath : ProcessDeathEvidence where
  evidenceId := ⟨"90000000-0000-4000-8000-000000000002", by decide⟩
  generationId := sampleGeneration
  kind := .spawnNotCreated
  observedBootId := ⟨"boot-2", by decide⟩
  processIdentity := none
  witnessDigest := sampleDigest

def deadStore : SqliteStore :=
  { startedStore with
    deathEvidence := ⟨[⟨sampleDeath, 4⟩], by decide, by decide⟩
    processGenerations := ⟨[{ startedRow with
      generation := deadGeneration sampleDeath 2 4 startedRow.generation }], by decide, by decide⟩ }

theorem sampleStart_run :
    Run (GenerationStep sampleHost) sampleStore
      [.prepareConversation (.fresh ⟨sampleGeneration, 1, 3⟩)] startedStore :=
  .single ⟨sampleIntent, sampleBinding,
    ⟨"admission", sampleDigest, sampleGeneration, sampleAccount, sampleSession⟩, 2, 3, rfl⟩

theorem sampleDeath_run :
    Run (GenerationStep sampleHost) startedStore [.death (.applied ⟨2, .dead, 4⟩)] deadStore :=
  .single ⟨1, sampleDeath, 4, rfl⟩

/-- A started and proved dead process is named by its one evidence row. -/
theorem sample_generation_died_by_evidence :
    ∃ death ∈ deadStore.deathEvidence.rows, death.evidence.generationId = sampleGeneration := by
  obtain ⟨_, _, rows⟩ :=
    processGenerations_keep_their_contract sampleHost sampleStore startedStore deadStore _ _ rfl rfl
      sampleStart_run sampleDeath_run
  obtain ⟨_, _, died, _⟩ := rows sampleGeneration _ rfl
  exact died.mp rfl

end Decodex.Guarantees.ProcessGenerations
