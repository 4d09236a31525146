import Decodex.Guarantees.RoutingSnapshots
import Decodex.Guarantees.Samples
import Decodex.Library.Run

/-!
# Initial routes are decided once and replay exactly

What is stored of a route reads back as it was, unless a position needs more than 63 bits, which
no accepted snapshot has; the stored quota classification is the kernel's; and over every run of
calls a conversation has one initial decision, which a repeated call and a reader both return.
-/
namespace Decodex.Guarantees.ConversationRouting

open Decodex.Library
open Decodex.Source.Core Decodex.Source.Core.Routing
open Decodex.Source.Store Decodex.Source.Store.RoutingJson Decodex.Source.Store.ConversationRouting
open Decodex.Guarantees.Samples
open Decodex.Guarantees.Routing Decodex.Guarantees.RoutingSnapshots

section Accepted

variable {snapshot : AccountRegistryRoutingSnapshot} {now : Int}
  {decision : AccountRegistryRoutingDecision}

theorem kernel_ok {α : Type} {step : Except AccountRegistryRoutingKernelError α} {value : α} :
    kernel step = .ok value ↔ step = .ok value := by
  cases step <;> simp [kernel]

/-- What an accepted call has validated. -/
theorem accepted_parts (accepted : decideAccountRegistryRouting snapshot now = .ok decision) :
    validateAccountRegistrySnapshotMembers snapshot now = .ok () ∧
      validateQuotaFacts snapshot.members [] snapshot.quotaFacts = .ok () := by
  rw [decideAccountRegistryRouting_eq] at accepted
  obtain ⟨found, validated, _⟩ := bind_ok accepted
  unfold validatedAccountRegistryQuotaFacts at validated
  obtain ⟨_, members, validated⟩ := bind_ok validated
  obtain ⟨_, facts, _⟩ := bind_ok validated
  exact ⟨kernel_ok.mp members, kernel_ok.mp facts⟩

/-- Each validated fact is valid, and none after it has its account and window. -/
theorem validateQuotaFacts_spec {members : List AccountRegistryRoutingMember}
    {facts : List AccountRegistryQuotaFact} :
    ∀ {prior}, validateQuotaFacts members prior facts = .ok () →
      (∀ fact ∈ facts, WellFormedFact fact) ∧
        (∀ fact ∈ facts, factKey fact ∉ prior.map factKey) ∧ (facts.map factKey).Nodup := by
  induction facts with
  | nil =>
    intro prior _
    exact ⟨by simp, by simp, List.nodup_nil⟩
  | cons fact rest ih =>
    intro prior valid
    unfold validateQuotaFacts at valid
    split at valid
    · cases valid
    split at valid
    · cases valid
    rename_i duration
    split at valid
    · cases valid
    rename_i fresh
    obtain ⟨_, observed, valid⟩ := bind_ok valid
    obtain ⟨formed, apart, distinct⟩ := ih valid
    have absent : factKey fact ∉ prior.map factKey := by
      intro listed
      obtain ⟨other, known, same⟩ := List.mem_map.mp listed
      apply fresh
      obtain ⟨account, window⟩ := Prod.mk.inj same
      exact List.any_eq_true.mpr ⟨other, known, by simp [account, window]⟩
    refine ⟨?_, ?_, ?_⟩
    · rw [List.forall_mem_cons]
      exact ⟨⟨not_not.mp duration, observed⟩, formed⟩
    · rw [List.forall_mem_cons]
      refine ⟨absent, fun other listed known => apart other listed ?_⟩
      rw [List.map_append]
      exact List.mem_append_left _ known
    · rw [List.map_cons, List.nodup_cons]
      refine ⟨fun listed => ?_, distinct⟩
      obtain ⟨other, known, same⟩ := List.mem_map.mp listed
      apply apart other known
      rw [same, List.map_append]
      exact List.mem_append_right _ (List.mem_singleton_self _)

/-- A fact of an accepted snapshot is the one found for its account and window. -/
theorem windowFact_of_mem (accepted : decideAccountRegistryRouting snapshot now = .ok decision)
    {fact : AccountRegistryQuotaFact} (listed : fact ∈ snapshot.quotaFacts) :
    findQuotaFact? snapshot.quotaFacts fact.accountId fact.window = some fact := by
  obtain ⟨_, _, distinct⟩ := validateQuotaFacts_spec (accepted_parts accepted).2
  obtain ⟨found, located⟩ := findQuotaFact_of_key (List.mem_map_of_mem (f := factKey) listed)
  have key : factKey found = factKey fact := by
    have := List.find?_some located
    simp only [Bool.and_eq_true, beq_iff_eq] at this
    exact Prod.ext this.1 this.2
  rw [located, List.inj_on_of_nodup_map distinct (List.mem_of_find?_eq_some located) listed key]

/-- Each candidate of an accepted snapshot has a fact for each window. -/
theorem accepted_windowFact (accepted : decideAccountRegistryRouting snapshot now = .ok decision)
    {member : AccountRegistryRoutingMember} (candidate : member ∈ candidates snapshot)
    (window : QuotaWindowClass) : ∃ fact, WindowFact snapshot member window fact := by
  obtain ⟨evaluated, names, facts, _⟩ := decide_evaluated snapshot now accepted
  rw [← names] at candidate
  obtain ⟨entry, known, rfl⟩ := List.mem_map.mp candidate
  cases window with
  | fiveHour => exact ⟨_, (facts entry known).1⟩
  | sevenDay => exact ⟨_, (facts entry known).2⟩

theorem factComplete_iff (fact : AccountRegistryQuotaFact) :
    factComplete now fact = true ↔ HasCapacity now fact.observation := by
  unfold factComplete accountRegistryQuotaFreshnessMicros
  cases fact.observation with
  | missing => simp [HasCapacity]
  | observationError error observedAt => simp [HasCapacity]
  | notApplicable observedAt => simp [HasCapacity, Recent]
  | current used observedAt resetsAt =>
    simp only [HasCapacity, Recent, Bool.and_eq_true, decide_eq_true_eq]
    omega

/-- All facts of an account are complete when each window found for it has capacity. -/
theorem all_complete_iff (accepted : decideAccountRegistryRouting snapshot now = .ok decision)
    (account : AccountId) :
    (snapshot.quotaFacts.filter (·.accountId == account)).all (factComplete now) = true ↔
      ∀ window fact, findQuotaFact? snapshot.quotaFacts account window = some fact →
        HasCapacity now fact.observation := by
  simp only [List.all_eq_true, List.mem_filter, beq_iff_eq, factComplete_iff]
  constructor
  · intro complete window fact found
    have named := List.find?_some found
    simp only [Bool.and_eq_true, beq_iff_eq] at named
    exact complete fact ⟨List.mem_of_find?_eq_some found, named.1⟩
  · rintro capacity fact ⟨listed, rfl⟩
    exact capacity fact.window fact (windowFact_of_mem accepted listed)

/-- The kernel's classification of a candidate that a decision selected. -/
def SelectedAvailable (snapshot : AccountRegistryRoutingSnapshot) (now : Int)
    (decision : AccountRegistryRoutingDecision) : Prop :=
  ∃ member ∈ candidates snapshot, decision.selectedAccountId = some member.accountId ∧
    ∃ pair, WindowFact snapshot member .fiveHour pair.1 ∧ WindowFact snapshot member .sevenDay pair.2 ∧
      classifyAccountRegistryMember member pair now = .knownAvailable

theorem selectedAvailable_iff : SelectedAvailable snapshot now decision ↔
    ∃ member ∈ candidates snapshot, decision.selectedAccountId = some member.accountId ∧
      Available snapshot now member := by
  constructor
  · rintro ⟨member, candidate, selected, pair, five, seven, known⟩
    exact ⟨member, candidate, selected, (knownAvailable_iff ⟨five, seven⟩).mp known⟩
  · rintro ⟨member, candidate, selected, available⟩
    obtain ⟨fiveFact, five, _⟩ := available.2 .fiveHour
    obtain ⟨sevenFact, seven, _⟩ := available.2 .sevenDay
    have facts : WindowFact snapshot member .fiveHour (fiveFact, sevenFact).1 ∧
        WindowFact snapshot member .sevenDay (fiveFact, sevenFact).2 := ⟨five, seven⟩
    exact ⟨member, candidate, selected, (fiveFact, sevenFact), five, seven,
      (knownAvailable_iff facts).mpr available⟩

/-- The stored classification says that the selected account is known to be available exactly when
the kernel took it to be. -/
theorem quotaClassification_iff
    (accepted : decideAccountRegistryRouting snapshot snapshot.resolvedAtMicros = .ok decision) :
    quotaClassification decision snapshot = "known_available" ↔
      SelectedAvailable snapshot snapshot.resolvedAtMicros decision := by
  rw [selectedAvailable_iff]
  obtain ⟨_, outcome⟩ := decide_outcome snapshot snapshot.resolvedAtMicros accepted
  unfold quotaClassification
  rcases outcome with first | ⟨unavailable, first⟩ | ⟨_, kind, nothing, _⟩
  · obtain ⟨before, member, after, split, available, _, selects, selected, _⟩ := first
    rw [selects, selected, if_neg (by decide)]
    have complete := (all_complete_iff accepted member.accountId).mpr fun window fact found => by
      obtain ⟨other, located, capacity⟩ := available.2 window
      rw [Option.some.inj (found.symm.trans located)]
      exact capacity
    dsimp only
    rw [if_pos complete]
    have candidate : member ∈ candidates snapshot := by simp [split]
    exact ⟨fun _ => ⟨member, candidate, rfl, available⟩, fun _ => rfl⟩
  · obtain ⟨before, member, after, split, isOpen, _, selects, selected, _⟩ := first
    rw [selects, selected, if_neg (by decide)]
    have candidate : member ∈ candidates snapshot := by simp [split]
    constructor
    · intro named
      dsimp only at named
      split at named
      · rename_i complete
        refine absurd ?_ (unavailable member candidate)
        have capacity := (all_complete_iff accepted member.accountId).mp complete
        refine ⟨?_, fun window => ?_⟩
        · by_contra blocked
          exact isOpen (.inl (.inl blocked))
        · obtain ⟨fact, found⟩ := accepted_windowFact accepted candidate window
          exact ⟨fact, found, capacity window fact found⟩
      · exact absurd named (by decide)
    · rintro ⟨other, known, _, available⟩
      exact absurd available (unavailable other known)
  · obtain ⟨_, selected, _⟩ := nothing
    rw [selected]
    constructor
    · intro named
      split at named
      · exact absurd named (by decide)
      · dsimp only at named
        exact absurd named (by decide)
    · rintro ⟨_, _, same, _⟩
      cases same

theorem timestamp_int64 {instant : Int} (valid : accountRegistryTimestampIsValid instant = true) :
    Json.Int64 instant := by
  unfold accountRegistryTimestampIsValid maxAccountRegistryTimestampMicros at valid
  unfold Json.Int64
  simp only [Bool.and_eq_true, decide_eq_true_eq] at valid
  omega

theorem wellFormedFact_typed {fact : AccountRegistryQuotaFact} (formed : WellFormedFact fact) :
    fact.durationMinutes < 2 ^ 16 ∧ TypedObservation fact.observation := by
  obtain ⟨duration, valid⟩ := formed
  refine ⟨?_, ?_⟩
  · rw [duration]
    cases fact.window <;> decide
  · unfold validateAccountRegistryQuotaObservation at valid
    cases observed : fact.observation with
    | missing => trivial
    | notApplicable observedAt =>
      rw [observed] at valid
      dsimp only at valid
      split at valid
      · cases valid
      split at valid
      · cases valid
      rename_i inRange
      rw [not_or, Bool.not_eq_true, Bool.not_eq_false'] at inRange
      exact timestamp_int64 inRange.2
    | observationError error observedAt =>
      rw [observed] at valid
      dsimp only at valid
      split at valid
      · cases valid
      rename_i inRange
      rw [Bool.not_eq_true, Bool.not_eq_false'] at inRange
      exact timestamp_int64 inRange
    | current used observedAt resetsAt =>
      rw [observed] at valid
      dsimp only at valid
      split at valid
      · cases valid
      rename_i percent
      split at valid
      · cases valid
      rename_i observedValid
      split at valid
      · cases valid
      rename_i resetsValid
      rw [Bool.not_eq_true, Bool.not_eq_false'] at observedValid
      rw [not_or, Bool.not_eq_true, Bool.not_eq_false'] at resetsValid
      exact ⟨by omega, timestamp_int64 observedValid, timestamp_int64 resetsValid.1⟩

/-- Each exclusion of a decision is that of a member and one of its facts. -/
theorem exclusion_origin (accepted : decideAccountRegistryRouting snapshot now = .ok decision)
    {exclusion : AccountRegistryRoutingExclusion} (listed : exclusion ∈ decision.exclusions) :
    ∃ member ∈ snapshot.members, ∃ fact ∈ snapshot.quotaFacts,
      depletionExclusion now member fact = some exclusion := by
  have among : ∀ member ∈ candidates snapshot, member ∈ snapshot.members := by
    intro member candidate
    unfold candidates at candidate
    split at candidate
    · exact candidate
    · exact List.mem_of_find?_eq_some (Option.mem_toList.mp candidate)
  obtain ⟨members, explained, inside⟩ : ∃ members : List AccountRegistryRoutingMember,
      decision.exclusions = members.flatMap (memberExclusions snapshot now) ∧
        ∀ member ∈ members, member ∈ candidates snapshot := by
    obtain ⟨_, outcome⟩ := decide_outcome snapshot now accepted
    rcases outcome with first | ⟨_, first⟩ | ⟨_, _, nothing, _⟩
    · obtain ⟨before, member, after, split, _, _, _, _, explains⟩ := first
      refine ⟨before, explains.2, fun other known => ?_⟩
      rw [split]
      exact List.mem_append_left _ known
    · obtain ⟨before, member, after, split, _, _, _, _, explains⟩ := first
      refine ⟨before, explains.2, fun other known => ?_⟩
      rw [split]
      exact List.mem_append_left _ known
    · exact ⟨_, nothing.2.2.2, fun _ known => known⟩
  rw [explained] at listed
  obtain ⟨member, known, excluded⟩ := List.mem_flatMap.mp listed
  obtain ⟨fact, found, made⟩ := List.mem_filterMap.mp excluded
  obtain ⟨window, _, located⟩ := List.mem_filterMap.mp found
  exact ⟨member, among member (inside member known), fact, List.mem_of_find?_eq_some located, made⟩

/-- An exclusion repeats numbers of the snapshot. -/
theorem depletionExclusion_typed {member : AccountRegistryRoutingMember}
    {fact : AccountRegistryQuotaFact} {exclusion : AccountRegistryRoutingExclusion}
    (made : depletionExclusion now member fact = some exclusion)
    (position : member.position < 2 ^ 64) (formed : WellFormedFact fact) :
    TypedExclusion exclusion ∧ exclusion.memberPosition = member.position := by
  obtain ⟨duration, observation⟩ := wellFormedFact_typed formed
  unfold depletionExclusion at made
  split at made
  · rename_i used observedAt resetsAt observed
    rw [observed] at observation
    split at made
    · cases made
      exact ⟨⟨position, duration, observation.1, observation.2.1, observation.2.2⟩, rfl⟩
    · cases made
  · cases made

end Accepted

/-- The snapshot and the decision of a call: their numbers fit what is stored. -/
structure Storable (snapshot : AccountRegistryRoutingSnapshot)
    (decision : AccountRegistryRoutingDecision) : Prop where
  typed : TypedSnapshot snapshot
  positions : ∀ member ∈ snapshot.members, member.position < 2 ^ 63
  exclusions : ∀ exclusion ∈ decision.exclusions,
    TypedExclusion exclusion ∧ exclusion.memberPosition < 2 ^ 63
  snapshotId : decision.snapshotId = snapshot.snapshotId

theorem storable_of_accepted {snapshot : AccountRegistryRoutingSnapshot} {now : Int}
    {decision : AccountRegistryRoutingDecision}
    (accepted : decideAccountRegistryRouting snapshot now = .ok decision)
    (instant : snapshot.resolvedAtMicros = now)
    (routing : Json.Int64 snapshot.routingRevision)
    (profile : Json.Int64 snapshot.taskRoleProfileRevision)
    (positions : ∀ member ∈ snapshot.members, member.position < 2 ^ 63)
    (revisions : ∀ member ∈ snapshot.members, Json.Int64 member.accountRevision) :
    Storable snapshot decision := by
  obtain ⟨members, facts⟩ := accepted_parts accepted
  obtain ⟨formed, _, _⟩ := validateQuotaFacts_spec facts
  have wide : ∀ member ∈ snapshot.members, member.position < 2 ^ 64 := by
    intro member listed
    have := positions member listed
    omega
  have valid : accountRegistryTimestampIsValid now = true := by
    unfold validateAccountRegistrySnapshotMembers at members
    split at members
    · cases members
    · rename_i decided
      simpa using decided
  refine ⟨⟨routing, profile, ?_, wide, revisions, ?_, ?_⟩, positions, ?_, ?_⟩
  · rw [instant]
    exact timestamp_int64 valid
  · exact fun fact listed => (wellFormedFact_typed (formed fact listed)).1
  · exact fun fact listed => (wellFormedFact_typed (formed fact listed)).2
  · intro exclusion listed
    obtain ⟨member, known, fact, found, made⟩ := exclusion_origin accepted listed
    obtain ⟨typed, same⟩ := depletionExclusion_typed made (wide member known) (formed fact found)
    rw [same]
    exact ⟨typed, positions member known⟩
  · exact (decide_outcome snapshot now accepted).1

/-- The row of a fresh route reads back as that route. -/
theorem routeOfRow_initialRow {request : RouteConversationInitial} {world : RouteWorld}
    {snapshot : AccountRegistryRoutingSnapshot} {decision : AccountRegistryRoutingDecision}
    (storable : Storable snapshot decision) (key requestSha : String)
    (accountRevision : Option Int) :
    routeOfRow (initialRow key requestSha request (freshRoute request world snapshot decision)
      accountRevision) = .ok (freshRoute request world snapshot decision) := by
  have read := (parseSnapshot_ok_iff storable.typed).mpr storable.positions
  have exclusions := (parseExclusions_ok_iff fun exclusion listed =>
    (storable.exclusions exclusion listed).1).mpr fun exclusion listed =>
      (storable.exclusions exclusion listed).2
  unfold routeOfRow initialRow freshRoute
  simp only [execute, read_bind, read, parseDecisionKind_decisionKindText,
    parseCauses_serializeCauses, exclusions]
  rw [← storable.snapshotId]

/-- Accepted members stand at the positions that follow those before them. -/
theorem validateMembers_positions {members : List AccountRegistryRoutingMember} :
    ∀ {prior}, validateMembers prior members = .ok () →
      ∀ member ∈ members, member.position ≤ prior.length + members.length := by
  induction members with
  | nil => simp
  | cons first rest ih =>
    intro prior valid
    unfold validateMembers at valid
    split at valid
    · cases valid
    rename_i placed
    split at valid
    · cases valid
    split at valid
    · cases valid
    obtain ⟨_, _, valid⟩ := bind_ok valid
    rw [List.forall_mem_cons]
    refine ⟨?_, fun member listed => ?_⟩
    · rw [List.length_cons]
      omega
    · have := ih valid member listed
      rw [List.length_append, List.length_singleton] at this
      rw [List.length_cons]
      omega

/-- An accepted snapshot of fewer members than a list can have loses nothing when it is stored. -/
theorem accepted_reads_back {snapshot : AccountRegistryRoutingSnapshot} {now : Int}
    {decision : AccountRegistryRoutingDecision} (typed : TypedSnapshot snapshot)
    (count : snapshot.members.length < 2 ^ 63)
    (accepted : decideAccountRegistryRouting snapshot now = .ok decision) :
    parseSnapshot (serializeSnapshot snapshot) = .ok snapshot ∧
      parseExclusions (serializeExclusions decision.exclusions) = .ok decision.exclusions := by
  obtain ⟨members, facts⟩ := accepted_parts accepted
  obtain ⟨formed, _, _⟩ := validateQuotaFacts_spec facts
  have positions : ∀ member ∈ snapshot.members, member.position < 2 ^ 63 := by
    unfold validateAccountRegistrySnapshotMembers at members
    split at members
    · cases members
    split at members
    · cases members
    split at members
    · cases members
    split at members
    · cases members
    split at members
    · cases members
    intro member listed
    have := validateMembers_positions members member listed
    rw [List.length_nil] at this
    omega
  have exclusions : ∀ exclusion ∈ decision.exclusions,
      TypedExclusion exclusion ∧ exclusion.memberPosition < 2 ^ 63 := by
    intro exclusion listed
    obtain ⟨member, known, fact, found, made⟩ := exclusion_origin accepted listed
    obtain ⟨fits, same⟩ :=
      depletionExclusion_typed made (typed.positions member known) (formed fact found)
    rw [same]
    exact ⟨fits, positions member known⟩
  refine ⟨(parseSnapshot_ok_iff typed).mpr positions, ?_⟩
  rw [parseExclusions_ok_iff fun exclusion listed => (exclusions exclusion listed).1]
  exact fun exclusion listed => (exclusions exclusion listed).2

theorem built_members {snapshotId : String} {routingRevision profileRevision now : Int}
    {mode : AccountSelectionMode} {records : List AccountRecord}
    {snapshot : AccountRegistryRoutingSnapshot}
    (built : buildSnapshot snapshotId routingRevision mode profileRevision now records = .ok snapshot) :
    snapshot.routingRevision = routingRevision ∧ snapshot.taskRoleProfileRevision = profileRevision ∧
      snapshot.resolvedAtMicros = now ∧
      ∀ member ∈ snapshot.members, member.position ≤ records.length ∧
        ∃ record ∈ records, member.accountRevision = record.revision := by
  unfold buildSnapshot at built
  obtain ⟨facts, _, made⟩ := bind_ok built
  cases made
  refine ⟨rfl, rfl, rfl, fun member listed => ?_⟩
  obtain ⟨⟨record, index⟩, known, rfl⟩ := List.mem_map.mp listed
  obtain ⟨_, inside, same⟩ := List.mem_zipIdx known
  refine ⟨?_, record, ?_, rfl⟩
  · change index + 1 ≤ records.length
    omega
  · rw [same]
    exact List.getElem_mem _

theorem registry_revisions {accounts : List StoredAccount} {clock : RegistryClock} {limit : Nat}
    {records : List AccountRecord}
    (read : readAccountRegistrySync accounts clock limit = .ok records) :
    records.length ≤ limit ∧
      ∀ record ∈ records, ∃ account ∈ accounts, record.revision = account.revision := by
  unfold readAccountRegistrySync at read
  split at read
  · cases read
  rename_i bounded
  obtain ⟨same, origins⟩ := mapM_ok_spec (g := AccountRecord.revision) (h := StoredAccount.revision)
    (fun base record made => by
      unfold accountFromBase at made
      obtain ⟨_, _, made⟩ := bind_ok made
      obtain ⟨_, _, made⟩ := bind_ok made
      cases made
      rfl) read
  have lengths := congrArg List.length same
  rw [List.length_map, List.length_map] at lengths
  refine ⟨by omega, fun record listed => ?_⟩
  have revision : record.revision ∈ (registryAccounts accounts).map StoredAccount.revision := by
    rw [← same]
    exact List.mem_map_of_mem listed
  obtain ⟨account, known, equal⟩ := List.mem_map.mp revision
  exact ⟨account, List.mem_of_mem_filter known, equal.symm⟩

/-- The row of a route that a call has decided. -/
def RecordedRow (host : Host) (key : String) (request : RouteConversationInitial)
    (route : ConversationInitialRoute) (row : RoutingDecisionRow) : Prop :=
  row.authorityShape = .conversationAccountRegistry ∧ row.idempotencyKey = key ∧
    row.conversationId = request.conversationId ∧
    row.requestSha256 = routeRequestSha host request ∧
    row.routingDecisionId = route.decisionId ∧ routeOfRow row = .ok route

theorem RecordedRow.initialFor {host : Host} {key : String} {request : RouteConversationInitial}
    {route : ConversationInitialRoute} {row : RoutingDecisionRow}
    (recorded : RecordedRow host key request route row) :
    row.initialFor request.conversationId = true := by
  unfold RoutingDecisionRow.initialFor
  rw [recorded.1, recorded.2.2.1]
  simp

section Call

variable {host : Host} {key : String} {request : RouteConversationInitial} {world : RouteWorld}
  {table after : RoutingDecisions} {outcome : ConversationInitialRouteOutcome}

/-- A call that decides adds the row of its route, the first for the conversation and the key;
every other call leaves the decisions as they were. -/
theorem decideInitialRoute_spec {records : List AccountRecord}
    (read : readAccountRegistrySync world.accounts world.clock 512 = .ok records)
    (call : decideInitialRoute host key request world records table = .ok (outcome, after)) :
    (∃ route row, outcome = .fresh route ∧ table.insert row = some after ∧
      RecordedRow host key request route row) ∨
    (∃ rejection, outcome = .rejected rejection) ∧ after = table := by
  unfold decideInitialRoute at call
  obtain ⟨mode, _, call⟩ := bind_ok call
  obtain ⟨snapshot, built, call⟩ := bind_ok call
  obtain ⟨decision, accepted, call⟩ := bind_ok call
  rw [decided, mapError_ok] at accepted
  dsimp only at call
  split at call
  · cases call
    exact .inr ⟨⟨_, rfl⟩, rfl⟩
  · obtain ⟨written, inserted, call⟩ := bind_ok call
    cases call
    rw [execute_eq_ok] at inserted
    obtain ⟨routing, profile, instant, members⟩ := built_members built
    obtain ⟨bounded, revisions⟩ := registry_revisions read
    have storable : Storable snapshot decision := by
      apply storable_of_accepted accepted instant
      · rw [routing]
        exact world.routingRevisionStored
      · rw [profile]
        exact world.profileRevisionStored
      · intro member listed
        have := (members member listed).1
        omega
      · intro member listed
        obtain ⟨_, record, known, same⟩ := members member listed
        obtain ⟨account, stored, equal⟩ := revisions record known
        rw [same, equal]
        exact world.accountRevisionsStored account stored
    exact .inl ⟨_, _, rfl, inserted, rfl, rfl, rfl, rfl, rfl, routeOfRow_initialRow storable _ _ _⟩

theorem routeNew_spec (call : routeNew host key request world table = .ok (outcome, after)) :
    (∃ route row, outcome = .fresh route ∧ table.insert row = some after ∧
      RecordedRow host key request route row ∧
      table.rows.any (·.initialFor request.conversationId) = false) ∨
    (∃ rejection, outcome = .rejected rejection) ∧ after = table := by
  unfold routeNew at call
  split at call
  · rename_i rejected rejection
    cases call
    refine .inr ⟨?_, rfl⟩
    unfold initialRouteRejection at rejection
    split at rejection
    · cases rejection
      exact ⟨_, rfl⟩
    split at rejection
    · cases rejection
      exact ⟨_, rfl⟩
    split at rejection
    · cases rejection
      exact ⟨_, rfl⟩
    · cases rejection
  · rename_i allowed
    have unbound : table.rows.any (·.initialFor request.conversationId) = false := by
      unfold initialRouteRejection at allowed
      split at allowed
      · cases allowed
      split at allowed
      · cases allowed
      · rename_i unbound
        simpa using unbound
    obtain ⟨records, read, call⟩ := bind_ok call
    split at call
    · cases call
      exact .inr ⟨⟨_, rfl⟩, rfl⟩
    · rcases decideInitialRoute_spec read call with ⟨route, row, fresh, inserted, recorded⟩ | same
      · exact .inl ⟨route, row, fresh, inserted, recorded, unbound⟩
      · exact .inr same

theorem replayedRoutingDecision_some {requestSha decisionId : String}
    (stored : replayedRoutingDecision table key requestSha = .ok (some decisionId)) :
    ∃ row ∈ table.rows, row.idempotencyKey = key ∧ row.requestSha256 = requestSha ∧
      row.routingDecisionId = decisionId := by
  unfold replayedRoutingDecision at stored
  split at stored
  · cases stored
  · rename_i row found
    split at stored
    · cases stored
    · rename_i same
      cases stored
      exact ⟨row, List.mem_of_find?_eq_some found, by simpa using List.find?_some found,
        not_not.mp same, rfl⟩

/-- What a call that succeeded did. -/
theorem route_spec (call : routeConversationInitial host key request world table =
      .ok (outcome, after)) :
    validateKey host key = .ok () ∧ 0 < request.expectedConversationRevision ∧
    ((∃ route row, outcome = .fresh route ∧ table.insert row = some after ∧
      RecordedRow host key request route row ∧
      table.rows.any (·.initialFor request.conversationId) = false) ∨
    (∃ rejection, outcome = .rejected rejection) ∧ after = table ∨
    (∃ route row, outcome = .replayed route ∧ after = table ∧ row ∈ table.rows ∧
      row.authorityShape = .conversationAccountRegistry ∧ row.idempotencyKey = key ∧
      row.requestSha256 = routeRequestSha host request ∧ routeOfRow row = .ok route)) := by
  unfold routeConversationInitial at call
  obtain ⟨_, valid, call⟩ := bind_ok call
  split at call
  · cases call
  rename_i positive
  refine ⟨valid, by omega, ?_⟩
  obtain ⟨replayed, stored, call⟩ := bind_ok call
  cases replayed with
  | none =>
    rcases routeNew_spec call with fresh | same
    · exact .inl fresh
    · exact .inr (.inl same)
  | some decisionId =>
    obtain ⟨route, read, call⟩ := bind_ok call
    cases call
    obtain ⟨row, listed, sameKey, sameSha, named⟩ := replayedRoutingDecision_some stored
    unfold readInitialRouteById at read
    obtain ⟨other, found, read⟩ := bind_ok read
    rw [execute_eq_ok, Option.filter_eq_some_iff, ← named] at found
    have held : table.find? row.routingDecisionId = some row := Table.find?_of_mem listed
    have same : row = other := Option.some.inj (held.symm.trans found.1)
    subst same
    exact .inr (.inr ⟨route, row, rfl, rfl, listed, by simpa using found.2, sameKey, sameSha, read⟩)

end Call

inductive RoutingEvent where
  | routed (key : String) (request : RouteConversationInitial)
      (outcome : ConversationInitialRouteOutcome)
  | bound (key : String) (request : BindConversationContinuation) (outcome : ContinuationOutcome)
  | failed

/-- One call, whatever the rest of the store holds at that time. -/
inductive RoutingStep (host : Host) : RoutingDecisions → RoutingEvent → RoutingDecisions → Prop
  | route {table after key request world outcome}
      (call : routeConversationInitial host key request world table = .ok (outcome, after)) :
      RoutingStep host table (.routed key request outcome) after
  | bind {table after key request world outcome}
      (call : bindConversationContinuation host key request world table = .ok (outcome, after)) :
      RoutingStep host table (.bound key request outcome) after
  | failed {table} : RoutingStep host table .failed table

/-- The event decides the initial route of the conversation. -/
def decides (conversation : ConversationId) : RoutingEvent → Bool
  | .routed _ request (.fresh _) => request.conversationId == conversation
  | _ => false

/-- The calls of a run recorded one initial route for each conversation, and return it since. -/
structure RoutesAreFinal (host : Host) (events : List RoutingEvent) (table : RoutingDecisions) :
    Prop where
  once : ∀ conversation, events.countP (decides conversation) ≤ 1
  single : ∀ conversation, (table.rows.filter (·.initialFor conversation)).length ≤ 1
  replayed : ∀ before key request route later,
    events = before ++ .routed key request (.replayed route) :: later →
      ∃ earlier, .routed key earlier (.fresh route) ∈ before ∧
        routeRequestSha host earlier = routeRequestSha host request
  repeated : ∀ key request route, .routed key request (.fresh route) ∈ events →
    ∀ world, routeConversationInitial host key request world table = .ok (.replayed route, table)
  reread : ∀ conversation route,
    readConversationInitialRoute table conversation = .ok (some route) ↔
      ∃ key request, request.conversationId = conversation ∧
        .routed key request (.fresh route) ∈ events

/-- The initial rows of a table are those of the routes that a run decided. -/
structure Recorded (host : Host) (events : List RoutingEvent) (table : RoutingDecisions) :
    Prop where
  rows : ∀ row ∈ table.rows, row.authorityShape = .conversationAccountRegistry →
    ∃ key request route, .routed key request (.fresh route) ∈ events ∧
      RecordedRow host key request route row
  events : ∀ key request route, .routed key request (.fresh route) ∈ events →
    validateKey host key = .ok () ∧ 0 < request.expectedConversationRevision ∧
      ∃ row ∈ table.rows, RecordedRow host key request route row

section Step

variable {host : Host} {table after : RoutingDecisions} {event : RoutingEvent}

/-- A bound continuation adds a row that is no initial decision. -/
theorem bind_spec {key : String} {request : BindConversationContinuation}
    {world : ContinuationWorld} {outcome : ContinuationOutcome}
    (call : bindConversationContinuation host key request world table = .ok (outcome, after)) :
    after = table ∨ ∃ row, table.insert row = some after ∧
      row.authorityShape = .conversationContinuation := by
  unfold bindConversationContinuation at call
  obtain ⟨_, _, call⟩ := bind_ok call
  split at call
  · cases call
  obtain ⟨replayed, _, call⟩ := bind_ok call
  cases replayed with
  | some decisionId =>
    obtain ⟨_, _, call⟩ := bind_ok call
    cases call
    exact .inl rfl
  | none =>
    dsimp only at call
    unfold bindNew at call
    split at call
    · obtain ⟨written, inserted, call⟩ := bind_ok call
      cases call
      rw [execute_eq_ok] at inserted
      exact .inr ⟨_, inserted, rfl⟩
    · cases call
      exact .inl rfl

/-- The three things a step does to the decisions. -/
theorem step_cases (step : RoutingStep host table event after) :
    (∃ key request route row, event = .routed key request (.fresh route) ∧
      validateKey host key = .ok () ∧ 0 < request.expectedConversationRevision ∧
      table.insert row = some after ∧ RecordedRow host key request route row ∧
      table.rows.any (·.initialFor request.conversationId) = false) ∨
    (∃ row, table.insert row = some after ∧ row.authorityShape = .conversationContinuation ∧
      ∀ key request route, event ≠ .routed key request (.fresh route)) ∨
    (after = table ∧ ∀ key request route, event ≠ .routed key request (.fresh route)) := by
  cases step with
  | @route _ key request _ _ call =>
    obtain ⟨valid, positive, did⟩ := route_spec call
    rcases did with ⟨route, row, rfl, inserted, recorded, unbound⟩ | ⟨⟨_, rfl⟩, rfl⟩ |
      ⟨_, _, rfl, rfl, _⟩
    · exact .inl ⟨key, request, route, row, rfl, valid, positive, inserted, recorded, unbound⟩
    · exact .inr (.inr ⟨rfl, by simp⟩)
    · exact .inr (.inr ⟨rfl, by simp⟩)
  | bind call =>
    rcases bind_spec call with rfl | ⟨row, inserted, shape⟩
    · exact .inr (.inr ⟨rfl, by simp⟩)
    · exact .inr (.inl ⟨row, inserted, shape, by simp⟩)
  | failed => exact .inr (.inr ⟨rfl, by simp⟩)

theorem mem_after_step (step : RoutingStep host table event after) :
    ∀ row ∈ table.rows, row ∈ after.rows := by
  intro row listed
  rcases step_cases step with ⟨_, _, _, _, _, _, _, inserted, _⟩ | ⟨_, inserted, _⟩ | ⟨rfl, _⟩
  · rw [Table.insert_rows inserted]
    exact List.mem_append_left _ listed
  · rw [Table.insert_rows inserted]
    exact List.mem_append_left _ listed
  · exact listed

theorem recorded_step {before : List RoutingEvent} (step : RoutingStep host table event after)
    (recorded : Recorded host before table) : Recorded host (before ++ [event]) after := by
  have kept : ∀ key request route, .routed key request (.fresh route) ∈ before →
      validateKey host key = .ok () ∧ 0 < request.expectedConversationRevision ∧
        ∃ row ∈ after.rows, RecordedRow host key request route row := by
    intro key request route member
    obtain ⟨valid, positive, row, listed, same⟩ := recorded.events key request route member
    exact ⟨valid, positive, row, mem_after_step step row listed, same⟩
  have origin : ∀ row ∈ table.rows, row.authorityShape = .conversationAccountRegistry →
      ∃ key request route, .routed key request (.fresh route) ∈ before ++ [event] ∧
        RecordedRow host key request route row := by
    intro row listed shape
    obtain ⟨key, request, route, member, same⟩ := recorded.rows row listed shape
    exact ⟨key, request, route, List.mem_append_left _ member, same⟩
  rcases step_cases step with
    ⟨key, request, route, row, rfl, valid, positive, inserted, same, _⟩ |
    ⟨row, inserted, shape, other⟩ | ⟨rfl, other⟩
  · refine ⟨?_, ?_⟩
    · intro stored listed initial
      rw [Table.insert_rows inserted, List.mem_append, List.mem_singleton] at listed
      rcases listed with old | rfl
      · exact origin stored old initial
      · exact ⟨key, request, route, by simp, same⟩
    · intro otherKey otherRequest otherRoute member
      rw [List.mem_append, List.mem_singleton] at member
      rcases member with earlier | equal
      · exact kept _ _ _ earlier
      · cases equal
        exact ⟨valid, positive, row, Table.mem_insert inserted, same⟩
  · refine ⟨?_, ?_⟩
    · intro stored listed initial
      rw [Table.insert_rows inserted, List.mem_append, List.mem_singleton] at listed
      rcases listed with old | rfl
      · exact origin stored old initial
      · rw [shape] at initial
        cases initial
    · intro otherKey otherRequest otherRoute member
      rw [List.mem_append, List.mem_singleton] at member
      rcases member with earlier | equal
      · exact kept _ _ _ earlier
      · exact absurd equal.symm (other _ _ _)
  · refine ⟨origin, ?_⟩
    intro otherKey otherRequest otherRoute member
    rw [List.mem_append, List.mem_singleton] at member
    rcases member with earlier | equal
    · exact kept _ _ _ earlier
    · exact absurd equal.symm (other _ _ _)

theorem run_recorded {events : List RoutingEvent}
    (run : Run (RoutingStep host) Table.empty events table) : Recorded host events table :=
  run.history (Recorded host) (fun _ _ _ _ step recorded => recorded_step step recorded)
    ⟨by simp [Table.empty], by simp⟩

theorem eq_of_initialFor {a b : RoutingDecisionRow} {conversation : ConversationId}
    (first : a ∈ table.rows) (second : b ∈ table.rows) (left : a.initialFor conversation = true)
    (right : b.initialFor conversation = true) : a = b := by
  by_contra differ
  have apart : routingDecisions.key a ≠ routingDecisions.key b :=
    fun same => differ (Table.eq_of_key first second same)
  have named : b.conversationId = conversation := by
    simp only [RoutingDecisionRow.initialFor, Bool.and_eq_true, beq_iff_eq] at right
    exact right.1
  have none := Table.no_clash first second apart
  simp [routingDecisions, named, left, right] at none

theorem eq_of_idempotencyKey {a b : RoutingDecisionRow} (first : a ∈ table.rows)
    (second : b ∈ table.rows) (same : a.idempotencyKey = b.idempotencyKey) : a = b := by
  by_contra differ
  have apart : routingDecisions.key a ≠ routingDecisions.key b :=
    fun same => differ (Table.eq_of_key first second same)
  have none := Table.no_clash first second apart
  simp [routingDecisions, same] at none

theorem readInitialRouteById_of_mem {row : RoutingDecisionRow} (listed : row ∈ table.rows)
    (shape : row.authorityShape = .conversationAccountRegistry) :
    readInitialRouteById table row.routingDecisionId = routeOfRow row := by
  have found : (table.find? row.routingDecisionId).filter
      (·.authorityShape == .conversationAccountRegistry) = some row := by
    rw [Option.filter_eq_some_iff]
    have held : table.find? row.routingDecisionId = some row := Table.find?_of_mem listed
    exact ⟨held, by simp [shape]⟩
  unfold readInitialRouteById
  rw [found]
  rfl

/-- The call of a recorded route, made again. -/
theorem route_again {events : List RoutingEvent} (recorded : Recorded host events table)
    {key : String} {request : RouteConversationInitial} {route : ConversationInitialRoute}
    (decided : .routed key request (.fresh route) ∈ events) (world : RouteWorld) :
    routeConversationInitial host key request world table = .ok (.replayed route, table) := by
  obtain ⟨valid, positive, row, listed, shape, sameKey, _, sameSha, named, read⟩ :=
    recorded.events key request route decided
  have stored : replayedRoutingDecision table key (routeRequestSha host request) =
      .ok (some row.routingDecisionId) := by
    unfold replayedRoutingDecision
    split
    · rename_i absent
      have := List.find?_eq_none.mp absent row listed
      simp [sameKey] at this
    · rename_i other found
      have otherKey : other.idempotencyKey = key := by simpa using List.find?_some found
      have same : other = row := eq_of_idempotencyKey (List.mem_of_find?_eq_some found) listed
        (otherKey.trans sameKey.symm)
      rw [same, if_neg (fun differ => differ sameSha)]
  unfold routeConversationInitial
  rw [valid, ok_bind, if_neg (by omega), stored, ok_bind]
  dsimp only
  rw [readInitialRouteById_of_mem listed shape, read, ok_bind]

theorem reread_iff {events : List RoutingEvent} (recorded : Recorded host events table)
    (conversation : ConversationId) (route : ConversationInitialRoute) :
    readConversationInitialRoute table conversation = .ok (some route) ↔
      ∃ key request, request.conversationId = conversation ∧
        .routed key request (.fresh route) ∈ events := by
  unfold readConversationInitialRoute
  constructor
  · intro read
    split at read
    · cases read
    · rename_i row found
      have listed := List.mem_of_find?_eq_some found
      have initial := List.find?_some found
      simp only [RoutingDecisionRow.initialFor, Bool.and_eq_true, beq_iff_eq] at initial
      obtain ⟨key, request, other, decided, same⟩ := recorded.rows row listed initial.2
      rw [readInitialRouteById_of_mem listed initial.2, same.2.2.2.2.2] at read
      cases read
      exact ⟨key, request, same.2.2.1.symm.trans initial.1, decided⟩
  · rintro ⟨key, request, rfl, decided⟩
    obtain ⟨_, _, row, listed, same⟩ := recorded.events key request route decided
    split
    · rename_i absent
      have := List.find?_eq_none.mp absent row listed
      rw [same.initialFor] at this
      exact absurd rfl this
    · rename_i other found
      have initial : other.initialFor request.conversationId = true := by
        simpa using List.find?_some found
      have equal := eq_of_initialFor (List.mem_of_find?_eq_some found) listed initial same.initialFor
      rw [equal, readInitialRouteById_of_mem listed same.1, same.2.2.2.2.2]
      rfl

theorem single_initial (table : RoutingDecisions) (conversation : ConversationId) :
    (table.rows.filter (·.initialFor conversation)).length ≤ 1 := by
  have distinct := table.distinct.filter (·.initialFor conversation)
  have initial : ∀ row ∈ table.rows.filter (·.initialFor conversation),
      row ∈ table.rows ∧ row.initialFor conversation = true := fun row listed =>
    List.mem_filter.mp listed
  rcases rows : table.rows.filter (·.initialFor conversation) with _ | ⟨first, _ | ⟨second, rest⟩⟩
  · rw [rows]
    exact Nat.zero_le 1
  · rw [rows]
    exact Nat.le_refl 1
  · rw [rows] at distinct initial
    have one := initial first (by simp)
    have two := initial second (by simp)
    have compatible := (List.pairwise_cons.mp distinct).1 second (by simp)
    exact absurd (congrArg routingDecisions.key (eq_of_initialFor one.1 two.1 one.2 two.2))
      compatible.1

/-- An initial decision is recorded at most once, and only where there was none. -/
theorem decided_once {events : List RoutingEvent}
    (run : Run (RoutingStep host) Table.empty events table) (conversation : ConversationId) :
    events.countP (decides conversation) ≤ 1 := by
  have shaped : ∀ event : RoutingEvent, decides conversation event = true →
      ∃ key request route, event = .routed key request (.fresh route) ∧
        request.conversationId = conversation := by
    intro event hit
    unfold decides at hit
    split at hit
    · exact ⟨_, _, _, rfl, by simpa using hit⟩
    · cases hit
  let closed (table : RoutingDecisions) : Prop :=
    table.rows.any (·.initialFor conversation) = true
  refine Run.countP_le_one (?_ : ∀ table event after, RoutingStep host table event after →
    closed table → closed after) ?_ ?_ run
  · intro table event after step bound
    obtain ⟨row, listed, initial⟩ := List.any_eq_true.mp bound
    exact List.any_eq_true.mpr ⟨row, mem_after_step step row listed, initial⟩
  · intro table event after step hit bound
    obtain ⟨key, request, route, rfl, rfl⟩ := shaped event hit
    rcases step_cases step with ⟨_, _, _, _, same, _, _, _, _, unbound⟩ | ⟨_, _, _, other⟩ |
      ⟨_, other⟩
    · cases same
      exact absurd (bound.symm.trans unbound) (by decide)
    · exact other _ _ _ rfl
    · exact other _ _ _ rfl
  · intro table event after step hit
    obtain ⟨key, request, route, rfl, rfl⟩ := shaped event hit
    rcases step_cases step with ⟨_, _, _, row, same, _, _, inserted, recorded, _⟩ |
      ⟨_, _, _, other⟩ | ⟨_, other⟩
    · cases same
      exact List.any_eq_true.mpr ⟨row, Table.mem_insert inserted, recorded.initialFor⟩
    · exact absurd rfl (other _ _ _)
    · exact absurd rfl (other _ _ _)

theorem routes_are_final {events : List RoutingEvent}
    (run : Run (RoutingStep host) Table.empty events table) : RoutesAreFinal host events table where
  once := decided_once run
  single := single_initial table
  replayed := by
    rintro before key request route later rfl
    obtain ⟨middle, past, rest⟩ := run.split before
    have recorded := run_recorded past
    cases rest with
    | cons step _ =>
      cases step with
      | route call =>
        obtain ⟨_, _, did⟩ := route_spec call
        rcases did with ⟨_, _, same, _⟩ | ⟨⟨_, same⟩, _⟩ |
          ⟨other, row, same, _, listed, shape, sameKey, sameSha, read⟩
        · cases same
        · cases same
        · cases same
          obtain ⟨freshKey, earlier, fresh, decided, recordedRow⟩ := recorded.rows row listed shape
          have sameRoute := recordedRow.2.2.2.2.2.symm.trans read
          cases sameRoute
          rw [← sameKey, recordedRow.2.1]
          exact ⟨earlier, decided, recordedRow.2.2.2.1.symm.trans sameSha⟩
  repeated := fun _ _ _ decided world => route_again (run_recorded run) decided world
  reread := reread_iff (run_recorded run)

end Step

/-- A registry of at most 512 accounts with admitted quota rows leads to a decision. A snapshot
reads back as it was stored exactly when its positions have at most 63 bits, as those of an
accepted one do; causes always do, and exclusions as snapshots. The stored classification is known
to be available exactly when the kernel took the selected member to be. And over every run of calls
each conversation has one initial decision, which replays and readers return as it was. -/
theorem initial_routes_are_sound (host : Host) :
    (∀ accounts mode routingRevision profileRevision now, AdmittedRegistry accounts →
      AdmittedControl accounts mode routingRevision profileRevision now →
      ∀ clock snapshotId, ∃ records snapshot decision,
        readAccountRegistrySync accounts clock 512 = .ok records ∧
        buildSnapshot snapshotId routingRevision mode profileRevision now records = .ok snapshot ∧
        decideAccountRegistryRouting snapshot now = .ok decision) ∧
    (∀ snapshot, TypedSnapshot snapshot →
      (parseSnapshot (serializeSnapshot snapshot) = .ok snapshot ↔
        ∀ member ∈ snapshot.members, member.position < 2 ^ 63)) ∧
    (∀ causes, parseCauses (serializeCauses causes) = .ok causes) ∧
    (∀ exclusions, (∀ exclusion ∈ exclusions, TypedExclusion exclusion) →
      (parseExclusions (serializeExclusions exclusions) = .ok exclusions ↔
        ∀ exclusion ∈ exclusions, exclusion.memberPosition < 2 ^ 63)) ∧
    (∀ snapshot now decision, TypedSnapshot snapshot → snapshot.members.length < 2 ^ 63 →
      decideAccountRegistryRouting snapshot now = .ok decision →
        parseSnapshot (serializeSnapshot snapshot) = .ok snapshot ∧
          parseExclusions (serializeExclusions decision.exclusions) = .ok decision.exclusions) ∧
    (∀ snapshot decision,
      decideAccountRegistryRouting snapshot snapshot.resolvedAtMicros = .ok decision →
        (quotaClassification decision snapshot = "known_available" ↔
          SelectedAvailable snapshot snapshot.resolvedAtMicros decision)) ∧
    ∀ events table, Run (RoutingStep host) Table.empty events table →
      RoutesAreFinal host events table := by
  refine ⟨?_, ?_, parseCauses_serializeCauses, ?_, ?_, ?_, ?_⟩
  · intro accounts mode routingRevision profileRevision now admitted control clock snapshotId
    exact admitted_registry_is_decided admitted control clock snapshotId
  · exact fun snapshot typed => parseSnapshot_ok_iff typed
  · exact fun exclusions typed => parseExclusions_ok_iff typed
  · exact fun snapshot now decision typed count accepted => accepted_reads_back typed count accepted
  · exact fun snapshot decision accepted => quotaClassification_iff accepted
  · exact fun events table run => routes_are_final run

theorem sampleId_canonical :
    isCanonicalUuidV4 "34000000-0000-4000-8000-000000000001" = true := by decide

def sampleId : CanonicalUuidV4 := ⟨"34000000-0000-4000-8000-000000000001", sampleId_canonical⟩

/-- One ready account with both windows observed a second ago. -/
def sampleStored : StoredAccount where
  accountId := sampleId.toUuid
  enabled := true
  state := .available
  revision := 1
  tombstoned := false
  lifecycleReadiness := .ready
  fiveHourFact := some ⟨none, none, none, 400000000, true⟩
  sevenDayFact := some ⟨some 10, some 402000000, none, 400000000, false⟩

def sampleWorld : RouteWorld where
  conversationMatches := true
  modelSourceReviewRequired := false
  modelSource := none
  accounts := [sampleStored]
  clock := fun _ _ => 401000000
  mode := "fixed"
  fixedAccountId := some sampleId.text
  routingRevision := 1
  profileRevision := 1
  decidedAtMicros := 401000000
  snapshotId := sampleId
  decisionId := sampleId
  operationId := sampleId
  turnId := sampleId
  routingRevisionStored := by decide
  profileRevisionStored := by decide
  accountRevisionsStored := by decide

def sampleRequest : RouteConversationInitial := ⟨sampleId.toUuid, 1⟩

theorem sampleStored_admitted : AdmittedRegistry [sampleStored] where
  some := by decide
  bounded := by decide
  distinct := by decide
  revisions := by decide
  fiveHour := by
    intro account listed row stored
    rw [List.mem_singleton.mp listed] at stored
    cases stored
    exact ⟨by decide, by decide, nofun⟩
  sevenDay := by
    intro account listed row stored
    rw [List.mem_singleton.mp listed] at stored
    cases stored
    refine ⟨by decide, by decide, fun resets known => ?_⟩
    cases known
    decide

theorem sampleControl_admitted :
    AdmittedControl [sampleStored] (.fixed sampleId.toUuid) 1 1 401000000 where
  routing := by decide
  profile := by decide
  instant := by decide
  fixed := by
    intro target same
    cases same
    decide

def isFresh : Except StoreError (ConversationInitialRouteOutcome × RoutingDecisions) → Bool
  | .ok (.fresh _, _) => true
  | _ => false

theorem sample_fresh :
    isFresh (routeConversationInitial sampleHost "key" sampleRequest sampleWorld Table.empty) = true := by
  decide +kernel

/-- The sample is decided, stored, classified and replayed. -/
theorem sample_route_is_sound :
    (∃ records snapshot decision,
      readAccountRegistrySync [sampleStored] (fun _ _ => 401000000) 512 = .ok records ∧
      buildSnapshot "snapshot" 1 (.fixed sampleId.toUuid) 1 401000000 records = .ok snapshot ∧
      decideAccountRegistryRouting snapshot 401000000 = .ok decision) ∧
    ∃ route after, routeConversationInitial sampleHost "key" sampleRequest sampleWorld Table.empty =
        .ok (.fresh route, after) ∧
      routeConversationInitial sampleHost "key" sampleRequest sampleWorld after =
        .ok (.replayed route, after) := by
  obtain ⟨decided, _, _, _, _, _, final⟩ := initial_routes_are_sound sampleHost
  refine ⟨decided [sampleStored] (.fixed sampleId.toUuid) 1 1 401000000 sampleStored_admitted
    sampleControl_admitted (fun _ _ => 401000000) "snapshot", ?_⟩
  have fresh := sample_fresh
  unfold isFresh at fresh
  split at fresh
  · rename_i route after call
    refine ⟨route, after, call, ?_⟩
    exact (final _ after (.single (.route call))).repeated "key" sampleRequest route (by simp)
      sampleWorld
  · cases fresh

/-- A snapshot whose only member stands at a position of 64 bits. -/
def wideSnapshot : AccountRegistryRoutingSnapshot where
  snapshotId := "snapshot"
  routingRevision := 1
  mode := .balanced
  taskRoleProfileRevision := 1
  resolvedAtMicros := 0
  members := [⟨2 ^ 63, sampleId.toUuid, 1, []⟩]
  quotaFacts := []

theorem wideSnapshot_typed : TypedSnapshot wideSnapshot where
  routingRevision := by decide
  profileRevision := by decide
  resolvedAt := by decide
  positions := by simp [wideSnapshot]
  revisions := by simp [wideSnapshot, Json.Int64]
  durations := by simp [wideSnapshot]
  observations := by simp [wideSnapshot]

/-- The stored integer is read with a sign, so a position of 64 bits does not read back. -/
theorem wide_position_is_lost : ¬∀ snapshot, TypedSnapshot snapshot →
    parseSnapshot (serializeSnapshot snapshot) = .ok snapshot := by
  intro claimed
  have positions := (parseSnapshot_ok_iff wideSnapshot_typed).mp
    (claimed wideSnapshot wideSnapshot_typed)
  have := positions ⟨2 ^ 63, sampleId.toUuid, 1, []⟩ (by simp [wideSnapshot])
  exact absurd this (Nat.lt_irrefl _)

end Decodex.Guarantees.ConversationRouting
