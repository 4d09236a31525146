import Decodex.Guarantees.RoutingSnapshots
import Decodex.Source.Core.CheckedRouting

/-!
# Which snapshots are decided

The four loops of the validation together: the facts are those of the members, in member order.
The order loop reads no fact that is not there because the loops before it have found one fact
for each member and window, and no two for the same. What is accepted has instants in range, so
no age overflows.
-/
namespace Decodex.Guarantees.RoutingValidation

open Decodex.Library
open Decodex.Source.Core Decodex.Source.Core.Routing
open Decodex.Guarantees.Routing Decodex.Guarantees.RoutingSnapshots

/-- The blockers an account can have, in their order. -/
def memberBlockers : List RoutingBlocker :=
  [.accountFromFuture, .accountStale, .accountUnavailable, .accountUnknown, .accountDepleted,
    .accountAuthFailed, .accountPluginUnready, .accountDisabled]

def StrictlyIncreasing (blockers : List RoutingBlocker) : Prop :=
  (∀ blocker ∈ blockers, blocker ∈ memberBlockers) ∧
    blockers.Pairwise fun a b => memberBlockers.idxOf a < memberBlockers.idxOf b

/-- A valid instant. -/
def InRange (instant : Int) : Prop := 0 ≤ instant ∧ instant ≤ 253402300799999999

def WellFormedObservation (window : QuotaWindowClass) : AccountRegistryQuotaObservation → Prop
  | .missing => True
  | .notApplicable observedAt => window = .fiveHour ∧ 0 < observedAt ∧ InRange observedAt
  | .current usedPercent observedAt resetsAt =>
    usedPercent ≤ 100 ∧ InRange observedAt ∧ InRange resetsAt ∧ observedAt < resetsAt
  | .observationError _ observedAt => InRange observedAt

def windowMinutes : QuotaWindowClass → Nat
  | .fiveHour => 300
  | .sevenDay => 10080

structure Accepted (snapshot : AccountRegistryRoutingSnapshot) (decidedAt : Int) : Prop where
  instant : InRange decidedAt
  resolved : InRange snapshot.resolvedAtMicros ∧ snapshot.resolvedAtMicros ≤ decidedAt
  revisions : 0 < snapshot.routingRevision ∧ 0 < snapshot.taskRoleProfileRevision
  members : snapshot.members ≠ []
  positions : snapshot.members.map (·.position) = List.range' 1 snapshot.members.length
  distinct : (snapshot.members.map (·.accountId)).Nodup
  accountRevisions : ∀ member ∈ snapshot.members, 0 < member.accountRevision
  blockers : ∀ member ∈ snapshot.members, StrictlyIncreasing member.blockers
  facts : (snapshot.quotaFacts.map fun fact => (fact.accountId, fact.window)) =
    snapshot.members.flatMap fun member =>
      [(member.accountId, .fiveHour), (member.accountId, .sevenDay)]
  wellFormed : ∀ fact ∈ snapshot.quotaFacts,
    fact.durationMinutes = windowMinutes fact.window ∧
      WellFormedObservation fact.window fact.observation
  target : ∀ accountId, snapshot.mode = .fixed accountId →
    accountId ∈ snapshot.members.map (·.accountId)

theorem timestampIsValid_iff {instant : Int} :
    accountRegistryTimestampIsValid instant = true ↔ InRange instant := by
  unfold accountRegistryTimestampIsValid maxAccountRegistryTimestampMicros InRange
  simp

theorem wellFormedFact_iff {fact : AccountRegistryQuotaFact} :
    WellFormedFact fact ↔ fact.durationMinutes = windowMinutes fact.window ∧
      WellFormedObservation fact.window fact.observation := by
  have minutes : accountRegistryWindowDuration fact.window = windowMinutes fact.window := by
    cases fact.window <;> rfl
  have checked : validateAccountRegistryQuotaObservation fact = .ok () ↔
      WellFormedObservation fact.window fact.observation := by
    unfold validateAccountRegistryQuotaObservation WellFormedObservation
    cases fact.observation with
    | missing => simp
    | notApplicable observedAt =>
      simp only [← timestampIsValid_iff]
      grind
    | current usedPercent observedAt resetsAt =>
      simp only [← timestampIsValid_iff]
      grind
    | observationError error observedAt =>
      simp only [← timestampIsValid_iff]
      grind
  unfold WellFormedFact
  rw [minutes, checked]

theorem rank_eq_some {blocker : RoutingBlocker} {rank : Nat} :
    accountRegistryMemberBlockerRank blocker = some rank ↔
      blocker ∈ memberBlockers ∧ memberBlockers.idxOf blocker = rank := by
  cases blocker <;> simp [accountRegistryMemberBlockerRank, memberBlockers]

theorem rank_ne_none {blocker : RoutingBlocker} :
    accountRegistryMemberBlockerRank blocker ≠ none ↔ blocker ∈ memberBlockers := by
  rw [Option.ne_none_iff_exists']
  simp [rank_eq_some]

/-- What the loop accepts is in order behind the blockers before it, the last of which is
`previous`. -/
theorem validateBlockers_sound {member : AccountRegistryRoutingMember}
    {rest : List RoutingBlocker} :
    ∀ {prior previous}, validateBlockers member prior rest previous = .ok () →
      StrictlyIncreasing prior →
      (∀ earlier ∈ prior, ∃ known rank, previous = some (known, rank) ∧
        memberBlockers.idxOf earlier ≤ rank) →
      StrictlyIncreasing (prior ++ rest) := by
  induction rest with
  | nil =>
    intro prior previous _ ordered _
    rwa [List.append_nil]
  | cons blocker rest ih =>
    intro prior previous accepted ordered last
    unfold validateBlockers at accepted
    split at accepted
    · cases accepted
    rename_i rank ranked
    split at accepted
    · cases accepted
    obtain ⟨listed, index⟩ := rank_eq_some.mp ranked
    have before : ∀ earlier ∈ prior,
        memberBlockers.idxOf earlier < memberBlockers.idxOf blocker := by
      intro earlier known
      obtain ⟨_, previousRank, rfl, le⟩ := last earlier known
      dsimp only at accepted
      split at accepted
      · cases accepted
      · omega
    have next : validateBlockers member (prior ++ [blocker]) rest (some (blocker, rank)) =
        .ok () := by
      split at accepted
      · split at accepted
        · cases accepted
        · exact accepted
      · exact accepted
    have step : StrictlyIncreasing (prior ++ [blocker]) := by
      refine ⟨?_, ?_⟩
      · intro other known
        rcases List.mem_append.mp known with known | known
        · exact ordered.1 other known
        · rw [List.mem_singleton.mp known]
          exact listed
      · rw [List.pairwise_append]
        exact ⟨ordered.2, by simp, by simpa using before⟩
    have result := ih next step ?_
    · rwa [List.append_assoc, List.singleton_append] at result
    · intro earlier known
      refine ⟨blocker, rank, rfl, ?_⟩
      rcases List.mem_append.mp known with known | known
      · have := before earlier known
        omega
      · rw [List.mem_singleton.mp known]
        omega

theorem validateAccountRegistryMemberBlockers_eq_ok_iff {member : AccountRegistryRoutingMember} :
    validateAccountRegistryMemberBlockers member = .ok () ↔
      StrictlyIncreasing member.blockers := by
  unfold validateAccountRegistryMemberBlockers
  constructor
  · intro accepted
    exact validateBlockers_sound accepted ⟨by simp, .nil⟩ (by simp)
  · rintro ⟨listed, increasing⟩
    apply validateBlockers_ok
    · exact fun blocker known => rank_ne_none.mpr (listed blocker known)
    · rw [List.nil_append]
      apply increasing.imp_of_mem
      intro a b first second lt
      rw [rank_ctorIdx (rank_eq_some.mpr ⟨listed a first, rfl⟩),
        rank_ctorIdx (rank_eq_some.mpr ⟨listed b second, rfl⟩)]
      omega
    · intro _ _ same
      cases same

theorem validateMembers_eq_ok_iff {rest : List AccountRegistryRoutingMember} :
    ∀ {prior}, (prior.map (·.accountId)).Nodup →
      (validateMembers prior rest = .ok () ↔
        rest.map (·.position) = List.range' (prior.length + 1) rest.length ∧
        ((prior ++ rest).map (·.accountId)).Nodup ∧
        ∀ member ∈ rest, 0 < member.accountRevision ∧ StrictlyIncreasing member.blockers) := by
  induction rest with
  | nil =>
    intro prior distinct
    simpa [validateMembers] using distinct
  | cons member rest ih =>
    intro prior distinct
    have fresh_iff : prior.find? (·.accountId == member.accountId) = none ↔
        ((prior ++ [member]).map (·.accountId)).Nodup := by
      rw [List.map_append, List.nodup_append]
      simp only [List.find?_eq_none, beq_iff_eq, distinct]
      simp
    have split : (prior ++ member :: rest) = (prior ++ [member]) ++ rest := by simp
    unfold validateMembers
    rw [split, List.map_cons, List.length_cons, List.range'_succ, List.cons.injEq]
    by_cases position : member.position = prior.length + 1
    · by_cases revision : member.accountRevision ≤ 0
      · simp only [position, revision, ne_eq, not_true_eq_false, if_false, if_true]
        refine ⟨fun failed => (by cases failed), fun accepted => ?_⟩
        have := (accepted.2.2 member (by simp)).1
        omega
      · simp only [position, revision, ne_eq, not_true_eq_false, if_false]
        cases found : prior.find? (·.accountId == member.accountId) with
        | some first =>
          refine ⟨fun failed => (by cases failed), fun accepted => ?_⟩
          have nodup := accepted.2.1
          rw [List.map_append] at nodup
          have := fresh_iff.mpr (List.nodup_append.mp nodup).1
          rw [found] at this
          cases this
        | none =>
          have nodup := fresh_iff.mp found
          have later := ih nodup
          rw [List.length_append, List.length_singleton] at later
          cases checked : validateAccountRegistryMemberBlockers member with
          | error error =>
            refine ⟨fun failed => (by cases failed), fun accepted => ?_⟩
            have := validateAccountRegistryMemberBlockers_eq_ok_iff.mpr
              (accepted.2.2 member (by simp)).2
            rw [checked] at this
            cases this
          | ok =>
            have ordered := validateAccountRegistryMemberBlockers_eq_ok_iff.mp checked
            rw [ok_bind, later]
            simp only [List.mem_cons, forall_eq_or_imp, ordered, true_and, and_true]
            have positive : 0 < member.accountRevision := by omega
            simp only [positive, true_and]
    · simp only [position, ne_eq, not_false_eq_true, if_true, false_and, iff_false]
      intro failed
      cases failed

theorem validateAccountRegistrySnapshotMembers_eq_ok_iff
    {snapshot : AccountRegistryRoutingSnapshot} {decidedAt : Int} :
    validateAccountRegistrySnapshotMembers snapshot decidedAt = .ok () ↔
      InRange decidedAt ∧ (InRange snapshot.resolvedAtMicros ∧
        snapshot.resolvedAtMicros ≤ decidedAt) ∧
      (0 < snapshot.routingRevision ∧ 0 < snapshot.taskRoleProfileRevision) ∧
      snapshot.members ≠ [] ∧
      snapshot.members.map (·.position) = List.range' 1 snapshot.members.length ∧
      (snapshot.members.map (·.accountId)).Nodup ∧
      ∀ member ∈ snapshot.members,
        0 < member.accountRevision ∧ StrictlyIncreasing member.blockers := by
  have loop := @validateMembers_eq_ok_iff snapshot.members [] (by simp)
  rw [List.length_nil, List.nil_append, Nat.zero_add] at loop
  unfold validateAccountRegistrySnapshotMembers
  rw [← loop, ← timestampIsValid_iff, ← timestampIsValid_iff]
  simp only [guard_ok, not_or, Bool.not_eq_true', Bool.not_eq_false, List.isEmpty_iff,
    gt_iff_lt, not_lt, not_le]
  constructor
  · rintro ⟨instant, routing, profile, resolved, members, each⟩
    exact ⟨instant, resolved, ⟨routing, profile⟩, members, each⟩
  · rintro ⟨instant, resolved, ⟨routing, profile⟩, members, each⟩
    exact ⟨instant, routing, profile, resolved, members, each⟩

variable {facts : List AccountRegistryQuotaFact} {members : List AccountRegistryRoutingMember}

/-- Accepted facts are of members, are well formed, and name no window of an account twice. -/
theorem validateQuotaFacts_sound {rest : List AccountRegistryQuotaFact} :
    ∀ {prior}, validateQuotaFacts members prior rest = .ok () → (prior.map factKey).Nodup →
      (∀ fact ∈ rest, fact.accountId ∈ members.map (·.accountId) ∧ WellFormedFact fact) ∧
        ((prior ++ rest).map factKey).Nodup := by
  induction rest with
  | nil =>
    intro prior _ distinct
    simpa using distinct
  | cons fact rest ih =>
    intro prior accepted distinct
    unfold validateQuotaFacts at accepted
    split at accepted
    · cases accepted
    rename_i known
    split at accepted
    · cases accepted
    rename_i duration
    split at accepted
    · cases accepted
    rename_i fresh
    obtain ⟨_, observed, accepted⟩ := bind_ok accepted
    have owned : fact.accountId ∈ members.map (·.accountId) := by
      simp only [Bool.not_eq_true, Bool.not_eq_false', List.any_eq_true, beq_iff_eq] at known
      obtain ⟨member, listed, same⟩ := known
      exact same ▸ List.mem_map_of_mem listed
    have nodup : ((prior ++ [fact]).map factKey).Nodup := by
      rw [List.map_append, List.nodup_append]
      refine ⟨distinct, by simp, ?_⟩
      intro key listed other single same
      obtain ⟨earlier, member, rfl⟩ := List.mem_map.mp listed
      rw [List.map_singleton, List.mem_singleton] at single
      subst same
      obtain ⟨account, window⟩ := Prod.mk.inj single
      apply fresh
      rw [List.any_eq_true]
      exact ⟨earlier, member, by simp [account, window]⟩
    obtain ⟨each, whole⟩ := ih accepted nodup
    refine ⟨?_, by rwa [List.append_assoc, List.singleton_append] at whole⟩
    intro other listed
    rcases List.mem_cons.mp listed with rfl | listed
    · exact ⟨owned, by simpa using duration, observed⟩
    · exact each other listed

theorem expectedQuotaFacts_mem {account : AccountId} {window : QuotaWindowClass}
    (listed : account ∈ members.map (·.accountId)) :
    (account, window) ∈ expectedQuotaFacts members := by
  obtain ⟨member, known, rfl⟩ := List.mem_map.mp listed
  apply List.mem_flatMap.mpr
  exact ⟨member, known, by cases window <;> simp⟩

/-- What was collected: each member has a fact for each window. -/
theorem expected_subset_of_collected
    {found : List (AccountRegistryQuotaFact × AccountRegistryQuotaFact)}
    (collected : collectMemberFacts facts members = .ok found) :
    expectedQuotaFacts members ⊆ facts.map factKey := by
  have located : ∀ {account window fact},
      findQuotaFact? facts account window = some fact → (account, window) ∈ facts.map factKey := by
    intro account window fact found
    have named := List.find?_some found
    simp only [Bool.and_eq_true, beq_iff_eq] at named
    exact List.mem_map.mpr ⟨fact, List.mem_of_find?_eq_some found, Prod.ext named.1 named.2⟩
  intro key listed
  obtain ⟨member, known, named⟩ := List.mem_flatMap.mp listed
  have spec := collectMemberFacts_spec collected
  obtain ⟨index, rfl⟩ := List.mem_iff_get.mp known
  obtain ⟨fiveHour, sevenDay⟩ := spec.get index.isLt (spec.length_eq ▸ index.isLt)
  simp only [List.mem_cons, List.not_mem_nil, or_false] at named
  rcases named with rfl | rfl
  · exact located fiveHour
  · exact located sevenDay

/-- The order loop reads only what is there, where enough is. -/
theorem checkCanonicalFacts_total {expected : List (AccountId × QuotaWindowClass)} :
    ∀ {index}, index + expected.length ≤ facts.length →
      checkCanonicalFacts facts index expected ≠ .error .panic := by
  induction expected with
  | nil =>
    intro _ _ failed
    cases failed
  | cons first rest ih =>
    intro index enough
    rw [List.length_cons] at enough
    have inside : index < facts.length := by omega
    unfold checkCanonicalFacts
    simp only [List.getElem?_eq_getElem inside]
    split
    · intro failed
      cases failed
    · apply ih
      omega

/-- What the order loop accepts stands in the expected order from the index on. -/
theorem checkCanonicalFacts_sound {expected : List (AccountId × QuotaWindowClass)} :
    ∀ {index}, checkCanonicalFacts facts index expected = .ok () →
      ((facts.drop index).map factKey).take expected.length = expected := by
  induction expected with
  | nil =>
    intro index _
    rfl
  | cons first rest ih =>
    intro index accepted
    unfold checkCanonicalFacts at accepted
    split at accepted
    · cases accepted
    · rename_i fact here
      split at accepted
      · cases accepted
      · rename_i same
        obtain ⟨inside, rfl⟩ := List.getElem?_eq_some_iff.mp here
        have later := ih accepted
        rw [List.drop_eq_getElem_cons inside, List.map_cons, List.length_cons, List.take_succ_cons,
          later]
        simp only [ne_eq, not_or, not_not] at same
        exact congrArg (· :: rest) (Prod.ext same.1 same.2)

/-- The counting argument: each expected fact is there, and each is expected once. -/
theorem expected_length_le
    {found : List (AccountRegistryQuotaFact × AccountRegistryQuotaFact)}
    (distinct : (members.map (·.accountId)).Nodup)
    (collected : collectMemberFacts facts members = .ok found) :
    (expectedQuotaFacts members).length ≤ facts.length := by
  have subset := expected_subset_of_collected collected
  have le := (List.subperm_of_subset (expectedQuotaFacts_nodup distinct) subset).length_le
  rwa [List.length_map] at le

/-- Accepted facts are the expected ones and no others. -/
theorem facts_eq_expected (checked : validateQuotaFacts members [] facts = .ok ())
    (ordered : checkCanonicalFacts facts 0 (expectedQuotaFacts members) = .ok ()) :
    facts.map factKey = expectedQuotaFacts members := by
  obtain ⟨each, nodup⟩ := validateQuotaFacts_sound checked (by simp)
  rw [List.nil_append] at nodup
  have front := checkCanonicalFacts_sound ordered
  rw [List.drop_zero] at front
  have subset : facts.map factKey ⊆ expectedQuotaFacts members := by
    intro key listed
    obtain ⟨fact, known, rfl⟩ := List.mem_map.mp listed
    exact expectedQuotaFacts_mem (each fact known).1
  have le := (List.subperm_of_subset nodup subset).length_le
  rwa [List.take_of_length_le le] at front

variable {snapshot : AccountRegistryRoutingSnapshot} {decidedAt : Int}

theorem kernel_eq_ok {α : Type} {step : Except AccountRegistryRoutingKernelError α} {value : α} :
    kernel step = .ok value ↔ step = .ok value := by
  cases step <;> simp [kernel]

theorem kernel_total {α : Type} (step : Except AccountRegistryRoutingKernelError α) :
    kernel step ≠ .error .panic := by
  cases step <;> intro failed <;> cases failed

/-- A sequence that does not panic: its first step does not, and what follows does not either. -/
theorem bind_total {α β : Type} {first : Except RoutingFault α}
    {next : α → Except RoutingFault β} (total : first ≠ .error .panic)
    (rest : ∀ value, first = .ok value → next value ≠ .error .panic) :
    (first >>= next) ≠ .error .panic := by
  cases first with
  | error fault => exact fun same => total (by cases same; rfl)
  | ok value => exact rest value rfl

theorem validated_total :
    validatedAccountRegistryQuotaFacts snapshot decidedAt ≠ .error .panic := by
  unfold validatedAccountRegistryQuotaFacts
  apply bind_total (kernel_total _)
  intro _ membersChecked
  apply bind_total (kernel_total _)
  intro _ _
  apply bind_total (kernel_total _)
  intro found collected
  apply bind_total
  · obtain ⟨_, _, _, _, _, distinct, _⟩ :=
      validateAccountRegistrySnapshotMembers_eq_ok_iff.mp (kernel_eq_ok.mp membersChecked)
    apply checkCanonicalFacts_total
    rw [Nat.zero_add]
    exact expected_length_le distinct (kernel_eq_ok.mp collected)
  · intro _ _ failed
    cases failed

/-- What a validation that succeeded has checked. -/
theorem validated_sound {found : List (AccountRegistryQuotaFact × AccountRegistryQuotaFact)}
    (validated : validatedAccountRegistryQuotaFacts snapshot decidedAt = .ok found) :
    validateAccountRegistrySnapshotMembers snapshot decidedAt = .ok () ∧
      snapshot.quotaFacts.map factKey = expectedQuotaFacts snapshot.members ∧
      (∀ fact ∈ snapshot.quotaFacts, WellFormedFact fact) ∧
      collectMemberFacts snapshot.quotaFacts snapshot.members = .ok found := by
  unfold validatedAccountRegistryQuotaFacts at validated
  obtain ⟨_, membersChecked, validated⟩ := bind_ok validated
  obtain ⟨_, factsChecked, validated⟩ := bind_ok validated
  obtain ⟨collection, collected, validated⟩ := bind_ok validated
  obtain ⟨_, ordered, validated⟩ := bind_ok validated
  cases validated
  rw [kernel_eq_ok] at membersChecked factsChecked collected
  have each := (validateQuotaFacts_sound factsChecked (by simp)).1
  exact ⟨membersChecked, facts_eq_expected factsChecked ordered,
    fun fact listed => (each fact listed).2, collected⟩

theorem validated_complete (accepted : Accepted snapshot decidedAt) :
    ∃ found, validatedAccountRegistryQuotaFacts snapshot decidedAt = .ok found := by
  have membersChecked : validateAccountRegistrySnapshotMembers snapshot decidedAt = .ok () :=
    validateAccountRegistrySnapshotMembers_eq_ok_iff.mpr ⟨accepted.instant, accepted.resolved,
      accepted.revisions, accepted.members, accepted.positions, accepted.distinct,
      fun member listed => ⟨accepted.accountRevisions member listed,
        accepted.blockers member listed⟩⟩
  have keys : snapshot.quotaFacts.map factKey = expectedQuotaFacts snapshot.members :=
    accepted.facts
  have factsChecked : validateQuotaFacts snapshot.members [] snapshot.quotaFacts = .ok () := by
    apply validateQuotaFacts_ok
    · intro fact listed
      have key : factKey fact ∈ expectedQuotaFacts snapshot.members :=
        keys ▸ List.mem_map_of_mem listed
      obtain ⟨member, known, named⟩ := List.mem_flatMap.mp key
      have same : fact.accountId = member.accountId := by
        simp only [factKey, List.mem_cons, Prod.mk.injEq, List.not_mem_nil, or_false] at named
        rcases named with ⟨same, _⟩ | ⟨same, _⟩ <;> exact same
      exact same ▸ List.mem_map_of_mem known
    · exact fun fact listed => wellFormedFact_iff.mpr (accepted.wellFormed fact listed)
    · rw [List.map_nil, List.nil_append, keys]
      exact expectedQuotaFacts_nodup accepted.distinct
  obtain ⟨found, collected⟩ : ∃ found,
      collectMemberFacts snapshot.quotaFacts snapshot.members = .ok found := by
    apply collectMemberFacts_ok
    intro member listed window
    rw [keys]
    exact expectedQuotaFacts_mem (List.mem_map_of_mem listed)
  have ordered : checkCanonicalFacts snapshot.quotaFacts 0 (expectedQuotaFacts snapshot.members) =
      .ok () := checkCanonicalFacts_ok _ 0 (by rw [List.drop_zero, keys])
  refine ⟨found, ?_⟩
  unfold validatedAccountRegistryQuotaFacts
  simp only [membersChecked, factsChecked, collected, ordered, kernel, ok_bind]

theorem subtract_inRange {left right : Int} (first : InRange left) (second : InRange right) :
    CheckedRouting.subtract left right = .ok (left - right) := by
  unfold InRange at first second
  unfold CheckedRouting.subtract
  exact if_pos (by omega)

/-- No age of an accepted observation overflows. -/
theorem observationAge_eq_ok {fact : AccountRegistryQuotaFact} (instant : InRange decidedAt)
    (wellFormed : WellFormedFact fact) : CheckedRouting.observationAge decidedAt fact = .ok () := by
  have observed := (wellFormedFact_iff.mp wellFormed).2
  unfold CheckedRouting.observationAge
  unfold WellFormedObservation at observed
  cases observation : fact.observation with
  | missing => rfl
  | observationError error observedAt => rfl
  | notApplicable observedAt =>
    rw [observation] at observed
    dsimp only
    rw [subtract_inRange instant observed.2.2]
    split <;> rfl
  | current usedPercent observedAt resetsAt =>
    rw [observation] at observed
    dsimp only
    rw [subtract_inRange instant observed.2.1]
    split <;> rfl

theorem classifyAccountRegistryMember_eq_ok
    {pair : AccountRegistryQuotaFact × AccountRegistryQuotaFact} (instant : InRange decidedAt)
    (first : WellFormedFact pair.1) (second : WellFormedFact pair.2)
    (member : AccountRegistryRoutingMember) :
    CheckedRouting.classifyAccountRegistryMember member pair decidedAt =
      .ok (classifyAccountRegistryMember member pair decidedAt) := by
  unfold CheckedRouting.classifyAccountRegistryMember
  rw [observationAge_eq_ok instant first, observationAge_eq_ok instant second]
  rfl

theorem collected_wellFormed
    {found : List (AccountRegistryQuotaFact × AccountRegistryQuotaFact)}
    (collected : collectMemberFacts snapshot.quotaFacts snapshot.members = .ok found)
    (wellFormed : ∀ fact ∈ snapshot.quotaFacts, WellFormedFact fact) :
    ∀ pair ∈ found, WellFormedFact pair.1 ∧ WellFormedFact pair.2 := by
  intro pair listed
  have spec := collectMemberFacts_spec collected
  obtain ⟨index, rfl⟩ := List.mem_iff_get.mp listed
  obtain ⟨fiveHour, sevenDay⟩ := spec.get (by rw [spec.length_eq]; exact index.isLt) index.isLt
  exact ⟨wellFormed _ (List.mem_of_find?_eq_some fiveHour),
    wellFormed _ (List.mem_of_find?_eq_some sevenDay)⟩

section Evaluated

variable {found : List (AccountRegistryQuotaFact × AccountRegistryQuotaFact)}
  (validated : validatedAccountRegistryQuotaFacts snapshot decidedAt = .ok found)

include validated

theorem found_length : snapshot.members.length = found.length :=
  (collectMemberFacts_spec (validated_sound validated).2.2.2).length_eq

/-- The indexed accesses are within the members and their facts. -/
theorem evaluateMember_eq_ok {index : Nat}
    (inside : index < (snapshot.members.zip found).length) :
    CheckedRouting.evaluateMember snapshot found decidedAt index =
      .ok ((snapshot.members.zip found)[index].1,
        classifyAccountRegistryMember (snapshot.members.zip found)[index].1
          (snapshot.members.zip found)[index].2 decidedAt) := by
  obtain ⟨membersChecked, _, wellFormed, collected⟩ := validated_sound validated
  have instant := (validateAccountRegistrySnapshotMembers_eq_ok_iff.mp membersChecked).1
  rw [List.length_zip] at inside
  have first : index < snapshot.members.length := by omega
  have second : index < found.length := by omega
  obtain ⟨fiveHour, sevenDay⟩ :=
    collected_wellFormed collected wellFormed found[index] (List.getElem_mem second)
  unfold CheckedRouting.evaluateMember CheckedRouting.itemAt
  rw [List.getElem?_eq_getElem first, List.getElem?_eq_getElem second]
  simp only [ok_bind, classifyAccountRegistryMember_eq_ok instant fiveHour sevenDay,
    List.getElem_zip]
  rfl

/-- The indexes lead to the members that are evaluated. -/
theorem evaluateMembers_eq : CheckedRouting.evaluateMembers snapshot decidedAt found =
    evaluateMembers snapshot decidedAt found := by
  have lengths := found_length validated
  have names : (snapshot.members.zip found).map (·.1) = snapshot.members :=
    List.map_fst_zip (Nat.le_of_eq lengths)
  have count : snapshot.members.length = (snapshot.members.zip found).length := by
    rw [List.length_zip]
    omega
  unfold CheckedRouting.evaluateMembers evaluateMembers
    CheckedRouting.accountRegistryEvaluatedMemberIndexes accountRegistryEvaluatedMembers
  cases mode : snapshot.mode with
  | balanced =>
    simp only [kernel, ok_bind]
    rw [count, ← List.length_map]
    apply mapM_range
    intro index inside
    rw [evaluateMember_eq_ok validated (by simpa using inside), List.getElem_map]
  | fixed accountId =>
    have index_eq : snapshot.members.findIdx? (·.accountId == accountId) =
        (snapshot.members.zip found).findIdx? (·.1.accountId == accountId) := by
      conv_lhs => rw [← names, List.findIdx?_map]
      rfl
    dsimp only
    rw [List.find?_eq_bind_findIdx?_getElem?, ← index_eq]
    cases located : snapshot.members.findIdx? (·.accountId == accountId) with
    | none => rfl
    | some index =>
      have inside : index < (snapshot.members.zip found).length := by
        rw [index_eq] at located
        exact (List.findIdx?_eq_some_iff_getElem.mp located).1
      simp only [Option.bind_some, List.getElem?_eq_getElem inside, kernel, ok_bind,
        List.mapM_cons, List.mapM_nil, evaluateMember_eq_ok validated inside]
      rfl

end Evaluated

/-- No partial operation fails, so the kernel computes what it would with total ones. -/
theorem checked_eq (snapshot : AccountRegistryRoutingSnapshot) (decidedAt : Int) :
    CheckedRouting.decideAccountRegistryRouting snapshot decidedAt =
      decideAccountRegistryRouting snapshot decidedAt := by
  unfold CheckedRouting.decideAccountRegistryRouting decideAccountRegistryRouting decideWith
  cases validated : validatedAccountRegistryQuotaFacts snapshot decidedAt with
  | error fault => rfl
  | ok found => rw [ok_bind, ok_bind, evaluateMembers_eq validated]

/-- The passes always end in a decision. -/
theorem decideEvaluations_eq_ok
    (entries : List (AccountRegistryRoutingMember × AccountRegistryMemberCapacity)) :
    ∃ decision, decideEvaluations snapshot entries = .ok decision := by
  unfold decideEvaluations
  cases first : firstPass snapshot entries [] [] with
  | some decision => exact ⟨decision, rfl⟩
  | none =>
    rcases secondPass_spec snapshot (firstPass_none snapshot first) [] [] with
      ⟨_, _, _, _, _, _, result⟩ | ⟨_, result⟩
    · exact ⟨_, result⟩
    · exact ⟨_, result⟩

theorem evaluatedMembers_eq_ok_iff
    {found : List (AccountRegistryQuotaFact × AccountRegistryQuotaFact)}
    (lengths : snapshot.members.length = found.length) :
    (∃ evaluated, accountRegistryEvaluatedMembers snapshot found = .ok evaluated) ↔
      ∀ accountId, snapshot.mode = .fixed accountId →
        accountId ∈ snapshot.members.map (·.accountId) := by
  have names : (snapshot.members.zip found).map (·.1) = snapshot.members :=
    List.map_fst_zip (Nat.le_of_eq lengths)
  unfold accountRegistryEvaluatedMembers
  cases mode : snapshot.mode with
  | balanced => simp
  | fixed accountId =>
    have listed : accountId ∈ snapshot.members.map (·.accountId) ↔
        ((snapshot.members.zip found).find? (·.1.accountId == accountId)).isSome = true := by
      rw [List.find?_isSome]
      conv_lhs => rw [← names, List.map_map]
      simp
    cases located : (snapshot.members.zip found).find? (·.1.accountId == accountId) with
    | none =>
      rw [located] at listed
      simp only [located]
      simpa using listed
    | some target =>
      rw [located] at listed
      simp only [located]
      simpa using listed

theorem decide_eq_ok_iff :
    (∃ decision, decideAccountRegistryRouting snapshot decidedAt = .ok decision) ↔
      Accepted snapshot decidedAt := by
  constructor
  · rintro ⟨decision, decided⟩
    rw [decideAccountRegistryRouting_eq] at decided
    obtain ⟨found, validated, decided⟩ := bind_ok decided
    obtain ⟨evaluated, chosen, _⟩ := bind_ok decided
    obtain ⟨membersChecked, facts, wellFormed, _⟩ := validated_sound validated
    obtain ⟨instant, resolved, revisions, members, positions, distinct, each⟩ :=
      validateAccountRegistrySnapshotMembers_eq_ok_iff.mp membersChecked
    have target := (evaluatedMembers_eq_ok_iff (found_length validated)).mp
      ⟨evaluated, kernel_eq_ok.mp chosen⟩
    exact ⟨instant, resolved, revisions, members, positions, distinct,
      fun member listed => (each member listed).1, fun member listed => (each member listed).2,
      facts, fun fact listed => wellFormedFact_iff.mp (wellFormed fact listed), target⟩
  · intro accepted
    obtain ⟨found, validated⟩ := validated_complete accepted
    obtain ⟨evaluated, chosen⟩ :=
      (evaluatedMembers_eq_ok_iff (found_length validated)).mpr accepted.target
    rw [decideAccountRegistryRouting_eq]
    simp only [validated, chosen, kernel, ok_bind]
    exact decideEvaluations_eq_ok _

theorem decideEvaluations_total
    (entries : List (AccountRegistryRoutingMember × AccountRegistryMemberCapacity)) :
    decideEvaluations snapshot entries ≠ .error .panic := by
  intro failed
  have decides : ∃ decision, decideEvaluations snapshot entries = .ok decision :=
    decideEvaluations_eq_ok entries
  obtain ⟨decision, decided⟩ := decides
  rw [decided] at failed
  cases failed

theorem decide_total : decideAccountRegistryRouting snapshot decidedAt ≠ .error .panic := by
  rw [decideAccountRegistryRouting_eq]
  apply bind_total validated_total
  intro found _
  apply bind_total (kernel_total _)
  intro evaluated _
  exact decideEvaluations_total _

/-- The kernel never panics, and it decides the accepted snapshots and no others. -/
theorem routing_decides_accepted_snapshots (snapshot : AccountRegistryRoutingSnapshot)
    (decidedAt : Int) :
    CheckedRouting.decideAccountRegistryRouting snapshot decidedAt ≠ .error .panic ∧
      ((∃ decision,
          CheckedRouting.decideAccountRegistryRouting snapshot decidedAt = .ok decision) ↔
        Accepted snapshot decidedAt) := by
  rw [checked_eq]
  exact ⟨decide_total, decide_eq_ok_iff⟩

end Decodex.Guarantees.RoutingValidation
