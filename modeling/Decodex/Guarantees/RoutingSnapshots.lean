import Decodex.Guarantees.Routing
import Decodex.Source.Store.ConversationRouting

/-!
# Built routing snapshots are accepted

`build_snapshot` meets each requirement of the kernel's validation: blockers in strictly
increasing rank, members at their positions, and the two facts of each member in member order.
A quota row that obeys its table yields such a fact, whatever the clock shows. So the snapshot of
a registry in routing order is decided.
-/
namespace Decodex.Guarantees.RoutingSnapshots

open Decodex.Library
open Decodex.Source.Core Decodex.Source.Core.Routing
open Decodex.Source.Store Decodex.Source.Store.RoutingJson Decodex.Source.Store.ConversationRouting
open Decodex.Guarantees.Routing

theorem rank_ctorIdx {blocker : RoutingBlocker} {rank : Nat}
    (ranked : accountRegistryMemberBlockerRank blocker = some rank) : blocker.ctorIdx = rank + 1 := by
  cases blocker <;> cases ranked <;> rfl

theorem ctorIdx_injective {a b : RoutingBlocker} (same : a.ctorIdx = b.ctorIdx) : a = b := by
  rw [← RoutingBlocker.ofNat_ctorIdx a, same, RoutingBlocker.ofNat_ctorIdx]

/-- The loop accepts ranked blockers in strictly increasing order. -/
theorem validateBlockers_ok (member : AccountRegistryRoutingMember) (rest : List RoutingBlocker) :
    ∀ prior previous, (∀ blocker ∈ rest, accountRegistryMemberBlockerRank blocker ≠ none) →
      (prior ++ rest).Pairwise (fun a b => a.ctorIdx < b.ctorIdx) →
      (∀ known rank, previous = some (known, rank) →
        known ∈ prior ∧ accountRegistryMemberBlockerRank known = some rank) →
      validateBlockers member prior rest previous = .ok () := by
  induction rest with
  | nil =>
    intro prior previous _ _ _
    rfl
  | cons blocker rest ih =>
    intro prior previous ranked ordered last
    obtain ⟨rank, ranks⟩ := Option.ne_none_iff_exists'.mp (ranked blocker (by simp))
    have before : ∀ earlier ∈ prior, earlier.ctorIdx < blocker.ctorIdx := fun earlier member =>
      (List.pairwise_append.mp ordered).2.2 earlier member blocker (by simp)
    have fresh : prior.findIdx? (· == blocker) = none := by
      rw [List.findIdx?_eq_none_iff]
      intro earlier listed
      have := before earlier listed
      simp only [beq_eq_false_iff_ne, ne_eq]
      rintro rfl
      omega
    have next : validateBlockers member (prior ++ [blocker]) rest (some (blocker, rank)) =
        .ok () := by
      apply ih
      · exact fun later listed => ranked later (List.mem_cons_of_mem _ listed)
      · rwa [List.append_assoc, List.singleton_append]
      · intro known known_rank same
        cases same
        exact ⟨by simp, ranks⟩
    unfold validateBlockers
    simp only [ranks, fresh]
    cases previous with
    | none => exact next
    | some entry =>
      rcases entry with ⟨known, knownRank⟩
      obtain ⟨listed, knownRanks⟩ := last known knownRank rfl
      have := before known listed
      rw [rank_ctorIdx ranks, rank_ctorIdx knownRanks] at this
      simp only [show ¬knownRank ≥ rank by omega, if_false]
      exact next

theorem foundBlockers_ranked (account : AccountRecord) :
    ∀ blocker ∈ foundBlockers account, accountRegistryMemberBlockerRank blocker ≠ none := by
  intro blocker found
  unfold foundBlockers at found
  simp only [List.mem_append, List.mem_ite_nil_right, List.mem_singleton] at found
  rcases found with (((⟨_, rfl⟩ | ⟨_, rfl⟩) | ⟨_, rfl⟩) | ⟨_, rfl⟩) | ⟨_, rfl⟩ <;>
    exact Option.some_ne_none _

theorem mem_accountBlockers {account : AccountRecord} {blocker : RoutingBlocker}
    (listed : blocker ∈ accountBlockers account) : blocker ∈ foundBlockers account := by
  have := (List.destutter_sublist _ _).subset listed
  rwa [List.mem_insertionSort] at this

theorem accountBlockers_increasing (account : AccountRecord) :
    (accountBlockers account).Pairwise fun a b => a.ctorIdx < b.ctorIdx := by
  have sorted : (accountBlockers account).Pairwise fun a b => a.ctorIdx ≤ b.ctorIdx :=
    (List.pairwise_insertionSort (fun a b : RoutingBlocker => a.ctorIdx ≤ b.ctorIdx) _).sublist
      (List.destutter_sublist _ _)
  have distinct : (accountBlockers account).IsChain (· ≠ ·) := List.isChain_destutter _ _
  have chain : (accountBlockers account).IsChain fun a b => a.ctorIdx < b.ctorIdx := by
    rw [List.isChain_iff_getElem] at distinct ⊢
    intro index inside
    have order := List.pairwise_iff_getElem.mp sorted index (index + 1) (by omega) inside (by omega)
    exact Nat.lt_of_le_of_ne order fun same => distinct index inside (ctorIdx_injective same)
  have : Trans (fun a b : RoutingBlocker => a.ctorIdx < b.ctorIdx)
      (fun a b : RoutingBlocker => a.ctorIdx < b.ctorIdx)
      (fun a b : RoutingBlocker => a.ctorIdx < b.ctorIdx) := ⟨Nat.lt_trans⟩
  exact chain.pairwise

theorem registryMember_blockers_ok (account : AccountRecord) (index : Nat) :
    validateAccountRegistryMemberBlockers (registryMember account index) = .ok () := by
  apply validateBlockers_ok
  · intro blocker listed
    exact foundBlockers_ranked account blocker (mem_accountBlockers listed)
  · exact accountBlockers_increasing account
  · intro _ _ same
    cases same

/-- The members of a snapshot over these accounts, the first of them at `index`. -/
def membersFrom (accounts : List AccountRecord) (index : Nat) :
    List AccountRegistryRoutingMember :=
  (accounts.zipIdx index).map fun (account, index) => registryMember account index

theorem membersFrom_cons (account : AccountRecord) (rest : List AccountRecord) (index : Nat) :
    membersFrom (account :: rest) index =
      registryMember account index :: membersFrom rest (index + 1) := rfl

theorem membersFrom_accountIds (accounts : List AccountRecord) (index : Nat) :
    (membersFrom accounts index).map (·.accountId) = accounts.map (·.accountId) := by
  induction accounts generalizing index with
  | nil => rfl
  | cons account rest ih =>
    rw [membersFrom_cons, List.map_cons, List.map_cons, ih]
    rfl

/-- The loop accepts accounts with positive revisions, each named once. -/
theorem validateMembers_ok (accounts : List AccountRecord)
    (revisions : ∀ account ∈ accounts, 0 < account.revision) :
    ∀ prior, (prior.map (·.accountId) ++ accounts.map (·.accountId)).Nodup →
      validateMembers prior (membersFrom accounts prior.length) = .ok () := by
  induction accounts with
  | nil =>
    intro prior _
    rfl
  | cons account rest ih =>
    intro prior distinct
    have positive : 0 < (registryMember account prior.length).accountRevision :=
      revisions account (by simp)
    have fresh : prior.find? (·.accountId == account.accountId) = none := by
      rw [List.find?_eq_none]
      intro other listed same
      have apart := (List.nodup_append.mp distinct).2.2 other.accountId (List.mem_map_of_mem listed)
        account.accountId (by simp)
      exact apart (by simpa using same)
    have tail := ih (fun other listed => revisions other (List.mem_cons_of_mem _ listed))
      (prior ++ [registryMember account prior.length])
    rw [List.length_append, List.length_singleton, List.map_append, List.append_assoc] at tail
    have rest_ok := tail distinct
    rw [membersFrom_cons]
    unfold validateMembers
    rw [if_neg (fun differ => differ rfl), if_neg (Int.not_le.mpr positive)]
    have fresh' : prior.find? (·.accountId == (registryMember account prior.length).accountId) =
        none := fresh
    simp only [fresh', registryMember_blockers_ok, ok_bind]
    exact rest_ok

/-- What a fact is looked up by. -/
def factKey (fact : AccountRegistryQuotaFact) : AccountId × QuotaWindowClass :=
  (fact.accountId, fact.window)

/-- A fact that the validation accepts, apart from its place. -/
def WellFormedFact (fact : AccountRegistryQuotaFact) : Prop :=
  fact.durationMinutes = accountRegistryWindowDuration fact.window ∧
    validateAccountRegistryQuotaObservation fact = .ok ()

theorem validateQuotaFacts_ok {members : List AccountRegistryRoutingMember}
    (facts : List AccountRegistryQuotaFact)
    (owned : ∀ fact ∈ facts, fact.accountId ∈ members.map (·.accountId))
    (wellFormed : ∀ fact ∈ facts, WellFormedFact fact) :
    ∀ prior, (prior.map factKey ++ facts.map factKey).Nodup →
      validateQuotaFacts members prior facts = .ok () := by
  induction facts with
  | nil =>
    intro prior _
    rfl
  | cons fact rest ih =>
    intro prior distinct
    obtain ⟨duration, observed⟩ := wellFormed fact (by simp)
    have known : members.any (·.accountId == fact.accountId) = true := by
      obtain ⟨member, listed, same⟩ := List.mem_map.mp (owned fact (by simp))
      exact List.any_eq_true.mpr ⟨member, listed, by simp [same]⟩
    have fresh : (prior.any fun other =>
        other.accountId == fact.accountId && other.window == fact.window) = false := by
      rw [List.any_eq_false]
      intro other listed same
      have apart := (List.nodup_append.mp distinct).2.2 (factKey other) (List.mem_map_of_mem listed)
        (factKey fact) (by simp)
      simp only [Bool.and_eq_true, beq_iff_eq] at same
      exact apart (Prod.ext same.1 same.2)
    have tail := ih (fun other listed => owned other (List.mem_cons_of_mem _ listed))
      (fun other listed => wellFormed other (List.mem_cons_of_mem _ listed)) (prior ++ [fact])
    rw [List.map_append, List.append_assoc] at tail
    unfold validateQuotaFacts
    rw [known, fresh, if_neg (by simp), if_neg (fun differ => differ duration), if_neg (by simp),
      observed, ok_bind]
    exact tail distinct

theorem findQuotaFact_of_key {facts : List AccountRegistryQuotaFact} {account : AccountId}
    {window : QuotaWindowClass} (listed : (account, window) ∈ facts.map factKey) :
    ∃ fact, findQuotaFact? facts account window = some fact := by
  obtain ⟨fact, member, same⟩ := List.mem_map.mp listed
  obtain ⟨rfl, rfl⟩ := Prod.mk.inj same
  rw [← Option.isSome_iff_exists, findQuotaFact?, List.find?_isSome]
  exact ⟨fact, member, by simp⟩

theorem collectMemberFacts_ok {facts : List AccountRegistryQuotaFact}
    (members : List AccountRegistryRoutingMember)
    (listed : ∀ member ∈ members, ∀ window, (member.accountId, window) ∈ facts.map factKey) :
    ∃ found, collectMemberFacts facts members = .ok found := by
  induction members with
  | nil => exact ⟨[], rfl⟩
  | cons member rest ih =>
    obtain ⟨others, collected⟩ :=
      ih fun other known => listed other (List.mem_cons_of_mem _ known)
    obtain ⟨fiveHour, fiveFact⟩ := findQuotaFact_of_key (listed member (by simp) .fiveHour)
    obtain ⟨sevenDay, sevenFact⟩ := findQuotaFact_of_key (listed member (by simp) .sevenDay)
    refine ⟨(fiveHour, sevenDay) :: others, ?_⟩
    unfold collectMemberFacts
    simp only [fiveFact, sevenFact, collected, ok_bind]

theorem checkCanonicalFacts_ok {facts : List AccountRegistryQuotaFact}
    (expected : List (AccountId × QuotaWindowClass)) :
    ∀ index, (facts.drop index).map factKey = expected →
      checkCanonicalFacts facts index expected = .ok () := by
  induction expected with
  | nil =>
    intro index _
    rfl
  | cons first rest ih =>
    intro index same
    rcases first with ⟨account, window⟩
    obtain ⟨fact, after, split, head, tail⟩ := List.map_eq_cons_iff.mp same
    have found : facts[index]? = some fact := by
      rw [← List.head?_drop, split, List.head?_cons]
    have later : facts.drop (index + 1) = after := by
      rw [← List.tail_drop, split, List.tail_cons]
    obtain ⟨rfl, rfl⟩ := Prod.mk.inj head
    unfold checkCanonicalFacts
    simp only [found, ne_eq, not_true_eq_false, or_self, if_false]
    exact ih (index + 1) (by rw [later, tail])

theorem expectedQuotaFacts_nodup {members : List AccountRegistryRoutingMember}
    (distinct : (members.map (·.accountId)).Nodup) : (expectedQuotaFacts members).Nodup := by
  induction members with
  | nil => exact List.nodup_nil
  | cons member rest ih =>
    rw [List.map_cons, List.nodup_cons] at distinct
    have absent : ∀ window, (member.accountId, window) ∉ expectedQuotaFacts rest := by
      intro window listed
      obtain ⟨other, known, named⟩ := List.mem_flatMap.mp listed
      apply distinct.1
      have : other.accountId = member.accountId := by
        simp only [List.mem_cons, Prod.mk.injEq, List.not_mem_nil, or_false] at named
        rcases named with ⟨same, _⟩ | ⟨same, _⟩ <;> exact same.symm
      exact this ▸ List.mem_map_of_mem known
    have tail := ih distinct.2
    unfold expectedQuotaFacts at tail absent ⊢
    rw [List.flatMap_cons, List.cons_append, List.cons_append, List.nil_append, List.nodup_cons,
      List.nodup_cons]
    refine ⟨?_, absent _, tail⟩
    simp only [List.mem_cons, Prod.mk.injEq, true_and, not_or]
    exact ⟨nofun, absent _⟩

/-- A snapshot over these accounts with canonical facts and a valid instant. -/
structure Canonical (snapshot : AccountRegistryRoutingSnapshot) (accounts : List AccountRecord) :
    Prop where
  instant : accountRegistryTimestampIsValid snapshot.resolvedAtMicros = true
  routing : 0 < snapshot.routingRevision
  profile : 0 < snapshot.taskRoleProfileRevision
  some : accounts ≠ []
  members : snapshot.members = membersFrom accounts 0
  revisions : ∀ account ∈ accounts, 0 < account.revision
  distinct : (accounts.map (·.accountId)).Nodup
  facts : snapshot.quotaFacts.map factKey = expectedQuotaFacts snapshot.members
  wellFormed : ∀ fact ∈ snapshot.quotaFacts, WellFormedFact fact

section Accepted

variable {snapshot : AccountRegistryRoutingSnapshot} {accounts : List AccountRecord}
  (canonical : Canonical snapshot accounts)
include canonical

theorem Canonical.accountIds :
    snapshot.members.map (·.accountId) = accounts.map (·.accountId) := by
  rw [canonical.members, membersFrom_accountIds]

theorem Canonical.members_ok :
    validateAccountRegistrySnapshotMembers snapshot snapshot.resolvedAtMicros = .ok () := by
  have nonempty : snapshot.members.isEmpty = false := by
    obtain ⟨first, rest, rfl⟩ := List.exists_cons_of_ne_nil canonical.some
    rw [canonical.members, membersFrom_cons]
    rfl
  have routing := canonical.routing
  have profile := canonical.profile
  unfold validateAccountRegistrySnapshotMembers
  rw [canonical.instant, nonempty, if_neg (by simp), if_neg (by omega), if_neg (by omega),
    if_neg (by simp), if_neg (by simp), canonical.members]
  exact validateMembers_ok accounts canonical.revisions [] (by simpa using canonical.distinct)

theorem Canonical.facts_ok : validateQuotaFacts snapshot.members [] snapshot.quotaFacts = .ok () := by
  apply validateQuotaFacts_ok _ _ canonical.wellFormed
  · rw [List.map_nil, List.nil_append, canonical.facts]
    apply expectedQuotaFacts_nodup
    rw [canonical.accountIds]
    exact canonical.distinct
  · intro fact listed
    have key : factKey fact ∈ expectedQuotaFacts snapshot.members := by
      rw [← canonical.facts]
      exact List.mem_map_of_mem listed
    obtain ⟨member, known, named⟩ := List.mem_flatMap.mp key
    simp only [factKey, List.mem_cons, Prod.mk.injEq, List.not_mem_nil, or_false] at named
    refine List.mem_map.mpr ⟨member, known, ?_⟩
    rcases named with ⟨same, _⟩ | ⟨same, _⟩ <;> exact same.symm

theorem Canonical.validated_ok :
    ∃ found, validatedAccountRegistryQuotaFacts snapshot snapshot.resolvedAtMicros = .ok found ∧
      collectMemberFacts snapshot.quotaFacts snapshot.members = .ok found := by
  obtain ⟨found, collected⟩ : ∃ found,
      collectMemberFacts snapshot.quotaFacts snapshot.members = .ok found := by
    apply collectMemberFacts_ok
    intro member known window
    rw [canonical.facts]
    refine List.mem_flatMap.mpr ⟨member, known, ?_⟩
    cases window <;> simp
  have ordered : checkCanonicalFacts snapshot.quotaFacts 0 (expectedQuotaFacts snapshot.members) =
      .ok () := checkCanonicalFacts_ok _ 0 (by rw [List.drop_zero, canonical.facts])
  refine ⟨found, ?_, collected⟩
  unfold validatedAccountRegistryQuotaFacts
  simp only [canonical.members_ok, canonical.facts_ok, collected, ordered, kernel, ok_bind]

/-- A canonical snapshot whose fixed target is a member is decided. -/
theorem Canonical.decided
    (named : ∀ target, snapshot.mode = .fixed target → target ∈ accounts.map (·.accountId)) :
    ∃ decision,
      decideAccountRegistryRouting snapshot snapshot.resolvedAtMicros = .ok decision := by
  obtain ⟨found, validated, collected⟩ := canonical.validated_ok
  obtain ⟨lengths, _⟩ := List.forall₂_iff_zip.mp (collectMemberFacts_spec collected)
  obtain ⟨evaluated, chosen⟩ : ∃ evaluated,
      accountRegistryEvaluatedMembers snapshot found = .ok evaluated := by
    unfold accountRegistryEvaluatedMembers
    cases mode : snapshot.mode with
    | balanced => exact ⟨_, rfl⟩
    | fixed target =>
      have listed := named target mode
      rw [← canonical.accountIds, ← List.map_fst_zip (Nat.le_of_eq lengths), List.map_map] at listed
      obtain ⟨entry, known, same⟩ := List.mem_map.mp listed
      have located : ((snapshot.members.zip found).find? (·.1.accountId == target)).isSome = true := by
        rw [List.find?_isSome]
        exact ⟨entry, known, by simpa using same⟩
      obtain ⟨first, located⟩ := Option.isSome_iff_exists.mp located
      exact ⟨[first], by simp only [located]⟩
  rw [decideAccountRegistryRouting_eq]
  simp only [validated, chosen, kernel, ok_bind]
  generalize evaluated.map _ = entries
  unfold decideEvaluations
  cases first : firstPass snapshot entries [] [] with
  | some decision => exact ⟨decision, rfl⟩
  | none =>
    rcases secondPass_spec snapshot (firstPass_none snapshot first) [] [] with
      ⟨_, _, _, _, _, _, result⟩ | ⟨_, result⟩
    · exact ⟨_, result⟩
    · exact ⟨_, result⟩

end Accepted

/-- The row obeys its table, and its instants are in the kernel's range. -/
def AdmittedRow (row : QuotaFactRow) (durationMinutes : Nat) : Prop :=
  row.check durationMinutes = true ∧
    accountRegistryTimestampIsValid row.observedAtMicros = true ∧
    ∀ resets, row.resetsAtMicros = some resets → accountRegistryTimestampIsValid resets = true

/-- A registry of 1 to 512 accounts, each named once, with admitted quota rows. -/
structure AdmittedRegistry (accounts : List StoredAccount) : Prop where
  some : registryAccounts accounts ≠ []
  bounded : (registryAccounts accounts).length ≤ 512
  distinct : ((registryAccounts accounts).map (·.accountId)).Nodup
  revisions : ∀ account ∈ registryAccounts accounts, 0 < account.revision
  fiveHour : ∀ account ∈ registryAccounts accounts, ∀ row, account.fiveHourFact = .some row →
    AdmittedRow row 300
  sevenDay : ∀ account ∈ registryAccounts accounts, ∀ row, account.sevenDayFact = .some row →
    AdmittedRow row 10080

/-- The observation turns into a fact of this window that the validation accepts. -/
def YieldsFact (window : QuotaWindowClass) (observation : AccountQuotaWindowObservation) : Prop :=
  ∀ account, ∃ fact, quotaFact account window observation = .ok fact ∧
    factKey fact = (account, window) ∧ WellFormedFact fact

theorem quotaFact_ok {account : AccountId} {window : QuotaWindowClass}
    {observation : AccountQuotaWindowObservation} {observed : AccountRegistryQuotaObservation}
    (duration : observation.durationMinutes = accountRegistryWindowDuration window)
    (read : quotaFactObservation observation = .ok observed) :
    quotaFact account window observation =
      .ok ⟨account, window, observation.durationMinutes, observed⟩ := by
  have narrow : ¬2 ^ 16 ≤ observation.durationMinutes := by
    rw [duration]
    cases window <;> decide
  unfold quotaFact
  rw [if_neg narrow, read]
  rfl

theorem yieldsFact_unknown (window : QuotaWindowClass) :
    YieldsFact window ⟨accountRegistryWindowDuration window, none, .unknown⟩ := by
  intro account
  exact ⟨_, quotaFact_ok rfl rfl, rfl, rfl, rfl⟩

section Row

variable {row : QuotaFactRow} {window : QuotaWindowClass}
  (admitted : AdmittedRow row (accountRegistryWindowDuration window))
include admitted

theorem yieldsFact_notApplicable (absent : row.notApplicable = true) :
    window = .fiveHour ∧ row.usedPercent = none ∧ row.resetsAtMicros = none ∧
      row.errorCode = none ∧ 0 < row.observedAtMicros ∧
      YieldsFact window
        ⟨accountRegistryWindowDuration window, some row.observedAtMicros, .notApplicable⟩ := by
  obtain ⟨check, observedValid, _⟩ := admitted
  simp only [QuotaFactRow.check, absent, Bool.and_eq_true, Bool.or_eq_true, Bool.not_true,
    Bool.false_and, Bool.false_eq_true, false_or, true_and, beq_iff_eq, decide_eq_true_eq,
    Option.isNone_iff_eq_none] at check
  obtain ⟨_, ⟨⟨⟨duration, positive⟩, noError⟩, noUsed⟩, noReset⟩ := check
  have fiveHour : window = .fiveHour := by
    cases window
    · rfl
    · cases duration
  refine ⟨fiveHour, noUsed, noReset, noError, positive, fun account => ?_⟩
  subst fiveHour
  refine ⟨_, quotaFact_ok rfl rfl, rfl, rfl, ?_⟩
  unfold validateAccountRegistryQuotaObservation
  dsimp only
  rw [if_neg (by simp), if_neg]
  rw [observedValid]
  simpa using positive

/-- An applicable row has both numbers and no error, or an error alone. -/
theorem applicable_cases (applies : row.notApplicable = false) :
    (∃ used resets, row.usedPercent = some used ∧ row.resetsAtMicros = some resets ∧
      row.errorCode = none ∧ 0 ≤ used ∧ used ≤ 100 ∧ row.observedAtMicros < resets) ∨
    (∃ code, row.errorCode = some code ∧ quotaErrorCodes.contains code = true ∧
      row.usedPercent = none ∧ row.resetsAtMicros = none) := by
  obtain ⟨check, _, _⟩ := admitted
  unfold QuotaFactRow.check at check
  rw [applies] at check
  cases used : row.usedPercent <;> cases resets : row.resetsAtMicros <;>
    cases code : row.errorCode <;> rw [used, resets, code] at check <;>
    simp at check
  · exact .inr ⟨_, rfl, by simpa using check.1, rfl, rfl⟩
  · exact .inl ⟨_, _, rfl, rfl, rfl, check.1.1.1, check.1.1.2, check.2⟩

omit admitted in
theorem yieldsFact_error {code : String} (coded : quotaErrorCodes.contains code = true)
    (observedAt : accountRegistryTimestampIsValid row.observedAtMicros = true) :
    ∃ error, parseQuotaError "quota observation error" code = .ok error ∧
      YieldsFact window ⟨accountRegistryWindowDuration window, some row.observedAtMicros,
        .error error⟩ := by
  have parsed : ∃ error, parseQuotaError "quota observation error" code = .ok error := by
    simp only [quotaErrorCodes, List.contains_cons, List.contains_nil, Bool.or_eq_true, beq_iff_eq,
      Bool.false_eq_true, or_false] at coded
    rcases coded with rfl | rfl | rfl | rfl <;> exact ⟨_, rfl⟩
  obtain ⟨error, parsed⟩ := parsed
  refine ⟨error, parsed, fun account => ⟨_, quotaFact_ok rfl rfl, rfl, rfl, ?_⟩⟩
  simp [validateAccountRegistryQuotaObservation, observedAt]

/-- Whatever the clock shows, an admitted row yields a fact that the validation accepts. -/
theorem quotaObservation_ok (now : Int) : ∃ observation,
    quotaObservationSync (some row) (accountRegistryWindowDuration window) now = .ok observation ∧
      YieldsFact window observation := by
  have unknown : required "quota duration"
      (AccountQuotaWindowObservation.unknown (accountRegistryWindowDuration window)) =
      .ok ⟨accountRegistryWindowDuration window, none, .unknown⟩ := by
    cases window <;> rfl
  unfold quotaObservationSync
  dsimp only
  cases applies : row.notApplicable with
  | true =>
    obtain ⟨fiveHour, used, resets, code, positive, fact⟩ := yieldsFact_notApplicable admitted applies
    rw [if_pos rfl, used, resets, code, if_neg (by simp [fiveHour, accountRegistryWindowDuration,
      positive])]
    split
    · exact ⟨_, unknown, yieldsFact_unknown window⟩
    · exact ⟨_, rfl, fact⟩
  | false =>
    rw [if_neg (by simp)]
    rcases applicable_cases admitted applies with
      ⟨used, resets, hasUsed, hasResets, noCode, low, high, later⟩ | ⟨code, hasCode, known, noUsed,
        noResets⟩
    · have observedValid := admitted.2.1
      have resetsValid := admitted.2.2 resets hasResets
      have notPast : 0 < resets := by
        simp only [accountRegistryTimestampIsValid, Bool.and_eq_true, decide_eq_true_eq] at observedValid
        omega
      have window_ok : AccountQuotaWindow.new (accountRegistryWindowDuration window) used.toNat resets =
          some ⟨accountRegistryWindowDuration window, used.toNat, resets⟩ := by
        unfold AccountQuotaWindow.new
        rw [if_neg]
        cases window <;> simp [accountRegistryWindowDuration] <;> omega
      have valid : ∀ account : AccountId, validateAccountRegistryQuotaObservation
          ⟨account, window, accountRegistryWindowDuration window,
            .current used.toNat row.observedAtMicros resets⟩ = .ok () := by
        intro account
        unfold validateAccountRegistryQuotaObservation
        dsimp only
        rw [if_neg (by omega), observedValid, resetsValid, if_neg (by simp),
          if_neg (by simpa using later)]
      rw [noCode, if_neg (by simp)]
      unfold rowDisposition
      rw [hasUsed, hasResets, noCode]
      dsimp only
      unfold windowObservation
      rw [if_pos (by omega), required_some, ok_bind, window_ok, required_some, ok_bind]
      split
      · exact ⟨_, rfl, fun account => ⟨_, quotaFact_ok rfl rfl, rfl, rfl, valid account⟩⟩
      · exact ⟨_, rfl, fun account => ⟨_, quotaFact_ok rfl rfl, rfl, rfl, valid account⟩⟩
    · rw [hasCode]
      split
      · exact ⟨_, unknown, yieldsFact_unknown window⟩
      · obtain ⟨error, parsed, fact⟩ := yieldsFact_error known admitted.2.1
        unfold rowDisposition
        rw [noUsed, noResets, hasCode]
        dsimp only
        rw [parsed]
        exact ⟨_, rfl, fact⟩

end Row

/-- With or without a row. -/
theorem quotaObservation_of_admitted {fact : Option QuotaFactRow} {window : QuotaWindowClass}
    (admitted : ∀ row, fact = some row → AdmittedRow row (accountRegistryWindowDuration window))
    (now : Int) : ∃ observation,
      quotaObservationSync fact (accountRegistryWindowDuration window) now = .ok observation ∧
        YieldsFact window observation := by
  cases fact with
  | none => exact ⟨_, by cases window <;> rfl, yieldsFact_unknown window⟩
  | some row => exact quotaObservation_ok (admitted row rfl) now

/-- What the snapshot needs of a record of this account. -/
structure SoundRecord (base : StoredAccount) (record : AccountRecord) : Prop where
  accountId : record.accountId = base.accountId
  revision : record.revision = base.revision
  facts : ∃ fiveHour sevenDay, accountFacts record = .ok [fiveHour, sevenDay] ∧
    factKey fiveHour = (base.accountId, .fiveHour) ∧
    factKey sevenDay = (base.accountId, .sevenDay) ∧
    WellFormedFact fiveHour ∧ WellFormedFact sevenDay

theorem accountFromBase_ok {base : StoredAccount} (clock : RegistryClock)
    (fiveHour : ∀ row, base.fiveHourFact = some row → AdmittedRow row 300)
    (sevenDay : ∀ row, base.sevenDayFact = some row → AdmittedRow row 10080) :
    ∃ record, accountFromBase clock base = .ok record ∧ SoundRecord base record := by
  obtain ⟨first, firstRead, firstFact⟩ :=
    @quotaObservation_of_admitted base.fiveHourFact .fiveHour fiveHour
      (clock base.accountId .fiveHour)
  obtain ⟨second, secondRead, secondFact⟩ :=
    @quotaObservation_of_admitted base.sevenDayFact .sevenDay sevenDay
      (clock base.accountId .sevenDay)
  change quotaObservationSync base.fiveHourFact 300 _ = _ at firstRead
  change quotaObservationSync base.sevenDayFact 10080 _ = _ at secondRead
  obtain ⟨fiveFact, fiveMade, fiveKey, fiveFormed⟩ := firstFact base.accountId
  obtain ⟨sevenFact, sevenMade, sevenKey, sevenFormed⟩ := secondFact base.accountId
  refine ⟨⟨base.accountId, base.enabled, base.revision, base.state, base.lifecycleReadiness, first,
    second, base.tombstoned⟩, ?_, rfl, rfl, fiveFact, sevenFact, ?_, fiveKey, sevenKey, fiveFormed,
    sevenFormed⟩
  · unfold accountFromBase
    rw [firstRead, ok_bind, secondRead, ok_bind]
  · unfold accountFacts
    rw [fiveMade, ok_bind, sevenMade, ok_bind]

theorem readAccountRegistry_ok {accounts : List StoredAccount} (admitted : AdmittedRegistry accounts)
    (clock : RegistryClock) : ∃ records,
      readAccountRegistrySync accounts clock 512 = .ok records ∧
        List.Forall₂ SoundRecord (registryAccounts accounts) records := by
  obtain ⟨records, read, sound⟩ := mapM_ok_of_each (R := SoundRecord) fun base listed =>
    accountFromBase_ok clock (admitted.fiveHour base listed) (admitted.sevenDay base listed)
  refine ⟨records, ?_, sound⟩
  unfold readAccountRegistrySync
  rw [if_neg (Nat.not_lt.mpr admitted.bounded), read]

/-- The facts of the records are the two of each, in order. -/
theorem recordFacts_ok {bases : List StoredAccount} {records : List AccountRecord}
    (sound : List.Forall₂ SoundRecord bases records) (index : Nat) :
    ∃ facts, records.mapM accountFacts = .ok facts ∧
      facts.flatten.map factKey = expectedQuotaFacts (membersFrom records index) ∧
      ∀ fact ∈ facts.flatten, WellFormedFact fact := by
  induction sound generalizing index with
  | nil => exact ⟨[], rfl, rfl, List.forall_mem_nil _⟩
  | @cons base record bases records first _ ih =>
    obtain ⟨fiveHour, sevenDay, made, fiveKey, sevenKey, fiveFormed, sevenFormed⟩ := first.facts
    obtain ⟨facts, mapped, keys, formed⟩ := ih (index + 1)
    refine ⟨[fiveHour, sevenDay] :: facts, ?_, ?_, ?_⟩
    · rw [List.mapM_cons, made, ok_bind, mapped, ok_bind]
      rfl
    · rw [List.flatten_cons, List.map_append, keys, membersFrom_cons, expectedQuotaFacts,
        expectedQuotaFacts, List.flatMap_cons, List.map_cons, List.map_cons, fiveKey, sevenKey,
        ← first.accountId]
      rfl
    · intro fact listed
      rw [List.flatten_cons, List.mem_append, List.mem_cons, List.mem_singleton] at listed
      rcases listed with (rfl | rfl) | later
      · exact fiveFormed
      · exact sevenFormed
      · exact formed fact later

theorem soundRecords_accountIds {bases : List StoredAccount} {records : List AccountRecord}
    (sound : List.Forall₂ SoundRecord bases records) :
    records.map (·.accountId) = bases.map (·.accountId) := by
  induction sound with
  | nil => rfl
  | cons first _ ih => rw [List.map_cons, List.map_cons, first.accountId, ih]

theorem soundRecords_base {bases : List StoredAccount} {records : List AccountRecord}
    (sound : List.Forall₂ SoundRecord bases records) :
    ∀ record ∈ records, ∃ base ∈ bases, record.revision = base.revision := by
  induction sound with
  | nil => simp
  | @cons base record bases records first _ ih =>
    intro other listed
    rcases List.mem_cons.mp listed with rfl | later
    · exact ⟨base, by simp, first.revision⟩
    · obtain ⟨origin, known, same⟩ := ih other later
      exact ⟨origin, List.mem_cons_of_mem _ known, same⟩

/-- A control and a clock that the kernel takes. -/
structure AdmittedControl (accounts : List StoredAccount) (mode : AccountSelectionMode)
    (routingRevision profileRevision now : Int) : Prop where
  routing : 0 < routingRevision
  profile : 0 < profileRevision
  instant : accountRegistryTimestampIsValid now = true
  fixed : ∀ target, mode = .fixed target → target ∈ (registryAccounts accounts).map (·.accountId)

/-- The snapshot of an admitted registry is built, and the kernel decides on it. -/
theorem admitted_registry_is_decided {accounts : List StoredAccount} {mode : AccountSelectionMode}
    {routingRevision profileRevision now : Int} (admitted : AdmittedRegistry accounts)
    (control : AdmittedControl accounts mode routingRevision profileRevision now)
    (clock : RegistryClock) (snapshotId : String) :
    ∃ records snapshot decision, readAccountRegistrySync accounts clock 512 = .ok records ∧
      buildSnapshot snapshotId routingRevision mode profileRevision now records = .ok snapshot ∧
      decideAccountRegistryRouting snapshot now = .ok decision := by
  obtain ⟨records, read, sound⟩ := readAccountRegistry_ok admitted clock
  obtain ⟨facts, mapped, keys, formed⟩ := recordFacts_ok sound 0
  have accountIds := soundRecords_accountIds sound
  have canonical : Canonical ⟨snapshotId, routingRevision, mode, profileRevision, now,
      membersFrom records 0, facts.flatten⟩ records :=
    { instant := control.instant
      routing := control.routing
      profile := control.profile
      some := by
        rintro rfl
        exact admitted.some (List.eq_nil_of_length_eq_zero sound.length_eq)
      members := rfl
      revisions := fun record listed => by
        obtain ⟨base, known, same⟩ := soundRecords_base sound record listed
        rw [same]
        exact admitted.revisions base known
      distinct := by
        rw [accountIds]
        exact admitted.distinct
      facts := keys
      wellFormed := formed }
  obtain ⟨decision, decided⟩ := canonical.decided fun target fixed => by
    rw [accountIds]
    exact control.fixed target fixed
  refine ⟨records, _, decision, read, ?_, decided⟩
  unfold buildSnapshot
  rw [mapped, ok_bind]
  rfl

end Decodex.Guarantees.RoutingSnapshots
