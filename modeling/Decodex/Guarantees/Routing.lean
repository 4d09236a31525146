import Mathlib.Data.List.Forall2
import Decodex.Source.Core.Routing

/-!
# The routing kernel meets its specification

An independent description of an account's standing at an instant (available, blocked,
neither) and of the causes and exclusions that explain it, and the proof that the two
passes of `decide_account_registry_routing` select and explain accordingly. A failed
observation never blocks, whatever its time stamp: only the two positive observations can
lie in the future.
-/
namespace Decodex.Guarantees.Routing

open Decodex.Source.Core Decodex.Source.Core.Routing

/-- Observed not after the instant and at most 300 s before it. -/
def Recent (now observedAt : Int) : Prop := observedAt ≤ now ∧ now - observedAt ≤ 300 * 1000000

instance (now observedAt : Int) : Decidable (Recent now observedAt) :=
  inferInstanceAs (Decidable (_ ∧ _))

/-- The observation is current and leaves capacity. -/
def HasCapacity (now : Int) : AccountRegistryQuotaObservation → Prop
  | .notApplicable observedAt => Recent now observedAt
  | .current used observedAt resetsAt => Recent now observedAt ∧ now < resetsAt ∧ used < 100
  | .missing | .observationError _ _ => False

/-- A positive observation from after the instant. -/
def FromFuture (now : Int) : AccountRegistryQuotaObservation → Prop
  | .notApplicable observedAt | .current _ observedAt _ => now < observedAt
  | .missing | .observationError _ _ => False

/-- The observation is current, its window has not reset, and nothing of it is left. -/
def Depleted (now : Int) : AccountRegistryQuotaObservation → Prop
  | .current used observedAt resetsAt => Recent now observedAt ∧ now < resetsAt ∧ 100 ≤ used
  | .notApplicable _ | .missing | .observationError _ _ => False

instance (now : Int) : (observation : AccountRegistryQuotaObservation) →
    Decidable (HasCapacity now observation)
  | .notApplicable _ => inferInstanceAs (Decidable (Recent _ _))
  | .current _ _ _ => inferInstanceAs (Decidable (_ ∧ _))
  | .missing | .observationError _ _ => inferInstanceAs (Decidable False)

instance (now : Int) : (observation : AccountRegistryQuotaObservation) →
    Decidable (FromFuture now observation)
  | .notApplicable _ | .current _ _ _ => inferInstanceAs (Decidable (_ < _))
  | .missing | .observationError _ _ => inferInstanceAs (Decidable False)

instance (now : Int) : (observation : AccountRegistryQuotaObservation) →
    Decidable (Depleted now observation)
  | .current _ _ _ => inferInstanceAs (Decidable (_ ∧ _))
  | .notApplicable _ | .missing | .observationError _ _ => inferInstanceAs (Decidable False)

variable (snapshot : AccountRegistryRoutingSnapshot) (now : Int)

/-- `fact` is what the snapshot observed for the member's `window`. -/
def WindowFact (member : AccountRegistryRoutingMember) (window : QuotaWindowClass)
    (fact : AccountRegistryQuotaFact) : Prop :=
  findQuotaFact? snapshot.quotaFacts member.accountId window = some fact

def Available (member : AccountRegistryRoutingMember) : Prop :=
  member.blockers = [] ∧
    ∀ window, ∃ fact, WindowFact snapshot member window fact ∧ HasCapacity now fact.observation

/-- Blocked by something other than depletion. -/
def HardBlocked (member : AccountRegistryRoutingMember) : Prop :=
  member.blockers ≠ [] ∨ ∃ window fact, WindowFact snapshot member window fact ∧
    FromFuture now fact.observation

def Blocked (member : AccountRegistryRoutingMember) : Prop :=
  HardBlocked snapshot now member ∨
    ∃ window fact, WindowFact snapshot member window fact ∧ Depleted now fact.observation

/-- The members a decision is about: all in order, or the fixed target alone. -/
def candidates : List AccountRegistryRoutingMember :=
  match snapshot.mode with
  | .balanced => snapshot.members
  | .fixed accountId => (snapshot.members.find? (·.accountId == accountId)).toList

/-- The cause a single window retains that does not block: missing, failed, stale, reset. -/
def softBlocker (fact : AccountRegistryQuotaFact) : Option RoutingBlocker :=
  match fact.observation with
  | .missing => some (accountRegistryMissingBlocker fact.window)
  | .observationError _ _ => some (accountRegistryUnknownBlocker fact.window)
  | .notApplicable observedAt =>
    if observedAt ≤ now ∧ ¬Recent now observedAt then
      some (accountRegistryStaleBlocker fact.window)
    else none
  | .current _ observedAt resetsAt =>
    if observedAt ≤ now ∧ ¬Recent now observedAt then
      some (accountRegistryStaleBlocker fact.window)
    else if Recent now observedAt ∧ resetsAt ≤ now then
      some (accountRegistryResetElapsedBlocker fact.window)
    else none

/-- The member's window facts, five-hour first. -/
def windowFacts (member : AccountRegistryRoutingMember) : List AccountRegistryQuotaFact :=
  [QuotaWindowClass.fiveHour, .sevenDay].filterMap
    (findQuotaFact? snapshot.quotaFacts member.accountId)

def hardBlockers (member : AccountRegistryRoutingMember) : List RoutingBlocker :=
  member.blockers ++ ((windowFacts snapshot member).filter (FromFuture now ·.observation)).map
    fun fact => accountRegistryFromFutureBlocker fact.window

/-- The exclusion a depleted fact yields. -/
def depletionExclusion (member : AccountRegistryRoutingMember) (fact : AccountRegistryQuotaFact) :
    Option AccountRegistryRoutingExclusion :=
  match fact.observation with
  | .current used observedAt resetsAt =>
    if Recent now observedAt ∧ now < resetsAt ∧ 100 ≤ used then
      some ⟨member.accountId, member.position, fact.window, fact.durationMinutes, used,
        observedAt, resetsAt⟩
    else none
  | _ => none

def memberExclusions (member : AccountRegistryRoutingMember) :
    List AccountRegistryRoutingExclusion :=
  (windowFacts snapshot member).filterMap (depletionExclusion now member)

/-- Hard causes come with the soft ones behind them; a mere depletion retains no cause. -/
def memberCauses (member : AccountRegistryRoutingMember) : List RoutingDecisionCause :=
  let hard := hardBlockers snapshot now member
  let soft := (windowFacts snapshot member).filterMap (softBlocker now)
  (if hard ≠ [] then hard ++ soft
    else if memberExclusions snapshot now member ≠ [] then []
    else soft).map fun blocker => ⟨member.accountId, blocker⟩

/-- The explanation lists are the classifications of `members`, in order. -/
def Explains (decision : AccountRegistryRoutingDecision)
    (members : List AccountRegistryRoutingMember) : Prop :=
  decision.causes = members.flatMap (memberCauses snapshot now) ∧
    decision.exclusions = members.flatMap (memberExclusions snapshot now)

/-- The decision names the first candidate with property `P` and explains those before. -/
def SelectsFirst (decision : AccountRegistryRoutingDecision)
    (P : AccountRegistryRoutingMember → Prop) : Prop :=
  ∃ before member after, candidates snapshot = before ++ member :: after ∧ P member ∧
    (∀ earlier ∈ before, ¬P earlier) ∧ decision.kind = .selected ∧
    decision.selectedAccountId = some member.accountId ∧ Explains snapshot now decision before

/-- Nothing is selected, and every candidate is explained. -/
def SelectsNone (decision : AccountRegistryRoutingDecision)
    (kind : AccountRegistryRoutingDecisionKind) : Prop :=
  decision.kind = kind ∧ decision.selectedAccountId = none ∧
    Explains snapshot now decision (candidates snapshot)

/-- What one round of the window loop adds to each accumulator. -/
theorem classifyWindow_eq (member : AccountRegistryRoutingMember)
    (fact : AccountRegistryQuotaFact) (tally : WindowTally) :
    classifyWindow member now tally fact =
      ⟨tally.hardCauses ++ (if FromFuture now fact.observation then
          [⟨member.accountId, accountRegistryFromFutureBlocker fact.window⟩] else []),
        tally.unknownCauses ++ (softBlocker now fact).toList.map fun blocker =>
          ⟨member.accountId, blocker⟩,
        tally.exclusions ++ (depletionExclusion now member fact).toList,
        tally.knownAvailableWindows + if HasCapacity now fact.observation then 1 else 0⟩ := by
  rcases fact with ⟨account, window, duration, observation⟩
  unfold classifyWindow softBlocker depletionExclusion accountRegistryQuotaFreshnessMicros
  cases observation with
  | missing => simp [FromFuture, HasCapacity]
  | observationError error observedAt => simp [FromFuture, HasCapacity]
  | notApplicable observedAt =>
    simp only [FromFuture, HasCapacity, Recent]
    by_cases future : observedAt > now
    · have : ¬observedAt ≤ now := by omega
      simp [future, this]
    · have past : observedAt ≤ now := by omega
      by_cases stale : now - observedAt > 300000000
      · have : ¬now - observedAt ≤ 300000000 := by omega
        simp [past, stale, this, show ¬now < observedAt by omega]
      · have fresh : now - observedAt ≤ 300000000 := by omega
        simp [past, stale, fresh, show ¬now < observedAt by omega]
  | current used observedAt resetsAt =>
    simp only [FromFuture, HasCapacity, Recent]
    by_cases future : observedAt > now
    · have : ¬observedAt ≤ now := by omega
      simp [future, this]
    · have past : observedAt ≤ now := by omega
      have notFuture : ¬now < observedAt := by omega
      by_cases stale : now - observedAt > 300000000
      · have : ¬now - observedAt ≤ 300000000 := by omega
        simp [past, stale, this, notFuture]
      · have fresh : now - observedAt ≤ 300000000 := by omega
        by_cases reset : resetsAt ≤ now
        · simp [past, stale, fresh, notFuture, reset, show ¬now < resetsAt by omega]
        · have live : now < resetsAt := by omega
          by_cases full : 100 ≤ used
          · simp [past, stale, fresh, notFuture, reset, live, full, show ¬used < 100 by omega]
          · simp [past, stale, fresh, notFuture, reset, live, full, show used < 100 by omega]

theorem hasCapacity_excludes {observation : AccountRegistryQuotaObservation}
    (h : HasCapacity now observation) :
    ¬FromFuture now observation ∧ ¬Depleted now observation := by
  cases observation <;> simp [HasCapacity, FromFuture, Depleted, Recent] at h ⊢ <;> omega

theorem depletionExclusion_isSome (member : AccountRegistryRoutingMember)
    (fact : AccountRegistryQuotaFact) :
    depletionExclusion now member fact ≠ none ↔ Depleted now fact.observation := by
  unfold depletionExclusion
  cases fact.observation <;> simp [Depleted]

section Member

variable {snapshot} {member : AccountRegistryRoutingMember}
  {fiveHour sevenDay : AccountRegistryQuotaFact}
  (fiveFact : WindowFact snapshot member .fiveHour fiveHour)
  (sevenFact : WindowFact snapshot member .sevenDay sevenDay)
include fiveFact sevenFact

theorem exists_windowFact_iff {P : AccountRegistryQuotaObservation → Prop} :
    (∃ window fact, WindowFact snapshot member window fact ∧ P fact.observation) ↔
      P fiveHour.observation ∨ P sevenDay.observation := by
  unfold WindowFact at *
  constructor
  · rintro ⟨window, fact, found, holds⟩
    cases window with
    | fiveHour => exact .inl (by rw [Option.some.inj (fiveFact.symm.trans found)]; exact holds)
    | sevenDay => exact .inr (by rw [Option.some.inj (sevenFact.symm.trans found)]; exact holds)
  · rintro (holds | holds)
    · exact ⟨.fiveHour, fiveHour, fiveFact, holds⟩
    · exact ⟨.sevenDay, sevenDay, sevenFact, holds⟩

theorem available_iff : Available snapshot now member ↔ member.blockers = [] ∧
    HasCapacity now fiveHour.observation ∧ HasCapacity now sevenDay.observation := by
  unfold Available WindowFact at *
  refine and_congr_right fun _ => ⟨fun all => ?_, fun ⟨five, seven⟩ window => ?_⟩
  · obtain ⟨five, foundFive, capFive⟩ := all .fiveHour
    obtain ⟨seven, foundSeven, capSeven⟩ := all .sevenDay
    rw [Option.some.inj (fiveFact.symm.trans foundFive),
      Option.some.inj (sevenFact.symm.trans foundSeven)]
    exact ⟨capFive, capSeven⟩
  · cases window with
    | fiveHour => exact ⟨fiveHour, fiveFact, five⟩
    | sevenDay => exact ⟨sevenDay, sevenFact, seven⟩

theorem windowFacts_eq : windowFacts snapshot member = [fiveHour, sevenDay] := by
  unfold WindowFact at *
  simp [windowFacts, fiveFact, sevenFact]

theorem hardBlockers_ne_nil_iff :
    hardBlockers snapshot now member ≠ [] ↔ HardBlocked snapshot now member := by
  unfold HardBlocked
  rw [exists_windowFact_iff fiveFact sevenFact, hardBlockers, windowFacts_eq fiveFact sevenFact]
  by_cases five : FromFuture now fiveHour.observation <;>
    by_cases seven : FromFuture now sevenDay.observation <;> simp [five, seven]

theorem memberExclusions_ne_nil_iff : memberExclusions snapshot now member ≠ [] ↔
    Depleted now fiveHour.observation ∨ Depleted now sevenDay.observation := by
  rw [memberExclusions, windowFacts_eq fiveFact sevenFact]
  have five := depletionExclusion_isSome now member fiveHour
  have seven := depletionExclusion_isSome now member sevenDay
  rw [← five, ← seven]
  cases first : depletionExclusion now member fiveHour <;>
    cases second : depletionExclusion now member sevenDay <;>
      simp [first, second]

theorem blocked_iff : Blocked snapshot now member ↔
    hardBlockers snapshot now member ≠ [] ∨ memberExclusions snapshot now member ≠ [] := by
  unfold Blocked
  rw [hardBlockers_ne_nil_iff now fiveFact sevenFact, memberExclusions_ne_nil_iff now fiveFact sevenFact,
    exists_windowFact_iff fiveFact sevenFact]

theorem available_not_blocked (available : Available snapshot now member) :
    ¬Blocked snapshot now member := by
  obtain ⟨clear, five, seven⟩ := (available_iff now fiveFact sevenFact).mp available
  obtain ⟨fiveNow, fiveLeft⟩ := hasCapacity_excludes now five
  obtain ⟨sevenNow, sevenLeft⟩ := hasCapacity_excludes now seven
  unfold Blocked HardBlocked
  rw [exists_windowFact_iff fiveFact sevenFact, exists_windowFact_iff fiveFact sevenFact]
  tauto

omit fiveFact sevenFact in
theorem Available.not_blocked {now : Int} (available : Available snapshot now member) :
    ¬Blocked snapshot now member := by
  obtain ⟨_, fiveFact, _⟩ := available.2 .fiveHour
  obtain ⟨_, sevenFact, _⟩ := available.2 .sevenDay
  exact available_not_blocked now fiveFact sevenFact available

/-- The accumulators after both windows are the specified lists. -/
theorem memberTally_eq : memberTally member (fiveHour, sevenDay) now =
    ⟨(hardBlockers snapshot now member).map fun blocker => ⟨member.accountId, blocker⟩,
      ((windowFacts snapshot member).filterMap (softBlocker now)).map fun blocker =>
        ⟨member.accountId, blocker⟩,
      memberExclusions snapshot now member,
      (if HasCapacity now fiveHour.observation then 1 else 0) +
        if HasCapacity now sevenDay.observation then 1 else 0⟩ := by
  unfold memberTally hardBlockers memberExclusions
  rw [windowFacts_eq fiveFact sevenFact]
  simp only [List.foldl_cons, List.foldl_nil, classifyWindow_eq]
  congr 1
  · by_cases five : FromFuture now fiveHour.observation <;>
      by_cases seven : FromFuture now sevenDay.observation <;> simp [five, seven]
  · cases five : softBlocker now fiveHour <;> cases seven : softBlocker now sevenDay <;>
      simp [five, seven]
  · cases five : depletionExclusion now member fiveHour <;>
      cases seven : depletionExclusion now member sevenDay <;>
        simp [five, seven]
  · simp

/-- The three capacity classes are the three standings, with the specified explanation. -/
theorem classify_spec :
    match classifyAccountRegistryMember member (fiveHour, sevenDay) now with
    | .knownAvailable => Available snapshot now member
    | .unknown causes => ¬Available snapshot now member ∧ ¬Blocked snapshot now member ∧
        causes = memberCauses snapshot now member ∧ memberExclusions snapshot now member = []
    | .blocked causes exclusions => Blocked snapshot now member ∧
        causes = memberCauses snapshot now member ∧
        exclusions = memberExclusions snapshot now member ∧
        (causes = [] ↔ ¬HardBlocked snapshot now member) := by
  have availableIff := available_iff now fiveFact sevenFact
  have blockedIff := blocked_iff now fiveFact sevenFact
  have hardIff := hardBlockers_ne_nil_iff now fiveFact sevenFact
  unfold classifyAccountRegistryMember memberCauses
  rw [memberTally_eq now fiveFact sevenFact]
  by_cases hard : hardBlockers snapshot now member = []
  · have notHard : ¬HardBlocked snapshot now member := fun h => hardIff.mpr h hard
    by_cases depleted : memberExclusions snapshot now member = []
    · have open_ : ¬Blocked snapshot now member := by
        rw [blockedIff]
        simp [hard, depleted]
      have clear : member.blockers = [] := (List.append_eq_nil_iff.mp hard).1
      by_cases five : HasCapacity now fiveHour.observation <;>
        by_cases seven : HasCapacity now sevenDay.observation <;>
          simp [hard, depleted, open_, five, seven, availableIff, clear]
    · have blocked := blockedIff.mpr (.inr depleted)
      simp [hard, depleted, blocked, notHard]
  · have isHard : HardBlocked snapshot now member := hardIff.mp hard
    have blocked := blockedIff.mpr (.inl hard)
    simp [hard, blocked, isHard]

end Member

/-- The causes and exclusions of a capacity class. -/
def capacityCauses : AccountRegistryMemberCapacity → List RoutingDecisionCause
  | .knownAvailable => []
  | .unknown causes | .blocked causes _ => causes

def capacityExclusions : AccountRegistryMemberCapacity → List AccountRegistryRoutingExclusion
  | .knownAvailable | .unknown _ => []
  | .blocked _ exclusions => exclusions

/-- The decision that selects `member` after the classified members `before`, with
accumulators that held `exclusions` and `causes`. -/
def selectedAfter (before : List (AccountRegistryRoutingMember × AccountRegistryMemberCapacity))
    (member : AccountRegistryRoutingMember) (exclusions : List AccountRegistryRoutingExclusion)
    (causes : List RoutingDecisionCause) : AccountRegistryRoutingDecision :=
  accountRegistrySelectedDecision snapshot member
    (exclusions ++ before.flatMap fun entry => capacityExclusions entry.2)
    (causes ++ before.flatMap fun entry => capacityCauses entry.2)

theorem firstPass_some {entries : List (AccountRegistryRoutingMember × AccountRegistryMemberCapacity)}
    {exclusions : List AccountRegistryRoutingExclusion} {causes : List RoutingDecisionCause}
    {decision : AccountRegistryRoutingDecision}
    (chosen : firstPass snapshot entries exclusions causes = some decision) :
    ∃ before member after, entries = before ++ (member, .knownAvailable) :: after ∧
      (∀ entry ∈ before, entry.2 ≠ .knownAvailable) ∧
      decision = selectedAfter snapshot before member exclusions causes := by
  induction entries generalizing exclusions causes with
  | nil => cases chosen
  | cons entry rest ih =>
    rcases entry with ⟨member, capacity⟩
    cases capacity with
    | knownAvailable =>
      cases chosen
      exact ⟨[], member, rest, rfl, by simp, by simp [selectedAfter]⟩
    | unknown soft =>
      obtain ⟨before, found, after, rfl, others, rfl⟩ := ih chosen
      refine ⟨(member, .unknown soft) :: before, found, after, rfl, ?_, ?_⟩
      · simpa using others
      · simp [selectedAfter, capacityCauses, capacityExclusions]
    | blocked memberCauses memberExclusions =>
      obtain ⟨before, found, after, rfl, others, rfl⟩ := ih chosen
      refine ⟨(member, .blocked memberCauses memberExclusions) :: before, found, after, rfl,
        ?_, ?_⟩
      · simpa using others
      · simp [selectedAfter, capacityCauses, capacityExclusions]

theorem firstPass_none {entries : List (AccountRegistryRoutingMember × AccountRegistryMemberCapacity)}
    {exclusions : List AccountRegistryRoutingExclusion} {causes : List RoutingDecisionCause}
    (passed : firstPass snapshot entries exclusions causes = none) :
    ∀ entry ∈ entries, entry.2 ≠ .knownAvailable := by
  induction entries generalizing exclusions causes with
  | nil => simp
  | cons entry rest ih =>
    rcases entry with ⟨member, capacity⟩
    cases capacity with
    | knownAvailable => cases passed
    | unknown soft => simpa using ih passed
    | blocked memberCauses memberExclusions => simpa using ih passed

/-- Without a known available member, the second pass selects the first that is not
blocked, and otherwise retains every classification. -/
theorem secondPass_spec
    {entries : List (AccountRegistryRoutingMember × AccountRegistryMemberCapacity)}
    (none : ∀ entry ∈ entries, entry.2 ≠ .knownAvailable)
    (exclusions : List AccountRegistryRoutingExclusion) (causes : List RoutingDecisionCause) :
    (∃ before member soft after, entries = before ++ (member, .unknown soft) :: after ∧
      (∀ entry ∈ before, ∃ c e, entry.2 = .blocked c e) ∧
      secondPass snapshot entries exclusions causes =
        .ok (selectedAfter snapshot before member exclusions causes)) ∨
    ((∀ entry ∈ entries, ∃ c e, entry.2 = .blocked c e) ∧
      secondPass snapshot entries exclusions causes =
        .ok ⟨snapshot.snapshotId,
          if (causes ++ entries.flatMap fun entry => capacityCauses entry.2).isEmpty then .waiting
            else .noRoute,
          .none, exclusions ++ entries.flatMap fun entry => capacityExclusions entry.2,
          causes ++ entries.flatMap fun entry => capacityCauses entry.2⟩) := by
  induction entries generalizing exclusions causes with
  | nil => exact .inr ⟨by simp, by simp [secondPass]⟩
  | cons entry rest ih =>
    rcases entry with ⟨member, capacity⟩
    cases capacity with
    | knownAvailable => exact absurd rfl (none _ List.mem_cons_self)
    | unknown soft =>
      exact .inl ⟨[], member, soft, rest, rfl, by simp, by simp [secondPass, selectedAfter]⟩
    | blocked memberCauses memberExclusions =>
      have tail := ih (fun entry member => none entry (List.mem_cons_of_mem _ member))
        (exclusions ++ memberExclusions) (causes ++ memberCauses)
      rcases tail with ⟨before, found, soft, after, rfl, blocked, result⟩ | ⟨blocked, result⟩
      · refine .inl ⟨(member, .blocked memberCauses memberExclusions) :: before, found, soft,
          after, rfl, ?_, ?_⟩
        · simpa using blocked
        · rw [secondPass, result]
          simp [selectedAfter, capacityCauses, capacityExclusions]
      · refine .inr ⟨by simpa using blocked, ?_⟩
        rw [secondPass, result]
        simp only [List.flatMap_cons, List.append_assoc, capacityCauses, capacityExclusions]

theorem collectMemberFacts_spec {facts : List AccountRegistryQuotaFact}
    {members : List AccountRegistryRoutingMember}
    {found : List (AccountRegistryQuotaFact × AccountRegistryQuotaFact)}
    (collected : collectMemberFacts facts members = .ok found) :
    List.Forall₂ (fun member pair => findQuotaFact? facts member.accountId .fiveHour = some pair.1 ∧
      findQuotaFact? facts member.accountId .sevenDay = some pair.2) members found := by
  induction members generalizing found with
  | nil =>
    cases collected
    exact .nil
  | cons member rest ih =>
    unfold collectMemberFacts at collected
    split at collected
    · cases collected
    · rename_i fiveHour fiveFact
      split at collected
      · cases collected
      · rename_i sevenDay sevenFact
        cases tail : collectMemberFacts facts rest with
        | error error => simp [tail, bind, Except.bind] at collected
        | ok others =>
          simp only [tail, bind, Except.bind, Except.ok.injEq] at collected
          subst collected
          exact .cons ⟨fiveFact, sevenFact⟩ (ih tail)

theorem evaluatedMembers_spec
    {found : List (AccountRegistryQuotaFact × AccountRegistryQuotaFact)}
    {evaluated : List
      (AccountRegistryRoutingMember × AccountRegistryQuotaFact × AccountRegistryQuotaFact)}
    (collected : collectMemberFacts snapshot.quotaFacts snapshot.members = .ok found)
    (chosen : accountRegistryEvaluatedMembers snapshot found = .ok evaluated) :
    evaluated.map (·.1) = candidates snapshot ∧
      ∀ entry ∈ evaluated, WindowFact snapshot entry.1 .fiveHour entry.2.1 ∧
        WindowFact snapshot entry.1 .sevenDay entry.2.2 := by
  obtain ⟨lengths, facts⟩ := List.forall₂_iff_zip.mp (collectMemberFacts_spec collected)
  have names : (snapshot.members.zip found).map (·.1) = snapshot.members :=
    List.map_fst_zip (Nat.le_of_eq lengths)
  unfold accountRegistryEvaluatedMembers at chosen
  unfold candidates
  cases mode : snapshot.mode with
  | balanced =>
    rw [mode] at chosen
    cases chosen
    exact ⟨names, fun entry member => facts member⟩
  | fixed accountId =>
    rw [mode] at chosen
    dsimp only at chosen
    split at chosen
    · rename_i target located
      cases chosen
      have named : snapshot.members.find? (·.accountId == accountId) = some target.1 := by
        have := List.find?_map (p := fun member : AccountRegistryRoutingMember =>
          member.accountId == accountId) (f := Prod.fst) (l := snapshot.members.zip found)
        rw [names] at this
        rw [this]
        exact congrArg (Option.map Prod.fst) located
      refine ⟨by simp [named], fun entry member => ?_⟩
      rw [List.mem_singleton.mp member]
      exact facts (List.mem_of_find?_eq_some located)
    · cases chosen

/-- An accepted call evaluates the candidates beside their two window facts. -/
theorem decide_evaluated {decision : AccountRegistryRoutingDecision}
    (accepted : decideAccountRegistryRouting snapshot now = .ok decision) :
    ∃ evaluated : List
        (AccountRegistryRoutingMember × AccountRegistryQuotaFact × AccountRegistryQuotaFact),
      evaluated.map (·.1) = candidates snapshot ∧
      (∀ entry ∈ evaluated, WindowFact snapshot entry.1 .fiveHour entry.2.1 ∧
        WindowFact snapshot entry.1 .sevenDay entry.2.2) ∧
      decideEvaluations snapshot (evaluated.map fun (member, facts) =>
        (member, classifyAccountRegistryMember member facts now)) = .ok decision := by
  rw [decideAccountRegistryRouting_eq] at accepted
  cases validated : validatedAccountRegistryQuotaFacts snapshot now with
  | error fault => simp [validated, bind, Except.bind] at accepted
  | ok found =>
    have collected : collectMemberFacts snapshot.quotaFacts snapshot.members = .ok found := by
      unfold validatedAccountRegistryQuotaFacts at validated
      cases members : validateAccountRegistrySnapshotMembers snapshot now with
      | error error => simp [members, kernel, bind, Except.bind] at validated
      | ok =>
        cases facts : validateQuotaFacts snapshot.members [] snapshot.quotaFacts with
        | error error => simp [members, facts, kernel, bind, Except.bind] at validated
        | ok =>
          cases collected : collectMemberFacts snapshot.quotaFacts snapshot.members with
          | error error => simp [members, facts, collected, kernel, bind, Except.bind] at validated
          | ok found' =>
            simp only [members, facts, collected, kernel, bind, Except.bind] at validated
            split at validated
            · cases validated
            · cases validated
              rfl
    cases chosen : accountRegistryEvaluatedMembers snapshot found with
    | error error => simp [validated, chosen, kernel, bind, Except.bind] at accepted
    | ok evaluated =>
      obtain ⟨names, facts⟩ := evaluatedMembers_spec snapshot collected chosen
      refine ⟨evaluated, names, facts, ?_⟩
      simpa only [validated, chosen, kernel, bind, Except.bind] using accepted

/-- The decision follows the specification of its two passes. -/
structure MeetsSpecification (decision : AccountRegistryRoutingDecision) : Prop where
  snapshotId : decision.snapshotId = snapshot.snapshotId
  firstAvailable : (∃ member ∈ candidates snapshot, Available snapshot now member) →
    SelectsFirst snapshot now decision (Available snapshot now)
  firstOpen : (∀ member ∈ candidates snapshot, ¬Available snapshot now member) →
    (∃ member ∈ candidates snapshot, ¬Blocked snapshot now member) →
      SelectsFirst snapshot now decision (¬Blocked snapshot now ·)
  waiting : (∀ member ∈ candidates snapshot, Blocked snapshot now member) →
    (∀ member ∈ candidates snapshot, ¬HardBlocked snapshot now member) →
      SelectsNone snapshot now decision .waiting
  noRoute : (∀ member ∈ candidates snapshot, Blocked snapshot now member) →
    (∃ member ∈ candidates snapshot, HardBlocked snapshot now member) →
      SelectsNone snapshot now decision .noRoute
  selectedOpen : ∀ accountId, decision.selectedAccountId = some accountId →
    ∃ member ∈ candidates snapshot, member.accountId = accountId ∧ ¬Blocked snapshot now member

section Standing

variable {snapshot now} {member : AccountRegistryRoutingMember}
  {pair : AccountRegistryQuotaFact × AccountRegistryQuotaFact}
  (facts : WindowFact snapshot member .fiveHour pair.1 ∧ WindowFact snapshot member .sevenDay pair.2)
include facts

theorem knownAvailable_iff :
    classifyAccountRegistryMember member pair now = .knownAvailable ↔
      Available snapshot now member := by
  have spec := classify_spec now facts.1 facts.2
  cases capacity : classifyAccountRegistryMember member pair now with
  | knownAvailable =>
    simp only [capacity] at spec
    simp [spec]
  | unknown causes =>
    simp only [capacity] at spec
    simp [spec.1]
  | blocked causes exclusions =>
    simp only [capacity] at spec
    simpa using fun available => available_not_blocked now facts.1 facts.2 available spec.1

theorem capacity_blocked_iff :
    (∃ causes exclusions,
      classifyAccountRegistryMember member pair now = .blocked causes exclusions) ↔
        Blocked snapshot now member := by
  have spec := classify_spec now facts.1 facts.2
  cases capacity : classifyAccountRegistryMember member pair now with
  | knownAvailable =>
    simp only [capacity] at spec
    simpa using available_not_blocked now facts.1 facts.2 spec
  | unknown causes =>
    simp only [capacity] at spec
    simp [spec.2.1]
  | blocked causes exclusions =>
    simp only [capacity] at spec
    simp [spec.1]

/-- A blocked member retains a cause exactly when it is blocked by more than depletion. -/
theorem capacityCauses_eq_nil_iff (blocked : Blocked snapshot now member) :
    capacityCauses (classifyAccountRegistryMember member pair now) = [] ↔
      ¬HardBlocked snapshot now member := by
  obtain ⟨causes, exclusions, capacity⟩ := (capacity_blocked_iff facts).mpr blocked
  have spec := classify_spec now facts.1 facts.2
  simp only [capacity] at spec
  rw [capacity]
  exact spec.2.2.2

end Standing

section Evaluated

variable {snapshot now}
  {evaluated : List
    (AccountRegistryRoutingMember × AccountRegistryQuotaFact × AccountRegistryQuotaFact)}
  (facts : ∀ entry ∈ evaluated, WindowFact snapshot entry.1 .fiveHour entry.2.1 ∧
    WindowFact snapshot entry.1 .sevenDay entry.2.2)
include facts

/-- Members that are not known available explain themselves as specified. -/
theorem explained_of_not_available
    (closed : ∀ entry ∈ evaluated,
      classifyAccountRegistryMember entry.1 entry.2 now ≠ .knownAvailable) :
    ((evaluated.map fun (member, facts) =>
        (member, classifyAccountRegistryMember member facts now)).flatMap
      fun entry => capacityCauses entry.2) =
        (evaluated.map (·.1)).flatMap (memberCauses snapshot now) ∧
    ((evaluated.map fun (member, facts) =>
        (member, classifyAccountRegistryMember member facts now)).flatMap
      fun entry => capacityExclusions entry.2) =
        (evaluated.map (·.1)).flatMap (memberExclusions snapshot now) := by
  simp only [List.flatMap_map]
  have single : ∀ entry ∈ evaluated,
      capacityCauses (classifyAccountRegistryMember entry.1 entry.2 now) =
        memberCauses snapshot now entry.1 ∧
      capacityExclusions (classifyAccountRegistryMember entry.1 entry.2 now) =
        memberExclusions snapshot now entry.1 := by
    intro entry member
    have spec := classify_spec now (facts entry member).1 (facts entry member).2
    have open_ := closed entry member
    cases capacity : classifyAccountRegistryMember entry.1 entry.2 now with
    | knownAvailable => exact absurd capacity open_
    | unknown causes =>
      simp only [capacity] at spec
      exact ⟨spec.2.2.1, spec.2.2.2.symm⟩
    | blocked causes exclusions =>
      simp only [capacity] at spec
      exact ⟨spec.2.1, spec.2.2.1⟩
  exact ⟨List.flatMap_congr fun entry member => (single entry member).1,
    List.flatMap_congr fun entry member => (single entry member).2⟩

/-- A prefix of the classified members, read back as members. -/
theorem selectsFirst_of_split {P : AccountRegistryRoutingMember → Prop}
    {before after : List
      (AccountRegistryRoutingMember × AccountRegistryQuotaFact × AccountRegistryQuotaFact)}
    {entry : AccountRegistryRoutingMember × AccountRegistryQuotaFact × AccountRegistryQuotaFact}
    (names : evaluated.map (·.1) = candidates snapshot)
    (split : evaluated = before ++ entry :: after) (holds : P entry.1)
    (others : ∀ earlier ∈ before, ¬P earlier.1)
    (closed : ∀ earlier ∈ before,
      classifyAccountRegistryMember earlier.1 earlier.2 now ≠ .knownAvailable) :
    SelectsFirst snapshot now
      (selectedAfter snapshot (before.map fun (member, facts) =>
        (member, classifyAccountRegistryMember member facts now)) entry.1 [] []) P := by
  subst split
  obtain ⟨causes, exclusions⟩ := explained_of_not_available
    (fun earlier member => facts earlier (List.mem_append_left _ member)) closed
  refine ⟨before.map (·.1), entry.1, after.map (·.1), ?_, holds, ?_, rfl, rfl, ?_, ?_⟩
  · rw [← names]
    simp
  · intro earlier member
    obtain ⟨source, known, rfl⟩ := List.mem_map.mp member
    exact others source known
  · exact causes
  · exact exclusions

end Evaluated

/-- The three ways a call decides. -/
theorem decide_outcome {decision : AccountRegistryRoutingDecision}
    (accepted : decideAccountRegistryRouting snapshot now = .ok decision) :
    decision.snapshotId = snapshot.snapshotId ∧
    (SelectsFirst snapshot now decision (Available snapshot now) ∨
      ((∀ member ∈ candidates snapshot, ¬Available snapshot now member) ∧
        SelectsFirst snapshot now decision (¬Blocked snapshot now ·)) ∨
      ((∀ member ∈ candidates snapshot, Blocked snapshot now member) ∧
        ∃ kind, SelectsNone snapshot now decision kind ∧
          (kind = .waiting ∧ (∀ member ∈ candidates snapshot, ¬HardBlocked snapshot now member) ∨
            kind = .noRoute ∧ ∃ member ∈ candidates snapshot, HardBlocked snapshot now member))) := by
  obtain ⟨evaluated, names, facts, decided⟩ := decide_evaluated snapshot now accepted
  unfold decideEvaluations at decided
  split at decided
  · rename_i chosen selected
    cases decided
    obtain ⟨before, member, after, split, others, rfl⟩ := firstPass_some snapshot selected
    obtain ⟨before, rest, rfl, rfl, tail⟩ := List.map_eq_append_iff.mp split
    obtain ⟨entry, after, rfl, head, rfl⟩ := List.map_eq_cons_iff.mp tail
    obtain ⟨rfl, capacity⟩ := Prod.mk.inj head
    have closed : ∀ earlier ∈ before,
        classifyAccountRegistryMember earlier.1 earlier.2 now ≠ .knownAvailable := by
      intro earlier member
      exact others _ (List.mem_map_of_mem member)
    refine ⟨rfl, .inl (selectsFirst_of_split facts names rfl ?_ ?_ closed)⟩
    · exact (knownAvailable_iff (facts entry (by simp))).mp capacity
    · intro earlier member available
      exact closed earlier member ((knownAvailable_iff (facts earlier (by simp [member]))).mpr
        available)
  · rename_i passed
    have none := firstPass_none snapshot passed
    have unavailable : ∀ member ∈ candidates snapshot, ¬Available snapshot now member := by
      intro member candidate available
      rw [← names] at candidate
      obtain ⟨entry, known, rfl⟩ := List.mem_map.mp candidate
      exact none _ (List.mem_map_of_mem known)
        ((knownAvailable_iff (facts entry known)).mpr available)
    have closed : ∀ entry ∈ evaluated,
        classifyAccountRegistryMember entry.1 entry.2 now ≠ .knownAvailable :=
      fun entry known => none _ (List.mem_map_of_mem known)
    rcases secondPass_spec snapshot none [] [] with
      ⟨before, member, soft, after, split, blocked, result⟩ | ⟨blocked, result⟩
    · rw [decided, Except.ok.injEq] at result
      subst result
      obtain ⟨before, rest, rfl, rfl, tail⟩ := List.map_eq_append_iff.mp split
      obtain ⟨entry, after, rfl, head, rfl⟩ := List.map_eq_cons_iff.mp tail
      obtain ⟨rfl, capacity⟩ := Prod.mk.inj head
      refine ⟨rfl, .inr (.inl ⟨unavailable, selectsFirst_of_split facts names rfl ?_ ?_ ?_⟩)⟩
      · rw [← capacity_blocked_iff (facts entry (by simp))]
        rintro ⟨causes, exclusions, other⟩
        simp [other] at capacity
      · intro earlier member
        rw [not_not, ← capacity_blocked_iff (facts earlier (by simp [member]))]
        exact blocked _ (List.mem_map_of_mem member)
      · exact fun earlier member => closed earlier (by simp [member])
    · rw [decided, Except.ok.injEq] at result
      have allBlocked : ∀ entry ∈ evaluated, Blocked snapshot now entry.1 := by
        intro entry known
        rw [← capacity_blocked_iff (facts entry known)]
        exact blocked _ (List.mem_map_of_mem known)
      obtain ⟨causes, exclusions⟩ := explained_of_not_available facts closed
      have silent : ((evaluated.map fun (member, facts) =>
            (member, classifyAccountRegistryMember member facts now)).flatMap
          fun entry => capacityCauses entry.2).isEmpty = true ↔
            ∀ entry ∈ evaluated, ¬HardBlocked snapshot now entry.1 := by
        simp only [List.isEmpty_iff, List.flatMap_eq_nil_iff, List.forall_mem_map]
        exact forall₂_congr fun entry known =>
          capacityCauses_eq_nil_iff (facts entry known) (allBlocked entry known)
      simp only [List.nil_append, causes, exclusions] at result silent
      rw [← names]
      subst result
      refine ⟨rfl, .inr (.inr ⟨by simpa using allBlocked, _, ⟨rfl, rfl, ?_, ?_⟩, ?_⟩)⟩
      · rw [names]
      · rw [names]
      · by_cases hard : ∀ entry ∈ evaluated, ¬HardBlocked snapshot now entry.1
        · exact .inl ⟨if_pos (silent.mpr hard), by simpa using hard⟩
        · refine .inr ⟨if_neg fun empty => hard (silent.mp empty), ?_⟩
          push Not at hard
          obtain ⟨entry, known, blocked⟩ := hard
          exact ⟨entry.1, List.mem_map_of_mem known, blocked⟩

/-- For every snapshot and instant the kernel accepts, the decision selects the first
available candidate, else the first that is not blocked, else waits exactly when nothing but
depletion blocks; it never selects a blocked candidate, and its lists are the in-order
classifications of the candidates before the selected one (of all when none is). -/
theorem decideAccountRegistryRouting_meets (decision : AccountRegistryRoutingDecision)
    (accepted : decideAccountRegistryRouting snapshot now = .ok decision) :
    MeetsSpecification snapshot now decision := by
  obtain ⟨sameSnapshot, outcome⟩ := decide_outcome snapshot now accepted
  rcases outcome with first | ⟨unavailable, first⟩ | ⟨allBlocked, kind, none, why⟩
  · obtain ⟨before, member, after, split, available, _, _, selected, _⟩ := id first
    have candidate : member ∈ candidates snapshot := by simp [split]
    have isOpen := available.not_blocked
    exact {
      snapshotId := sameSnapshot
      firstAvailable := fun _ => first
      firstOpen := fun none _ => absurd available (none member candidate)
      waiting := fun all _ => absurd (all member candidate) isOpen
      noRoute := fun all _ => absurd (all member candidate) isOpen
      selectedOpen := fun accountId named =>
        ⟨member, candidate, Option.some.inj (selected.symm.trans named), isOpen⟩ }
  · obtain ⟨before, member, after, split, isOpen, _, _, selected, _⟩ := id first
    have candidate : member ∈ candidates snapshot := by simp [split]
    exact {
      snapshotId := sameSnapshot
      firstAvailable := fun ⟨other, known, available⟩ => absurd available (unavailable other known)
      firstOpen := fun _ _ => first
      waiting := fun all _ => absurd (all member candidate) isOpen
      noRoute := fun all _ => absurd (all member candidate) isOpen
      selectedOpen := fun accountId named =>
        ⟨member, candidate, Option.some.inj (selected.symm.trans named), isOpen⟩ }
  · exact {
      snapshotId := sameSnapshot
      firstAvailable := fun ⟨member, known, available⟩ =>
        absurd (allBlocked member known) available.not_blocked
      firstOpen := fun _ ⟨member, known, isOpen⟩ => absurd (allBlocked member known) isOpen
      waiting := fun _ soft => by
        rcases why with ⟨rfl, _⟩ | ⟨_, member, known, hard⟩
        · exact none
        · exact absurd hard (soft member known)
      noRoute := fun _ ⟨member, known, hard⟩ => by
        rcases why with ⟨_, soft⟩ | ⟨rfl, _⟩
        · exact absurd hard (soft member known)
        · exact none
      selectedOpen := fun accountId named => by
        rw [none.2.1] at named
        cases named }

private def firstAccount : AccountId := ⟨"10000000-0000-4000-8000-000000000001", by decide⟩

private def secondAccount : AccountId := ⟨"10000000-0000-4000-8000-000000000002", by decide⟩

private def currentFact (accountId : AccountId) (window : QuotaWindowClass) (used : Nat) :
    AccountRegistryQuotaFact :=
  ⟨accountId, window, accountRegistryWindowDuration window, .current used 900 2000⟩

/-- Two accounts, the first of them depleted in its five-hour window. -/
private def depletedFirst : AccountRegistryRoutingSnapshot where
  snapshotId := "snapshot"
  routingRevision := 1
  mode := .balanced
  taskRoleProfileRevision := 1
  resolvedAtMicros := 1000
  members := [⟨1, firstAccount, 1, []⟩, ⟨2, secondAccount, 1, []⟩]
  quotaFacts := [currentFact firstAccount .fiveHour 100, currentFact firstAccount .sevenDay 10,
    currentFact secondAccount .fiveHour 50, currentFact secondAccount .sevenDay 10]

theorem depleted_account_is_passed_over : MeetsSpecification depletedFirst 1000
    ⟨"snapshot", .selected, some secondAccount,
      [⟨firstAccount, 1, .fiveHour, 300, 100, 900, 2000⟩], []⟩ :=
  decideAccountRegistryRouting_meets depletedFirst 1000 _ (by decide)

/-- Blocked, when a failed observation from after the instant is also taken to block. -/
def BlockedByAnyFutureFact (member : AccountRegistryRoutingMember) : Prop :=
  Blocked snapshot now member ∨ ∃ window fact error observedAt,
    WindowFact snapshot member window fact ∧
      fact.observation = .observationError error observedAt ∧ now < observedAt

/-- One account whose five-hour observation failed one microsecond after the instant. -/
private def failedLater : AccountRegistryRoutingSnapshot where
  snapshotId := "snapshot"
  routingRevision := 1
  mode := .balanced
  taskRoleProfileRevision := 1
  resolvedAtMicros := 1000
  members := [⟨1, firstAccount, 1, []⟩]
  quotaFacts := [⟨firstAccount, .fiveHour, 300, .observationError .providerUnavailable 1001⟩,
    currentFact firstAccount .sevenDay 10]

/-- The kernel classifies a failed observation as unknown capacity before it looks at its
time stamp, so it can select an account with a fact from after the instant. -/
theorem failed_future_observation_is_selected :
    ¬∀ snapshot now decision, decideAccountRegistryRouting snapshot now = .ok decision →
      ∀ accountId, decision.selectedAccountId = some accountId →
        ∃ member ∈ candidates snapshot, member.accountId = accountId ∧
          ¬BlockedByAnyFutureFact snapshot now member := by
  intro claimed
  obtain ⟨member, candidate, _, isOpen⟩ := claimed failedLater 1000
    ⟨"snapshot", .selected, some firstAccount, [], []⟩ (by decide) firstAccount rfl
  have : member = ⟨1, firstAccount, 1, []⟩ := List.mem_singleton.mp candidate
  subst this
  exact isOpen (.inr ⟨.fiveHour, _, .providerUnavailable, 1001, rfl, rfl, by decide⟩)

end Decodex.Guarantees.Routing
