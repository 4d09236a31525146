import Decodex.Source.Core.Identity

/-!
# Account Registry routing kernel

Source: crates/decodex-core/src/routing.rs:16 (freshness), 73-210 (blockers), 216-243
(observations), 266-455 (errors), 457-560 (records), 581-678 (decision), 680-938
(validation), 940-1048 (classification), 1050-1110 (window tables); quota.rs:5-10;
account.rs:313-318,333-375. Timestamps and revisions are `i64` values, carried as `Int`.
A slice index out of range and the source's `unreachable!` are the fault `panic`.
The SQL spellings of blockers, the capability list and the command outcome types are left
out: the kernel does not read them.
-/
namespace Decodex.Source.Core.Routing

/-- `ACCOUNT_REGISTRY_QUOTA_FRESHNESS_MICROS`. -/
def accountRegistryQuotaFreshnessMicros : Int := 300000000

/-- `MAX_ACCOUNT_REGISTRY_TIMESTAMP_MICROS`. -/
def maxAccountRegistryTimestampMicros : Int := 253402300799999999

inductive QuotaWindowClass where
  | fiveHour | sevenDay
  deriving DecidableEq, Repr

inductive AccountQuotaObservationError where
  | providerUnavailable | protocolUnavailable | accountMismatch | unsupportedWindow
  deriving DecidableEq, Repr

structure AccountQuotaWindow where
  durationMinutes : Nat
  usedPercent : Nat
  resetsAtUnixMicros : Int
  deriving DecidableEq, Repr

/-- `AccountQuotaWindow::new`. -/
def AccountQuotaWindow.new (durationMinutes usedPercent : Nat) (resetsAtUnixMicros : Int) :
    Option AccountQuotaWindow :=
  if (durationMinutes ≠ 300 ∧ durationMinutes ≠ 10080) ∨ 100 < usedPercent ∨ resetsAtUnixMicros ≤ 0
  then none
  else some ⟨durationMinutes, usedPercent, resetsAtUnixMicros⟩

inductive AccountSelectionMode where
  | fixed (accountId : AccountId)
  | balanced
  deriving DecidableEq

inductive RoutingBlocker where
  | excludedByPolicy | accountFromFuture | accountStale | accountUnavailable | accountUnknown
  | accountDepleted | accountAuthFailed | accountPluginUnready | accountDisabled
  | evidenceMissing | evidenceFromFuture | evidenceStale | evidenceAccountMismatch
  | evidenceProfileMismatch | evidenceBuildMismatch
  | quotaFiveHourMissing | quotaFiveHourFromFuture | quotaFiveHourStale | quotaFiveHourUnknown
  | quotaFiveHourResetElapsed | quotaFiveHourDepleted
  | quotaSevenDayMissing | quotaSevenDayFromFuture | quotaSevenDayStale | quotaSevenDayUnknown
  | quotaSevenDayResetElapsed | quotaSevenDayDepleted
  | requiredCapabilityUnsatisfied | authenticationRequired | pluginUnready | dependencyBlocked
  | approvalRequired | userRequired | externalBlocked | usageUnproven | reconciliationUnproven
  | reviewerUnavailable | reviewerFailed | reviewerAmbiguous | processGenerationUnresolved
  | processGenerationUnavailable | providerAttemptUnresolved | providerAttemptCompleted
  deriving DecidableEq, Repr

inductive AccountRegistryQuotaObservation where
  | notApplicable (observedAtMicros : Int)
  | missing
  | current (usedPercent : Nat) (observedAtMicros resetsAtMicros : Int)
  | observationError (error : AccountQuotaObservationError) (observedAtMicros : Int)
  deriving DecidableEq, Repr

structure AccountRegistryQuotaFact where
  accountId : AccountId
  window : QuotaWindowClass
  durationMinutes : Nat
  observation : AccountRegistryQuotaObservation
  deriving DecidableEq

structure AccountRegistryRoutingMember where
  /-- One-based canonical position. -/
  position : Nat
  accountId : AccountId
  accountRevision : Int
  blockers : List RoutingBlocker
  deriving DecidableEq

structure AccountRegistryRoutingSnapshot where
  snapshotId : String
  routingRevision : Int
  mode : AccountSelectionMode
  taskRoleProfileRevision : Int
  resolvedAtMicros : Int
  members : List AccountRegistryRoutingMember
  quotaFacts : List AccountRegistryQuotaFact

structure RoutingDecisionCause where
  accountId : AccountId
  blocker : RoutingBlocker
  deriving DecidableEq

structure AccountRegistryRoutingExclusion where
  accountId : AccountId
  memberPosition : Nat
  window : QuotaWindowClass
  durationMinutes : Nat
  usedPercent : Nat
  observedAtMicros : Int
  resetsAtMicros : Int
  deriving DecidableEq

inductive AccountRegistryRoutingDecisionKind where
  | selected | waiting | noRoute
  deriving DecidableEq, Repr

structure AccountRegistryRoutingDecision where
  snapshotId : String
  kind : AccountRegistryRoutingDecisionKind
  selectedAccountId : Option AccountId
  exclusions : List AccountRegistryRoutingExclusion
  causes : List RoutingDecisionCause
  deriving DecidableEq

inductive AccountRegistryRoutingKernelError where
  | invalidDecidedAtMicros (decidedAtMicros : Int)
  | invalidRoutingRevision (routingRevision : Int)
  | invalidTaskRoleProfileRevision (taskRoleProfileRevision : Int)
  | invalidResolvedAtMicros (resolvedAtMicros : Int)
  | emptyMembers
  | duplicateMember (accountId : AccountId) (firstPosition duplicatePosition : Nat)
  | nonCanonicalMember (accountId : AccountId) (memberPosition expectedMemberPosition : Nat)
  | invalidMemberAccountRevision (accountId : AccountId) (accountRevision : Int)
  | forbiddenMemberBlocker (accountId : AccountId) (memberPosition blockerPosition : Nat)
      (blocker : RoutingBlocker)
  | duplicateMemberBlocker (accountId : AccountId) (memberPosition : Nat)
      (blocker : RoutingBlocker) (firstBlockerPosition duplicateBlockerPosition : Nat)
  | nonCanonicalMemberBlocker (accountId : AccountId) (memberPosition blockerPosition : Nat)
      (previousBlocker blocker : RoutingBlocker)
  | duplicateQuotaFact (accountId : AccountId) (window : QuotaWindowClass)
  | missingQuotaFact (accountId : AccountId) (window : QuotaWindowClass)
  | extraQuotaFact (accountId : AccountId) (window : QuotaWindowClass)
  | nonCanonicalQuotaFact (factPosition : Nat) (accountId : AccountId)
      (window : QuotaWindowClass) (expectedAccountId : AccountId)
      (expectedWindow : QuotaWindowClass)
  | quotaFactWindowDurationMismatch (accountId : AccountId) (window : QuotaWindowClass)
      (expectedDurationMinutes durationMinutes : Nat)
  | invalidQuotaFactUsedPercent (accountId : AccountId) (window : QuotaWindowClass)
      (usedPercent : Nat)
  | invalidQuotaFactObservedAtMicros (accountId : AccountId) (window : QuotaWindowClass)
      (observedAtMicros : Int)
  | invalidQuotaFactResetsAtMicros (accountId : AccountId) (window : QuotaWindowClass)
      (observedAtMicros resetsAtMicros : Int)
  | fixedTargetAbsent (accountId : AccountId)
  deriving DecidableEq

/-- How a call ends without a decision. -/
inductive RoutingFault where
  | kernel (error : AccountRegistryRoutingKernelError)
  | panic
  deriving DecidableEq

def accountRegistryWindowDuration : QuotaWindowClass → Nat
  | .fiveHour => 300
  | .sevenDay => 10080

def accountRegistryMissingBlocker : QuotaWindowClass → RoutingBlocker
  | .fiveHour => .quotaFiveHourMissing
  | .sevenDay => .quotaSevenDayMissing

def accountRegistryUnknownBlocker : QuotaWindowClass → RoutingBlocker
  | .fiveHour => .quotaFiveHourUnknown
  | .sevenDay => .quotaSevenDayUnknown

def accountRegistryFromFutureBlocker : QuotaWindowClass → RoutingBlocker
  | .fiveHour => .quotaFiveHourFromFuture
  | .sevenDay => .quotaSevenDayFromFuture

def accountRegistryStaleBlocker : QuotaWindowClass → RoutingBlocker
  | .fiveHour => .quotaFiveHourStale
  | .sevenDay => .quotaSevenDayStale

def accountRegistryResetElapsedBlocker : QuotaWindowClass → RoutingBlocker
  | .fiveHour => .quotaFiveHourResetElapsed
  | .sevenDay => .quotaSevenDayResetElapsed

def accountRegistryMemberBlockerRank : RoutingBlocker → Option Nat
  | .accountFromFuture => some 0
  | .accountStale => some 1
  | .accountUnavailable => some 2
  | .accountUnknown => some 3
  | .accountDepleted => some 4
  | .accountAuthFailed => some 5
  | .accountPluginUnready => some 6
  | .accountDisabled => some 7
  | _ => none

def accountRegistryTimestampIsValid (timestampMicros : Int) : Bool :=
  0 ≤ timestampMicros && timestampMicros ≤ maxAccountRegistryTimestampMicros

def validateAccountRegistryQuotaObservation (fact : AccountRegistryQuotaFact) :
    Except AccountRegistryRoutingKernelError Unit :=
  match fact.observation with
  | .missing => .ok ()
  | .notApplicable observedAt =>
    if fact.window ≠ .fiveHour then
      .error (.quotaFactWindowDurationMismatch fact.accountId fact.window 300
        fact.durationMinutes)
    else if observedAt ≤ 0 ∨ !accountRegistryTimestampIsValid observedAt then
      .error (.invalidQuotaFactObservedAtMicros fact.accountId fact.window observedAt)
    else .ok ()
  | .current usedPercent observedAt resetsAt =>
    if usedPercent > 100 then
      .error (.invalidQuotaFactUsedPercent fact.accountId fact.window usedPercent)
    else if !accountRegistryTimestampIsValid observedAt then
      .error (.invalidQuotaFactObservedAtMicros fact.accountId fact.window observedAt)
    else if !accountRegistryTimestampIsValid resetsAt ∨ resetsAt ≤ observedAt then
      .error (.invalidQuotaFactResetsAtMicros fact.accountId fact.window observedAt resetsAt)
    else .ok ()
  | .observationError _ observedAt =>
    if !accountRegistryTimestampIsValid observedAt then
      .error (.invalidQuotaFactObservedAtMicros fact.accountId fact.window observedAt)
    else .ok ()

/-- The blocker loop; `prior` are the blockers before `index`, newest last. -/
def validateBlockers (member : AccountRegistryRoutingMember) :
    List RoutingBlocker → List RoutingBlocker → Option (RoutingBlocker × Nat) →
      Except AccountRegistryRoutingKernelError Unit
  | _, [], _ => .ok ()
  | prior, blocker :: rest, previous =>
    match accountRegistryMemberBlockerRank blocker with
    | none =>
      .error (.forbiddenMemberBlocker member.accountId member.position (prior.length + 1) blocker)
    | some rank =>
      match prior.findIdx? (· == blocker) with
      | some first =>
        .error (.duplicateMemberBlocker member.accountId member.position blocker (first + 1)
          (prior.length + 1))
      | none =>
        match previous with
        | some (previousBlocker, previousRank) =>
          if previousRank ≥ rank then
            .error (.nonCanonicalMemberBlocker member.accountId member.position
              (prior.length + 1) previousBlocker blocker)
          else validateBlockers member (prior ++ [blocker]) rest (some (blocker, rank))
        | none => validateBlockers member (prior ++ [blocker]) rest (some (blocker, rank))

def validateAccountRegistryMemberBlockers (member : AccountRegistryRoutingMember) :
    Except AccountRegistryRoutingKernelError Unit :=
  validateBlockers member [] member.blockers none

/-- The member loop; `prior` is the slice before the current member. -/
def validateMembers : List AccountRegistryRoutingMember → List AccountRegistryRoutingMember →
    Except AccountRegistryRoutingKernelError Unit
  | _, [] => .ok ()
  | prior, member :: rest =>
    if member.position ≠ prior.length + 1 then
      .error (.nonCanonicalMember member.accountId member.position (prior.length + 1))
    else if member.accountRevision ≤ 0 then
      .error (.invalidMemberAccountRevision member.accountId member.accountRevision)
    else
      match prior.find? (·.accountId == member.accountId) with
      | some first =>
        .error (.duplicateMember member.accountId first.position member.position)
      | none => do
        validateAccountRegistryMemberBlockers member
        validateMembers (prior ++ [member]) rest

def validateAccountRegistrySnapshotMembers (snapshot : AccountRegistryRoutingSnapshot)
    (decidedAt : Int) : Except AccountRegistryRoutingKernelError Unit :=
  if !accountRegistryTimestampIsValid decidedAt then .error (.invalidDecidedAtMicros decidedAt)
  else if snapshot.routingRevision ≤ 0 then
    .error (.invalidRoutingRevision snapshot.routingRevision)
  else if snapshot.taskRoleProfileRevision ≤ 0 then
    .error (.invalidTaskRoleProfileRevision snapshot.taskRoleProfileRevision)
  else if !accountRegistryTimestampIsValid snapshot.resolvedAtMicros ∨
      snapshot.resolvedAtMicros > decidedAt then
    .error (.invalidResolvedAtMicros snapshot.resolvedAtMicros)
  else if snapshot.members.isEmpty then .error .emptyMembers
  else validateMembers [] snapshot.members

/-- The fact loop; `prior` is the slice before the current fact. -/
def validateQuotaFacts (members : List AccountRegistryRoutingMember) :
    List AccountRegistryQuotaFact → List AccountRegistryQuotaFact →
      Except AccountRegistryRoutingKernelError Unit
  | _, [] => .ok ()
  | prior, fact :: rest =>
    if !members.any (·.accountId == fact.accountId) then
      .error (.extraQuotaFact fact.accountId fact.window)
    else if fact.durationMinutes ≠ accountRegistryWindowDuration fact.window then
      .error (.quotaFactWindowDurationMismatch fact.accountId fact.window
        (accountRegistryWindowDuration fact.window) fact.durationMinutes)
    else if prior.any fun other => other.accountId == fact.accountId && other.window == fact.window
    then .error (.duplicateQuotaFact fact.accountId fact.window)
    else do
      validateAccountRegistryQuotaObservation fact
      validateQuotaFacts members (prior ++ [fact]) rest

/-- The fact an account has for a window: the first that names both. -/
def findQuotaFact? (facts : List AccountRegistryQuotaFact) (accountId : AccountId)
    (window : QuotaWindowClass) : Option AccountRegistryQuotaFact :=
  facts.find? fun fact => fact.accountId == accountId && fact.window == window

/-- The five-hour and seven-day facts of each member, in member order. -/
def collectMemberFacts (facts : List AccountRegistryQuotaFact) :
    List AccountRegistryRoutingMember →
      Except AccountRegistryRoutingKernelError
        (List (AccountRegistryQuotaFact × AccountRegistryQuotaFact))
  | [] => .ok []
  | member :: rest =>
    match findQuotaFact? facts member.accountId .fiveHour with
    | none => .error (.missingQuotaFact member.accountId .fiveHour)
    | some fiveHour =>
      match findQuotaFact? facts member.accountId .sevenDay with
      | none => .error (.missingQuotaFact member.accountId .sevenDay)
      | some sevenDay => do
        let others ← collectMemberFacts facts rest
        .ok ((fiveHour, sevenDay) :: others)

/-- The order loop over the expected (account, window) pairs from `factIndex` on. -/
def checkCanonicalFacts (facts : List AccountRegistryQuotaFact) :
    Nat → List (AccountId × QuotaWindowClass) → Except RoutingFault Unit
  | _, [] => .ok ()
  | factIndex, (accountId, window) :: rest =>
    match facts[factIndex]? with
    | none => .error .panic
    | some fact =>
      if fact.accountId ≠ accountId ∨ fact.window ≠ window then
        .error (.kernel (.nonCanonicalQuotaFact (factIndex + 1) fact.accountId fact.window
          accountId window))
      else checkCanonicalFacts facts (factIndex + 1) rest

def expectedQuotaFacts (members : List AccountRegistryRoutingMember) :
    List (AccountId × QuotaWindowClass) :=
  members.flatMap fun member => [(member.accountId, .fiveHour), (member.accountId, .sevenDay)]

/-- A `?` on a kernel error. -/
def kernel {α : Type} (step : Except AccountRegistryRoutingKernelError α) :
    Except RoutingFault α :=
  match step with
  | .error error => .error (.kernel error)
  | .ok value => .ok value

def validatedAccountRegistryQuotaFacts (snapshot : AccountRegistryRoutingSnapshot)
    (decidedAt : Int) :
    Except RoutingFault (List (AccountRegistryQuotaFact × AccountRegistryQuotaFact)) := do
  kernel (validateAccountRegistrySnapshotMembers snapshot decidedAt)
  kernel (validateQuotaFacts snapshot.members [] snapshot.quotaFacts)
  let factsByMember ← kernel (collectMemberFacts snapshot.quotaFacts snapshot.members)
  checkCanonicalFacts snapshot.quotaFacts 0 (expectedQuotaFacts snapshot.members)
  .ok factsByMember

inductive AccountRegistryMemberCapacity where
  | knownAvailable
  | unknown (causes : List RoutingDecisionCause)
  | blocked (causes : List RoutingDecisionCause)
      (exclusions : List AccountRegistryRoutingExclusion)
  deriving DecidableEq

/-- The accumulators of the window loop. -/
structure WindowTally where
  hardCauses : List RoutingDecisionCause
  unknownCauses : List RoutingDecisionCause
  exclusions : List AccountRegistryRoutingExclusion
  knownAvailableWindows : Nat

/-- One round of the window loop. -/
def classifyWindow (member : AccountRegistryRoutingMember) (decidedAt : Int)
    (tally : WindowTally) (fact : AccountRegistryQuotaFact) : WindowTally :=
  let hard := fun blocker =>
    { tally with hardCauses := tally.hardCauses ++ [⟨member.accountId, blocker⟩] }
  let unknown := fun blocker =>
    { tally with unknownCauses := tally.unknownCauses ++ [⟨member.accountId, blocker⟩] }
  match fact.observation with
  | .notApplicable observedAt =>
    if observedAt > decidedAt then hard (accountRegistryFromFutureBlocker fact.window)
    else if decidedAt - observedAt > accountRegistryQuotaFreshnessMicros then
      unknown (accountRegistryStaleBlocker fact.window)
    else { tally with knownAvailableWindows := tally.knownAvailableWindows + 1 }
  | .missing => unknown (accountRegistryMissingBlocker fact.window)
  | .observationError _ _ => unknown (accountRegistryUnknownBlocker fact.window)
  | .current usedPercent observedAt resetsAt =>
    if observedAt > decidedAt then hard (accountRegistryFromFutureBlocker fact.window)
    else if decidedAt - observedAt > accountRegistryQuotaFreshnessMicros then
      unknown (accountRegistryStaleBlocker fact.window)
    else if resetsAt ≤ decidedAt then unknown (accountRegistryResetElapsedBlocker fact.window)
    else if usedPercent ≥ 100 then
      { tally with
        exclusions := tally.exclusions ++ [⟨member.accountId, member.position, fact.window,
          fact.durationMinutes, usedPercent, observedAt, resetsAt⟩] }
    else { tally with knownAvailableWindows := tally.knownAvailableWindows + 1 }

/-- The accumulators after both windows. -/
def memberTally (member : AccountRegistryRoutingMember)
    (facts : AccountRegistryQuotaFact × AccountRegistryQuotaFact) (decidedAt : Int) :
    WindowTally :=
  [facts.1, facts.2].foldl (classifyWindow member decidedAt)
    ⟨member.blockers.map fun blocker => ⟨member.accountId, blocker⟩, [], [], 0⟩

def classifyAccountRegistryMember (member : AccountRegistryRoutingMember)
    (facts : AccountRegistryQuotaFact × AccountRegistryQuotaFact) (decidedAt : Int) :
    AccountRegistryMemberCapacity :=
  let tally := memberTally member facts decidedAt
  if tally.hardCauses ≠ [] then
    .blocked (tally.hardCauses ++ tally.unknownCauses) tally.exclusions
  else if tally.exclusions ≠ [] then .blocked [] tally.exclusions
  else if tally.knownAvailableWindows = 2 then .knownAvailable
  else .unknown tally.unknownCauses

/-- The members a mode evaluates, beside the facts found for them. -/
def accountRegistryEvaluatedMembers (snapshot : AccountRegistryRoutingSnapshot)
    (factsByMember : List (AccountRegistryQuotaFact × AccountRegistryQuotaFact)) :
    Except AccountRegistryRoutingKernelError
      (List (AccountRegistryRoutingMember × AccountRegistryQuotaFact × AccountRegistryQuotaFact)) :=
  match snapshot.mode with
  | .balanced => .ok (snapshot.members.zip factsByMember)
  | .fixed accountId =>
    match (snapshot.members.zip factsByMember).find? (·.1.accountId == accountId) with
    | some target => .ok [target]
    | none => .error (.fixedTargetAbsent accountId)

def accountRegistrySelectedDecision (snapshot : AccountRegistryRoutingSnapshot)
    (member : AccountRegistryRoutingMember) (exclusions : List AccountRegistryRoutingExclusion)
    (causes : List RoutingDecisionCause) : AccountRegistryRoutingDecision :=
  ⟨snapshot.snapshotId, .selected, some member.accountId, exclusions, causes⟩

/-- The first pass: the first known available member, explained by those before it. -/
def firstPass (snapshot : AccountRegistryRoutingSnapshot) :
    List (AccountRegistryRoutingMember × AccountRegistryMemberCapacity) →
      List AccountRegistryRoutingExclusion → List RoutingDecisionCause →
        Option AccountRegistryRoutingDecision
  | [], _, _ => none
  | (member, .knownAvailable) :: _, exclusions, causes =>
    some (accountRegistrySelectedDecision snapshot member exclusions causes)
  | (_, .unknown softCauses) :: rest, exclusions, causes =>
    firstPass snapshot rest exclusions (causes ++ softCauses)
  | (_, .blocked memberCauses memberExclusions) :: rest, exclusions, causes =>
    firstPass snapshot rest (exclusions ++ memberExclusions) (causes ++ memberCauses)

/-- The second pass, with its accumulators cleared: unknown capacity is a fallback. -/
def secondPass (snapshot : AccountRegistryRoutingSnapshot) :
    List (AccountRegistryRoutingMember × AccountRegistryMemberCapacity) →
      List AccountRegistryRoutingExclusion → List RoutingDecisionCause →
        Except RoutingFault AccountRegistryRoutingDecision
  | [], exclusions, causes =>
    .ok ⟨snapshot.snapshotId, if causes.isEmpty then .waiting else .noRoute, none, exclusions,
      causes⟩
  | (member, .unknown _) :: _, exclusions, causes =>
    .ok (accountRegistrySelectedDecision snapshot member exclusions causes)
  | (_, .knownAvailable) :: _, _, _ => .error .panic
  | (_, .blocked memberCauses memberExclusions) :: rest, exclusions, causes =>
    secondPass snapshot rest (exclusions ++ memberExclusions) (causes ++ memberCauses)

/-- Both passes over the classified members. -/
def decideEvaluations (snapshot : AccountRegistryRoutingSnapshot)
    (evaluations : List (AccountRegistryRoutingMember × AccountRegistryMemberCapacity)) :
    Except RoutingFault AccountRegistryRoutingDecision :=
  match firstPass snapshot evaluations [] [] with
  | some decision => .ok decision
  | none => secondPass snapshot evaluations [] []

/-- The evaluated members with their classifications. -/
def evaluateMembers (snapshot : AccountRegistryRoutingSnapshot) (decidedAt : Int)
    (factsByMember : List (AccountRegistryQuotaFact × AccountRegistryQuotaFact)) :
    Except RoutingFault (List (AccountRegistryRoutingMember × AccountRegistryMemberCapacity)) := do
  let evaluated ← kernel (accountRegistryEvaluatedMembers snapshot factsByMember)
  .ok (evaluated.map fun (member, facts) =>
    (member, classifyAccountRegistryMember member facts decidedAt))

/-- `decide_account_registry_routing` over a way to evaluate the members. -/
def decideWith (evaluate : List (AccountRegistryQuotaFact × AccountRegistryQuotaFact) →
      Except RoutingFault (List (AccountRegistryRoutingMember × AccountRegistryMemberCapacity)))
    (snapshot : AccountRegistryRoutingSnapshot) (decidedAt : Int) :
    Except RoutingFault AccountRegistryRoutingDecision := do
  let factsByMember ← validatedAccountRegistryQuotaFacts snapshot decidedAt
  let evaluations ← evaluate factsByMember
  decideEvaluations snapshot evaluations

def decideAccountRegistryRouting (snapshot : AccountRegistryRoutingSnapshot) (decidedAt : Int) :
    Except RoutingFault AccountRegistryRoutingDecision :=
  decideWith (evaluateMembers snapshot decidedAt) snapshot decidedAt

theorem decideAccountRegistryRouting_eq (snapshot : AccountRegistryRoutingSnapshot)
    (decidedAt : Int) :
    decideAccountRegistryRouting snapshot decidedAt =
      (validatedAccountRegistryQuotaFacts snapshot decidedAt >>= fun factsByMember =>
        kernel (accountRegistryEvaluatedMembers snapshot factsByMember) >>= fun evaluated =>
          decideEvaluations snapshot (evaluated.map fun (member, facts) =>
            (member, classifyAccountRegistryMember member facts decidedAt))) := by
  unfold decideAccountRegistryRouting decideWith evaluateMembers
  simp only [bind_assoc]
  rfl

end Decodex.Source.Core.Routing
