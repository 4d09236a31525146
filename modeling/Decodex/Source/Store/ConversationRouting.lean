import Mathlib.Data.List.Destutter
import Mathlib.Data.List.Sort
import Decodex.Library.Table
import Decodex.Source.Core.ProviderAttempt
import Decodex.Source.Store.HistoryEntries
import Decodex.Source.Store.RoutingJson

/-!
# Conversation routing

Source: database/src/conversation_routing.rs:66-560 (initial route and continuation),
558-800 (snapshot, blockers, facts, control, re-reading), 1063-1095 (classification);
account_lifecycle.rs:1029-1087 (registry), 1992-2047 (account record), 2228-2308 (quota
observation), 2961-2969; schema.sql:123-160 (quota facts, control), 913-956, 1165-1167
(decisions); decodex-core/src/account.rs:270-310, 341-426, 470-495.
What a call reads of other tables, the clock and the generated identities is its `RouteWorld`.
The lifecycle readiness of an account is taken as read, with every value allowed; the account's
label, credential and usage are left out. A call that fails leaves the decisions as they were.
-/
namespace Decodex.Source.Store.ConversationRouting

open Decodex.Library
open Decodex.Source.Core Decodex.Source.Core.Routing
open Decodex.Source.Store.RoutingJson

/-- `QUOTA_FRESHNESS_MICROS`. -/
def quotaFreshnessMicros : Int := 300000000

inductive AccountQuotaDisposition where
  | unknown | notApplicable
  | current (fact : AccountQuotaWindow)
  | stale (fact : AccountQuotaWindow)
  | error (error : AccountQuotaObservationError)
  deriving DecidableEq, Repr

structure AccountQuotaWindowObservation where
  durationMinutes : Nat
  observedAtUnixMicros : Option Int
  disposition : AccountQuotaDisposition
  deriving DecidableEq, Repr

/-- `AccountQuotaWindowObservation::unknown`. -/
def AccountQuotaWindowObservation.unknown (durationMinutes : Nat) :
    Option AccountQuotaWindowObservation :=
  if durationMinutes ≠ 300 ∧ durationMinutes ≠ 10080 then none
  else some ⟨durationMinutes, none, .unknown⟩

/-- A row of `account_quota_facts`. -/
structure QuotaFactRow where
  usedPercent : Option Int
  resetsAtMicros : Option Int
  errorCode : Option String
  observedAtMicros : Int
  notApplicable : Bool
  deriving DecidableEq, Repr

/-- The error codes the table admits. -/
def quotaErrorCodes : List String :=
  ["provider_unavailable", "protocol_unavailable", "account_mismatch", "unsupported_window"]

/-- The checks of the table on a row of this duration. -/
def QuotaFactRow.check (row : QuotaFactRow) (durationMinutes : Nat) : Bool :=
  row.usedPercent.all (fun used => 0 ≤ used && used ≤ 100) &&
    row.errorCode.all (quotaErrorCodes.contains ·) &&
    decide (0 ≤ row.observedAtMicros) &&
    ((!row.notApplicable && row.errorCode.isNone && row.usedPercent.isSome &&
        row.resetsAtMicros.any (decide <| row.observedAtMicros < ·)) ||
      (!row.notApplicable && row.errorCode.isSome && row.usedPercent.isNone &&
        row.resetsAtMicros.isNone) ||
      (row.notApplicable && durationMinutes == 300 && decide (0 < row.observedAtMicros) &&
        row.errorCode.isNone && row.usedPercent.isNone && row.resetsAtMicros.isNone))

/-- `i64::saturating_add`. -/
def saturatingAdd (value more : Int) : Int := min (value + more) i64Max

/-- The branch of an applicable row with both numbers. -/
def windowObservation (durationMinutes : Nat) (used resets observed now : Int) :
    Except StoreError AccountQuotaDisposition := do
  let used ← required "quota percentage" (if 0 ≤ used ∧ used < 256 then some used.toNat else none)
  let fact ← required "quota window" (AccountQuotaWindow.new durationMinutes used resets)
  if resets ≤ now ∨ saturatingAdd observed quotaFreshnessMicros < now then .ok (.stale fact)
  else .ok (.current fact)

/-- The disposition of an applicable row. -/
def rowDisposition (row : QuotaFactRow) (durationMinutes : Nat) (now : Int) :
    Except StoreError AccountQuotaDisposition :=
  match row.usedPercent, row.resetsAtMicros, row.errorCode with
  | none, none, some error => (parseQuotaError "quota observation error" error).map .error
  | some used, some resets, none =>
    windowObservation durationMinutes used resets row.observedAtMicros now
  | _, _, _ => .error (incompatible "quota observation shape")

/-- `quota_observation_sync` with the clock it would read. -/
def quotaObservationSync (row : Option QuotaFactRow) (durationMinutes : Nat) (now : Int) :
    Except StoreError AccountQuotaWindowObservation :=
  match row with
  | none => required "quota duration" (AccountQuotaWindowObservation.unknown durationMinutes)
  | some row =>
    if row.notApplicable then
      if durationMinutes ≠ 300 ∨ row.usedPercent.isSome ∨ row.resetsAtMicros.isSome ∨
          row.errorCode.isSome ∨ row.observedAtMicros ≤ 0 then
        .error (incompatible "quota absence shape")
      else if now < row.observedAtMicros ∨
          saturatingAdd row.observedAtMicros quotaFreshnessMicros < now then
        required "quota duration" (AccountQuotaWindowObservation.unknown durationMinutes)
      else .ok ⟨durationMinutes, some row.observedAtMicros, .notApplicable⟩
    else if row.errorCode = some "unsupported_window" then
      required "quota duration" (AccountQuotaWindowObservation.unknown durationMinutes)
    else
      (rowDisposition row durationMinutes now).map fun disposition =>
        ⟨durationMinutes, some row.observedAtMicros, disposition⟩

inductive AccountState where
  | unavailable | unknown | available | depleted | authFailed | pluginUnready
  deriving DecidableEq, Repr

inductive AccountLifecycleReadiness where
  | ready | unsupportedPlan | credentialAbsent | storeUnavailable | storeMismatch
  | providerMismatch | operationUnsettled | callbackCapabilityUnready | tombstoned
  deriving DecidableEq, Repr

/-- What the registry holds of an account. -/
structure StoredAccount where
  accountId : AccountId
  enabled : Bool
  state : AccountState
  revision : Int
  tombstoned : Bool
  lifecycleReadiness : AccountLifecycleReadiness
  fiveHourFact : Option QuotaFactRow
  sevenDayFact : Option QuotaFactRow
  deriving DecidableEq

structure AccountRecord where
  accountId : AccountId
  enabled : Bool
  revision : Int
  observedState : AccountState
  lifecycleReadiness : AccountLifecycleReadiness
  fiveHourQuota : AccountQuotaWindowObservation
  sevenDayQuota : AccountQuotaWindowObservation
  tombstoned : Bool
  deriving DecidableEq

/-- The instants the clock shows while the registry is read. -/
abbrev RegistryClock := AccountId → QuotaWindowClass → Int

/-- `account_from_base`. -/
def accountFromBase (clock : RegistryClock) (base : StoredAccount) :
    Except StoreError AccountRecord := do
  let fiveHour ← quotaObservationSync base.fiveHourFact 300 (clock base.accountId .fiveHour)
  let sevenDay ← quotaObservationSync base.sevenDayFact 10080 (clock base.accountId .sevenDay)
  .ok ⟨base.accountId, base.enabled, base.revision, base.state, base.lifecycleReadiness, fiveHour,
    sevenDay, base.tombstoned⟩

/-- The accounts without a tombstone; the stored list is in routing order. -/
def registryAccounts (accounts : List StoredAccount) : List StoredAccount :=
  accounts.filter fun account => !account.tombstoned

/-- `read_account_registry_sync` of every account. -/
def readAccountRegistrySync (accounts : List StoredAccount) (clock : RegistryClock) (limit : Nat) :
    Except StoreError (List AccountRecord) :=
  if limit < (registryAccounts accounts).length then .error (.capacityExhausted "account registry")
  else (registryAccounts accounts).mapM (accountFromBase clock)

/-- `account_blockers` before it sorts. -/
def foundBlockers (account : AccountRecord) : List RoutingBlocker :=
  (if account.observedState = .unavailable then [.accountUnavailable] else []) ++
  (if account.lifecycleReadiness = .storeUnavailable ∨
      account.lifecycleReadiness = .operationUnsettled then [.accountUnavailable] else []) ++
  (if account.observedState = .authFailed ∨ account.lifecycleReadiness = .credentialAbsent ∨
      account.lifecycleReadiness = .storeMismatch ∨
      account.lifecycleReadiness = .providerMismatch then [.accountAuthFailed] else []) ++
  (if account.observedState = .pluginUnready ∨
      account.lifecycleReadiness = .callbackCapabilityUnready then [.accountPluginUnready]
    else []) ++
  (if account.enabled = false ∨ account.tombstoned = true ∨
      account.lifecycleReadiness = .tombstoned then [.accountDisabled] else [])

/-- `account_blockers`: sorted in the order of their declaration, of equal neighbours the first. -/
def accountBlockers (account : AccountRecord) : List RoutingBlocker :=
  ((foundBlockers account).insertionSort fun a b => a.ctorIdx ≤ b.ctorIdx).destutter (· ≠ ·)

/-- The observation of `quota_fact`. -/
def quotaFactObservation (observation : AccountQuotaWindowObservation) :
    Except StoreError AccountRegistryQuotaObservation :=
  let observedAt (reason : String) : Except StoreError Int :=
    match observation.observedAtUnixMicros with
    | some at_ => .ok at_
    | none => .error (.incompatible reason)
  match observation.disposition with
  | .notApplicable => (observedAt "quota absence time").map .notApplicable
  | .unknown => .ok .missing
  | .current fact | .stale fact =>
    (observedAt "quota observation time").map fun at_ =>
      .current fact.usedPercent at_ fact.resetsAtUnixMicros
  | .error error => (observedAt "quota error time").map (.observationError error)

def quotaFact (account : AccountId) (window : QuotaWindowClass)
    (observation : AccountQuotaWindowObservation) : Except StoreError AccountRegistryQuotaFact :=
  if 2 ^ 16 ≤ observation.durationMinutes then .error (.incompatible "quota duration")
  else (quotaFactObservation observation).map fun observed =>
    ⟨account, window, observation.durationMinutes, observed⟩

/-- Both facts of one account. -/
def accountFacts (account : AccountRecord) : Except StoreError (List AccountRegistryQuotaFact) := do
  let fiveHour ← quotaFact account.accountId .fiveHour account.fiveHourQuota
  let sevenDay ← quotaFact account.accountId .sevenDay account.sevenDayQuota
  .ok [fiveHour, sevenDay]

def registryMember (account : AccountRecord) (index : Nat) : AccountRegistryRoutingMember :=
  ⟨index + 1, account.accountId, account.revision, accountBlockers account⟩

def buildSnapshot (snapshotId : String) (routingRevision : Int) (mode : AccountSelectionMode)
    (profileRevision resolvedAtMicros : Int) (accounts : List AccountRecord) :
    Except StoreError AccountRegistryRoutingSnapshot := do
  let quotaFacts ← accounts.mapM accountFacts
  .ok ⟨snapshotId, routingRevision, mode, profileRevision, resolvedAtMicros,
    accounts.zipIdx.map fun (account, index) => registryMember account index, quotaFacts.flatten⟩

/-- Whether a fact leaves the selected account known to be available. -/
def factComplete (now : Int) (fact : AccountRegistryQuotaFact) : Bool :=
  let fresh (observed : Int) : Bool :=
    observed ≤ now && now - observed ≤ accountRegistryQuotaFreshnessMicros
  match fact.observation with
  | .current used observedAt resetsAt => used < 100 && fresh observedAt && resetsAt > now
  | .notApplicable observedAt => fresh observedAt
  | .missing | .observationError _ _ => false

def quotaClassification (decision : AccountRegistryRoutingDecision)
    (snapshot : AccountRegistryRoutingSnapshot) : String :=
  if decision.kind = .waiting then "known_depleted"
  else
    match decision.selectedAccountId with
    | none => "unknown"
    | some account =>
      if (snapshot.quotaFacts.filter (·.accountId == account)).all
          (factComplete snapshot.resolvedAtMicros)
      then "known_available"
      else "unknown"

inductive AuthorityShape where
  | conversationAccountRegistry | conversationContinuation
  deriving DecidableEq, Repr

/-- A row of `routing_decisions`; its JSON columns hold their documents. -/
structure RoutingDecisionRow where
  routingDecisionId : String
  operationId : String
  idempotencyKey : String
  requestSha256 : String
  authorityShape : AuthorityShape
  conversationId : ConversationId
  turnId : TurnId
  conversationRevision : Int
  sourceRuntimeSessionId : Option RuntimeSessionId
  sourceRuntimeSessionRevision : Option Int
  accountSnapshotId : Option String
  profileSnapshotId : Option String
  snapshotId : Option String
  snapshotJson : Option Json
  decisionKind : String
  accountId : Option AccountId
  accountRevision : Option Int
  routingRevision : Int
  quotaClassification : String
  causesJson : Json
  exclusionsJson : Json
  createdAtMicros : Int

/-- The check that ties the source and snapshot columns to the shape of the decision. -/
def RoutingDecisionRow.shape (row : RoutingDecisionRow) : Bool :=
  match row.authorityShape with
  | .conversationAccountRegistry =>
    row.sourceRuntimeSessionId.isNone && row.sourceRuntimeSessionRevision.isNone &&
      row.accountSnapshotId.isNone && row.profileSnapshotId.isNone && row.snapshotId.isSome &&
      row.snapshotJson.isSome
  | .conversationContinuation =>
    row.sourceRuntimeSessionId.isSome && row.sourceRuntimeSessionRevision.isSome &&
      row.accountSnapshotId.isSome && row.profileSnapshotId.isSome && row.snapshotId.isNone &&
      row.snapshotJson.isNone && row.decisionKind == "selected"

def RoutingDecisionRow.check (row : RoutingDecisionRow) : Bool :=
  row.routingDecisionId.length == 36 && row.operationId.length == 36 &&
    decide (1 ≤ row.idempotencyKey.utf8ByteSize) && decide (row.idempotencyKey.utf8ByteSize ≤ 256) &&
    row.requestSha256.length == 64 && row.turnId.text.length == 36 &&
    decide (0 < row.conversationRevision) &&
    row.sourceRuntimeSessionRevision.all (decide <| 0 < ·) &&
    row.accountSnapshotId.all (·.length == 36) && row.profileSnapshotId.all (·.length == 36) &&
    row.snapshotId.all (·.length == 36) &&
    ["selected", "waiting", "no_route"].contains row.decisionKind &&
    row.accountRevision.all (decide <| 0 < ·) && decide (0 < row.routingRevision) &&
    ["known_available", "unknown", "known_depleted"].contains row.quotaClassification &&
    decide (0 < row.createdAtMicros) &&
    (row.decisionKind == "selected") == row.accountId.isSome &&
    row.accountId.isNone == row.accountRevision.isNone && row.shape

/-- The initial decision of a conversation. -/
def RoutingDecisionRow.initialFor (row : RoutingDecisionRow) (conversation : ConversationId) : Bool :=
  row.conversationId == conversation && row.authorityShape == .conversationAccountRegistry

/-- The unique columns, and `one_initial_routing_decision_per_conversation`. -/
def routingDecisions : Schema RoutingDecisionRow String where
  key row := row.routingDecisionId
  check := RoutingDecisionRow.check
  clash a b :=
    a.operationId == b.operationId || a.idempotencyKey == b.idempotencyKey ||
      (a.conversationId == b.conversationId && a.turnId == b.turnId) ||
      (a.initialFor b.conversationId && b.initialFor b.conversationId)

abbrev RoutingDecisions := Table routingDecisions

structure RouteConversationInitial where
  conversationId : ConversationId
  expectedConversationRevision : Int
  deriving DecidableEq

/-- `ExecutionConsumer::ConversationTurn`. -/
structure ExecutionConsumer where
  conversationId : ConversationId
  conversationRevision : Int
  sourceRuntimeSessionId : Option RuntimeSessionId
  sourceRuntimeSessionRevision : Option Int
  turnId : TurnId
  deriving DecidableEq

structure ConversationInitialRoute where
  decisionId : String
  operationId : String
  snapshot : AccountRegistryRoutingSnapshot
  consumer : ExecutionConsumer
  turnId : TurnId
  decidedAtMicros : Int
  decision : AccountRegistryRoutingDecision

structure RoutingRejection where
  operation : String
  code : String
  deriving DecidableEq, Repr

inductive ConversationInitialRouteOutcome where
  | fresh (route : ConversationInitialRoute)
  | replayed (route : ConversationInitialRoute)
  | rejected (rejection : RoutingRejection)

/-- What a call reads beside the decisions: the other tables, the clock, the generated
identities. -/
structure RouteWorld where
  /-- An active conversation with a request stands at the expected revision. -/
  conversationMatches : Bool
  modelSourceReviewRequired : Bool
  modelSource : Option (AccountId × Int)
  accounts : List StoredAccount
  clock : RegistryClock
  mode : String
  fixedAccountId : Option String
  routingRevision : Int
  profileRevision : Int
  decidedAtMicros : Int
  snapshotId : CanonicalUuidV4
  decisionId : CanonicalUuidV4
  operationId : CanonicalUuidV4
  turnId : CanonicalUuidV4
  /-- Stored revisions are integers of 64 bits. -/
  routingRevisionStored : Json.Int64 routingRevision
  profileRevisionStored : Json.Int64 profileRevision
  accountRevisionsStored : ∀ account ∈ accounts, Json.Int64 account.revision

def initialRejection (code : String) : ConversationInitialRouteOutcome :=
  .rejected ⟨"route_quick_task_initial", code⟩

/-- `route_request_sha`. -/
def routeRequestSha (host : Host) (request : RouteConversationInitial) : String :=
  host.digest [request.conversationId.text, toString request.expectedConversationRevision]

/-- `replayed_routing_decision`. -/
def replayedRoutingDecision (table : RoutingDecisions) (key requestSha : String) :
    Except StoreError (Option String) :=
  match table.rows.find? (·.idempotencyKey == key) with
  | none => .ok none
  | some row =>
    if row.requestSha256 ≠ requestSha then .error .idempotencyConflict
    else .ok (some row.routingDecisionId)

/-- `initial_route_rejection`. -/
def initialRouteRejection (table : RoutingDecisions) (request : RouteConversationInitial)
    (world : RouteWorld) : Option ConversationInitialRouteOutcome :=
  if world.conversationMatches = false then some (initialRejection "conversation_mismatch")
  else if table.rows.any (·.initialFor request.conversationId) then
    some (initialRejection "initial_routing_already_bound")
  else if world.modelSourceReviewRequired then
    some (initialRejection "initial_model_source_changed")
  else none

/-- `read_routing_control`. -/
def readRoutingControl (world : RouteWorld) : Except StoreError AccountSelectionMode :=
  match world.mode, world.fixedAccountId with
  | "balanced", none => .ok .balanced
  | "fixed", some account =>
    match CanonicalUuid.parse? account with
    | some account => .ok (.fixed account)
    | none => .error (.incompatible "fixed account")
  | _, _ => .error (.incompatible "routing control")

/-- `mark_changed_model_source`: the request names another account or revision. -/
def changedModelSource (world : RouteWorld) (selected : Option AccountId)
    (accountRevision : Option Int) : Bool :=
  match selected, world.modelSource with
  | some selected, some source => !(source.1 == selected && some source.2 == accountRevision)
  | _, _ => false

/-- The row of `insert_initial_route`. -/
def initialRow (key requestSha : String) (request : RouteConversationInitial)
    (route : ConversationInitialRoute) (accountRevision : Option Int) : RoutingDecisionRow where
  routingDecisionId := route.decisionId
  operationId := route.operationId
  idempotencyKey := key
  requestSha256 := requestSha
  authorityShape := .conversationAccountRegistry
  conversationId := request.conversationId
  turnId := route.turnId
  conversationRevision := request.expectedConversationRevision
  sourceRuntimeSessionId := none
  sourceRuntimeSessionRevision := none
  accountSnapshotId := none
  profileSnapshotId := none
  snapshotId := some route.snapshot.snapshotId
  snapshotJson := some (serializeSnapshot route.snapshot)
  decisionKind := decisionKindText route.decision.kind
  accountId := route.decision.selectedAccountId
  accountRevision := accountRevision
  routingRevision := route.snapshot.routingRevision
  quotaClassification := quotaClassification route.decision route.snapshot
  causesJson := serializeCauses route.decision.causes
  exclusionsJson := serializeExclusions route.decision.exclusions
  createdAtMicros := route.decidedAtMicros

/-- The route that the row of `read_initial_route_by_id` holds. -/
def routeOfRow (row : RoutingDecisionRow) : Except StoreError ConversationInitialRoute := do
  let document ← execute row.snapshotJson
  let snapshot ← parseSnapshot document
  let kind ← parseDecisionKind row.decisionKind
  let causes ← parseCauses row.causesJson
  let exclusions ← parseExclusions row.exclusionsJson
  .ok ⟨row.routingDecisionId, row.operationId, snapshot,
    ⟨row.conversationId, row.conversationRevision, none, none, row.turnId⟩, row.turnId,
    row.createdAtMicros, ⟨snapshot.snapshotId, kind, row.accountId, exclusions, causes⟩⟩

/-- `read_initial_route_by_id`. -/
def readInitialRouteById (table : RoutingDecisions) (decisionId : String) :
    Except StoreError ConversationInitialRoute := do
  let row ← execute ((table.find? decisionId).filter
    (·.authorityShape == .conversationAccountRegistry))
  routeOfRow row

/-- `read_conversation_initial_route`. -/
def readConversationInitialRoute (table : RoutingDecisions) (conversation : ConversationId) :
    Except StoreError (Option ConversationInitialRoute) :=
  match table.rows.find? (·.initialFor conversation) with
  | none => .ok none
  | some row => (readInitialRouteById table row.routingDecisionId).map some

/-- The revision of the selected account. -/
def selectedRevision (accounts : List AccountRecord) (decision : AccountRegistryRoutingDecision) :
    Option Int :=
  decision.selectedAccountId.bind fun selected =>
    (accounts.find? (·.accountId == selected)).map (·.revision)

/-- The route that a call builds from the registry it has read. -/
def freshRoute (request : RouteConversationInitial) (world : RouteWorld)
    (snapshot : AccountRegistryRoutingSnapshot) (decision : AccountRegistryRoutingDecision) :
    ConversationInitialRoute where
  decisionId := world.decisionId.text
  operationId := world.operationId.text
  snapshot := snapshot
  consumer := ⟨request.conversationId, request.expectedConversationRevision, none, none,
    world.turnId.toUuid⟩
  turnId := world.turnId.toUuid
  decidedAtMicros := world.decidedAtMicros
  decision := decision

/-- The kernel's failure as the store reports it. -/
def decided (decision : Except RoutingFault AccountRegistryRoutingDecision) :
    Except StoreError AccountRegistryRoutingDecision :=
  decision.mapError fun _ => .incompatible "routing snapshot is incomplete"

/-- A call from a registry with accounts on. -/
def decideInitialRoute (host : Host) (key : String) (request : RouteConversationInitial)
    (world : RouteWorld) (accounts : List AccountRecord) (table : RoutingDecisions) :
    Except StoreError (ConversationInitialRouteOutcome × RoutingDecisions) := do
  let mode ← readRoutingControl world
  let snapshot ← buildSnapshot world.snapshotId.text world.routingRevision mode
    world.profileRevision world.decidedAtMicros accounts
  let decision ← decided (decideAccountRegistryRouting snapshot world.decidedAtMicros)
  let accountRevision := selectedRevision accounts decision
  if changedModelSource world decision.selectedAccountId accountRevision then
    .ok (initialRejection "initial_model_source_changed", table)
  else do
    let route := freshRoute request world snapshot decision
    let after ← execute (table.insert (initialRow key (routeRequestSha host request) request route
      accountRevision))
    .ok (.fresh route, after)

/-- A call whose key is new. -/
def routeNew (host : Host) (key : String) (request : RouteConversationInitial)
    (world : RouteWorld) (table : RoutingDecisions) :
    Except StoreError (ConversationInitialRouteOutcome × RoutingDecisions) :=
  match initialRouteRejection table request world with
  | some rejection => .ok (rejection, table)
  | none => do
    let accounts ← readAccountRegistrySync world.accounts world.clock 512
    if accounts.isEmpty then .ok (initialRejection "routing_authority_unavailable", table)
    else decideInitialRoute host key request world accounts table

def routeConversationInitial (host : Host) (key : String) (request : RouteConversationInitial)
    (world : RouteWorld) (table : RoutingDecisions) :
    Except StoreError (ConversationInitialRouteOutcome × RoutingDecisions) := do
  validateKey host key
  if request.expectedConversationRevision ≤ 0 then
    .error (.invalidInput "Conversation revision must be positive")
  else do
    let replayed ← replayedRoutingDecision table key (routeRequestSha host request)
    match replayed with
    | some decisionId => do
      let route ← readInitialRouteById table decisionId
      .ok (.replayed route, table)
    | none => routeNew host key request world table

structure BindConversationContinuation where
  operationId : String
  conversationId : ConversationId
  expectedConversationRevision : Int
  sourceRuntimeSessionId : RuntimeSessionId
  expectedSourceRuntimeSessionRevision : Int
  turnId : TurnId
  deriving DecidableEq

/-- The active session, conversation and turn that `read_continuation_authority` joins. -/
structure ContinuationSession where
  accountId : AccountId
  accountRevision : Int
  accountSnapshotId : String
  profileSnapshotId : String
  profileRevision : Int

structure ContinuationWorld where
  session : Option ContinuationSession
  /-- The profile revision of the session that a replayed binding names. -/
  replayedProfileRevision : Option Int
  decisionId : CanonicalUuidV4
  decidedAtMicros : Int

structure ConversationContinuationBinding where
  decisionId : String
  consumer : ExecutionConsumer
  initialDecisionId : String
  accountSnapshotId : String
  accountSnapshotSourceRevision : Int
  profileSnapshotId : String
  profileSnapshotSourceRevision : Int
  decidedAtMicros : Int

inductive ContinuationOutcome where
  | success (binding : ConversationContinuationBinding)
  | rejected (rejection : RoutingRejection)

/-- `continuation_request_sha`. -/
def continuationRequestSha (host : Host) (request : BindConversationContinuation) : String :=
  host.digest [request.operationId, request.conversationId.text,
    toString request.expectedConversationRevision, request.sourceRuntimeSessionId.text,
    toString request.expectedSourceRuntimeSessionRevision, request.turnId.text]

/-- The row that binds a later turn to the selected account. -/
def continuationRow (key requestSha : String) (request : BindConversationContinuation)
    (world : ContinuationWorld) (session : ContinuationSession) (routingRevision : Int) :
    RoutingDecisionRow where
  routingDecisionId := world.decisionId.text
  operationId := request.operationId
  idempotencyKey := key
  requestSha256 := requestSha
  authorityShape := .conversationContinuation
  conversationId := request.conversationId
  turnId := request.turnId
  conversationRevision := request.expectedConversationRevision
  sourceRuntimeSessionId := some request.sourceRuntimeSessionId
  sourceRuntimeSessionRevision := some request.expectedSourceRuntimeSessionRevision
  accountSnapshotId := some session.accountSnapshotId
  profileSnapshotId := some session.profileSnapshotId
  snapshotId := none
  snapshotJson := none
  decisionKind := "selected"
  accountId := some session.accountId
  accountRevision := some session.accountRevision
  routingRevision := routingRevision
  quotaClassification := "unknown"
  causesJson := .array []
  exclusionsJson := .array []
  createdAtMicros := world.decidedAtMicros

/-- `read_continuation_binding`. -/
def readContinuationBinding (table : RoutingDecisions) (decisionId : String)
    (profileRevision : Option Int) : Except StoreError ConversationContinuationBinding := do
  let row ← execute ((table.find? decisionId).filter (·.authorityShape == .conversationContinuation))
  let initial ← execute (table.rows.find? (·.initialFor row.conversationId))
  let profileRevision ← execute profileRevision
  let session ← execute row.sourceRuntimeSessionId
  let sessionRevision ← execute row.sourceRuntimeSessionRevision
  let accountSnapshotId ← execute row.accountSnapshotId
  let accountRevision ← execute row.accountRevision
  let profileSnapshotId ← execute row.profileSnapshotId
  .ok ⟨decisionId, ⟨row.conversationId, row.conversationRevision, some session,
    some sessionRevision, row.turnId⟩, initial.routingDecisionId, accountSnapshotId,
    accountRevision, profileSnapshotId, profileRevision, row.createdAtMicros⟩

/-- A binding whose key is new. -/
def bindNew (host : Host) (key : String) (request : BindConversationContinuation)
    (world : ContinuationWorld) (table : RoutingDecisions) :
    Except StoreError (ContinuationOutcome × RoutingDecisions) :=
  match world.session, table.rows.find? (·.initialFor request.conversationId) with
  | some session, some initial => do
    let after ← execute (table.insert (continuationRow key (continuationRequestSha host request)
      request world session initial.routingRevision))
    .ok (.success ⟨world.decisionId.text, ⟨request.conversationId,
      request.expectedConversationRevision, some request.sourceRuntimeSessionId,
      some request.expectedSourceRuntimeSessionRevision, request.turnId⟩,
      initial.routingDecisionId, session.accountSnapshotId, session.accountRevision,
      session.profileSnapshotId, session.profileRevision, world.decidedAtMicros⟩, after)
  | _, _ => .ok (.rejected ⟨"bind_quick_task_continuation", "authority_unavailable"⟩, table)

def bindConversationContinuation (host : Host) (key : String)
    (request : BindConversationContinuation) (world : ContinuationWorld)
    (table : RoutingDecisions) : Except StoreError (ContinuationOutcome × RoutingDecisions) := do
  validateKey host key
  if request.expectedConversationRevision ≤ 0 ∨ request.expectedSourceRuntimeSessionRevision ≤ 0 then
    .error (.invalidInput "Conversation continuation coordinates are invalid")
  else do
    let replayed ← replayedRoutingDecision table key (continuationRequestSha host request)
    match replayed with
    | some decisionId => do
      let binding ← readContinuationBinding table decisionId world.replayedProfileRevision
      .ok (.success binding, table)
    | none => bindNew host key request world table

end Decodex.Source.Store.ConversationRouting
