import Decodex.Library.Json
import Decodex.Source.Core.Routing
import Decodex.Source.Store.Error

/-!
# Stored routing decisions

Source: crates/decodex-core/src/routing.rs:158-251 (`as_sql`, `from_sql`),
database/src/conversation_routing.rs:834-1061 (snapshot, causes and exclusions), 1097-1150
(texts), 1188-1205 (`string`, `text`, `integer`). The JSON text itself is taken as faithful: a
stored column is the document. `usize` has 64 bits.
-/
namespace Decodex.Source.Store.RoutingJson

open Decodex.Library
open Decodex.Source.Core Decodex.Source.Core.Routing

/-- `RoutingBlocker::as_sql`. -/
def asSql : RoutingBlocker → String
  | .excludedByPolicy => "excluded_by_policy"
  | .accountFromFuture => "account_from_future"
  | .accountStale => "account_stale"
  | .accountUnavailable => "account_unavailable"
  | .accountUnknown => "account_unknown"
  | .accountDepleted => "account_depleted"
  | .accountAuthFailed => "account_auth_failed"
  | .accountPluginUnready => "account_plugin_unready"
  | .accountDisabled => "account_disabled"
  | .evidenceMissing => "evidence_missing"
  | .evidenceFromFuture => "evidence_from_future"
  | .evidenceStale => "evidence_stale"
  | .evidenceAccountMismatch => "evidence_account_mismatch"
  | .evidenceProfileMismatch => "evidence_profile_mismatch"
  | .evidenceBuildMismatch => "evidence_build_mismatch"
  | .quotaFiveHourMissing => "quota_five_hour_missing"
  | .quotaFiveHourFromFuture => "quota_five_hour_from_future"
  | .quotaFiveHourStale => "quota_five_hour_stale"
  | .quotaFiveHourUnknown => "quota_five_hour_unknown"
  | .quotaFiveHourResetElapsed => "quota_five_hour_reset_elapsed"
  | .quotaFiveHourDepleted => "quota_five_hour_depleted"
  | .quotaSevenDayMissing => "quota_seven_day_missing"
  | .quotaSevenDayFromFuture => "quota_seven_day_from_future"
  | .quotaSevenDayStale => "quota_seven_day_stale"
  | .quotaSevenDayUnknown => "quota_seven_day_unknown"
  | .quotaSevenDayResetElapsed => "quota_seven_day_reset_elapsed"
  | .quotaSevenDayDepleted => "quota_seven_day_depleted"
  | .requiredCapabilityUnsatisfied => "required_capability_unsatisfied"
  | .authenticationRequired => "authentication_required"
  | .pluginUnready => "plugin_unready"
  | .dependencyBlocked => "dependency_blocked"
  | .approvalRequired => "approval_required"
  | .userRequired => "user_required"
  | .externalBlocked => "external_blocked"
  | .usageUnproven => "usage_unproven"
  | .reconciliationUnproven => "reconciliation_unproven"
  | .reviewerUnavailable => "reviewer_unavailable"
  | .reviewerFailed => "reviewer_failed"
  | .reviewerAmbiguous => "reviewer_ambiguous"
  | .processGenerationUnresolved => "process_generation_unresolved"
  | .processGenerationUnavailable => "process_generation_unavailable"
  | .providerAttemptUnresolved => "provider_attempt_unresolved"
  | .providerAttemptCompleted => "provider_attempt_completed"

/-- `RoutingBlocker::from_sql`. -/
def fromSql : String → Option RoutingBlocker
  | "excluded_by_policy" => some .excludedByPolicy
  | "account_from_future" => some .accountFromFuture
  | "account_stale" => some .accountStale
  | "account_unavailable" => some .accountUnavailable
  | "account_unknown" => some .accountUnknown
  | "account_depleted" => some .accountDepleted
  | "account_auth_failed" => some .accountAuthFailed
  | "account_plugin_unready" => some .accountPluginUnready
  | "account_disabled" => some .accountDisabled
  | "evidence_missing" => some .evidenceMissing
  | "evidence_from_future" => some .evidenceFromFuture
  | "evidence_stale" => some .evidenceStale
  | "evidence_account_mismatch" => some .evidenceAccountMismatch
  | "evidence_profile_mismatch" => some .evidenceProfileMismatch
  | "evidence_build_mismatch" => some .evidenceBuildMismatch
  | "quota_five_hour_missing" => some .quotaFiveHourMissing
  | "quota_five_hour_from_future" => some .quotaFiveHourFromFuture
  | "quota_five_hour_stale" => some .quotaFiveHourStale
  | "quota_five_hour_unknown" => some .quotaFiveHourUnknown
  | "quota_five_hour_reset_elapsed" => some .quotaFiveHourResetElapsed
  | "quota_five_hour_depleted" => some .quotaFiveHourDepleted
  | "quota_seven_day_missing" => some .quotaSevenDayMissing
  | "quota_seven_day_from_future" => some .quotaSevenDayFromFuture
  | "quota_seven_day_stale" => some .quotaSevenDayStale
  | "quota_seven_day_unknown" => some .quotaSevenDayUnknown
  | "quota_seven_day_reset_elapsed" => some .quotaSevenDayResetElapsed
  | "quota_seven_day_depleted" => some .quotaSevenDayDepleted
  | "required_capability_unsatisfied" => some .requiredCapabilityUnsatisfied
  | "authentication_required" => some .authenticationRequired
  | "plugin_unready" => some .pluginUnready
  | "dependency_blocked" => some .dependencyBlocked
  | "approval_required" => some .approvalRequired
  | "user_required" => some .userRequired
  | "external_blocked" => some .externalBlocked
  | "usage_unproven" => some .usageUnproven
  | "reconciliation_unproven" => some .reconciliationUnproven
  | "reviewer_unavailable" => some .reviewerUnavailable
  | "reviewer_failed" => some .reviewerFailed
  | "reviewer_ambiguous" => some .reviewerAmbiguous
  | "process_generation_unresolved" => some .processGenerationUnresolved
  | "process_generation_unavailable" => some .processGenerationUnavailable
  | "provider_attempt_unresolved" => some .providerAttemptUnresolved
  | "provider_attempt_completed" => some .providerAttemptCompleted
  | _ => none

/-- `window_text`. -/
def windowText : QuotaWindowClass → String
  | .fiveHour => "five_hour"
  | .sevenDay => "seven_day"

/-- The match that reads a window; `reason` names the record it stands in. -/
def parseWindow (reason : String) : String → Except StoreError QuotaWindowClass
  | "five_hour" => .ok .fiveHour
  | "seven_day" => .ok .sevenDay
  | _ => .error (incompatible reason)

def quotaErrorText : AccountQuotaObservationError → String
  | .providerUnavailable => "provider_unavailable"
  | .protocolUnavailable => "protocol_unavailable"
  | .accountMismatch => "account_mismatch"
  | .unsupportedWindow => "unsupported_window"

/-- `parse_quota_error`; `reason` is what each of its two copies reports. -/
def parseQuotaError (reason : String) : String → Except StoreError AccountQuotaObservationError
  | "provider_unavailable" => .ok .providerUnavailable
  | "protocol_unavailable" => .ok .protocolUnavailable
  | "account_mismatch" => .ok .accountMismatch
  | "unsupported_window" => .ok .unsupportedWindow
  | _ => .error (incompatible reason)

def decisionKindText : AccountRegistryRoutingDecisionKind → String
  | .selected => "selected"
  | .waiting => "waiting"
  | .noRoute => "no_route"

def parseDecisionKind : String → Except StoreError AccountRegistryRoutingDecisionKind
  | "selected" => .ok .selected
  | "waiting" => .ok .waiting
  | "no_route" => .ok .noRoute
  | _ => .error (incompatible "routing decision kind")

/-- `ok_or_else(|| incompatible(reason))`. -/
def required {α : Type} (reason : String) : Option α → Except StoreError α
  | some value => .ok value
  | none => .error (incompatible reason)

def text (value : Option Json) : Except StoreError String :=
  required "JSON text" (value.bind Json.asString)

def integer (value : Option Json) : Except StoreError Int :=
  required "JSON integer" (value.bind Json.asInt64)

/-- `integer`, then `try_from` into an unsigned type of this many bits. -/
def unsigned (reason : String) (bits : Nat) (value : Option Json) : Except StoreError Nat := do
  let number ← integer value
  required reason (if 0 ≤ number ∧ number.toNat < 2 ^ bits then some number.toNat else none)

def accountId (reason : String) (value : String) : Except StoreError AccountId :=
  required reason (CanonicalUuid.parse? value)

def serializeMode : AccountSelectionMode → Json
  | .balanced => .object [("kind", .string "balanced")]
  | .fixed account => .object [("kind", .string "fixed"), ("account_id", .string account.text)]

def serializeMember (member : AccountRegistryRoutingMember) : Json :=
  .object [
    ("position", .number member.position),
    ("account_id", .string member.accountId.text),
    ("account_revision", .number member.accountRevision),
    ("blockers", .array (member.blockers.map fun blocker => .string (asSql blocker)))]

def serializeObservation : AccountRegistryQuotaObservation → Json
  | .missing => .object [("kind", .string "missing")]
  | .notApplicable observedAtMicros =>
    .object [("kind", .string "not_applicable"), ("observed_at_micros", .number observedAtMicros)]
  | .current usedPercent observedAtMicros resetsAtMicros =>
    .object [("kind", .string "current"), ("used_percent", .number usedPercent),
      ("observed_at_micros", .number observedAtMicros), ("resets_at_micros", .number resetsAtMicros)]
  | .observationError error observedAtMicros =>
    .object [("kind", .string "error"), ("error", .string (quotaErrorText error)),
      ("observed_at_micros", .number observedAtMicros)]

def serializeQuotaFact (fact : AccountRegistryQuotaFact) : Json :=
  .object [
    ("account_id", .string fact.accountId.text),
    ("window", .string (windowText fact.window)),
    ("duration_minutes", .number fact.durationMinutes),
    ("observation", serializeObservation fact.observation)]

def serializeSnapshot (snapshot : AccountRegistryRoutingSnapshot) : Json :=
  .object [
    ("snapshot_id", .string snapshot.snapshotId),
    ("routing_revision", .number snapshot.routingRevision),
    ("mode", serializeMode snapshot.mode),
    ("task_role_profile_revision", .number snapshot.taskRoleProfileRevision),
    ("resolved_at_micros", .number snapshot.resolvedAtMicros),
    ("members", .array (snapshot.members.map serializeMember)),
    ("quota_facts", .array (snapshot.quotaFacts.map serializeQuotaFact))]

def parseBlocker (value : Json) : Except StoreError RoutingBlocker := do
  let spelling ← text (some value)
  required "routing blocker" (fromSql spelling)

def parseMember (value : Json) : Except StoreError AccountRegistryRoutingMember := do
  let object ← required "routing member" value.asObject
  let spellings ← required "routing blockers" ((Json.get object "blockers").bind Json.asArray)
  let blockers ← spellings.mapM parseBlocker
  let position ← unsigned "routing position" 64 (Json.get object "position")
  let account ← text (Json.get object "account_id")
  let account ← accountId "routing account" account
  let revision ← integer (Json.get object "account_revision")
  .ok ⟨position, account, revision, blockers⟩

def parseCurrent (object : List (String × Json)) :
    Except StoreError AccountRegistryQuotaObservation := do
  let usedPercent ← unsigned "quota percent" 8 (Json.get object "used_percent")
  let observedAtMicros ← integer (Json.get object "observed_at_micros")
  let resetsAtMicros ← integer (Json.get object "resets_at_micros")
  .ok (.current usedPercent observedAtMicros resetsAtMicros)

def parseObservationError (object : List (String × Json)) :
    Except StoreError AccountRegistryQuotaObservation := do
  let error ← text (Json.get object "error")
  let error ← parseQuotaError "quota error" error
  let observedAtMicros ← integer (Json.get object "observed_at_micros")
  .ok (.observationError error observedAtMicros)

/-- The match over the kind of a stored observation. -/
def parseObservation (object : List (String × Json)) :
    String → Except StoreError AccountRegistryQuotaObservation
  | "missing" => .ok .missing
  | "not_applicable" =>
    (integer (Json.get object "observed_at_micros")).map .notApplicable
  | "current" => parseCurrent object
  | "error" => parseObservationError object
  | _ => .error (incompatible "quota observation kind")

def parseQuotaFact (value : Json) : Except StoreError AccountRegistryQuotaFact := do
  let object ← required "routing quota fact" value.asObject
  let account ← text (Json.get object "account_id")
  let account ← accountId "quota account" account
  let window ← text (Json.get object "window")
  let window ← parseWindow "quota window" window
  let durationMinutes ← unsigned "quota duration" 16 (Json.get object "duration_minutes")
  let observed ← required "quota observation"
    ((Json.get object "observation").bind Json.asObject)
  let kind ← text (Json.get observed "kind")
  let observation ← parseObservation observed kind
  .ok ⟨account, window, durationMinutes, observation⟩

/-- The match over the kind of a stored mode. -/
def parseMode (object : List (String × Json)) : String → Except StoreError AccountSelectionMode
  | "balanced" => .ok .balanced
  | "fixed" => do
    let account ← text (Json.get object "account_id")
    let account ← accountId "fixed account" account
    .ok (.fixed account)
  | _ => .error (incompatible "routing mode")

def parseSnapshot (value : Json) : Except StoreError AccountRegistryRoutingSnapshot := do
  let object ← required "routing snapshot" value.asObject
  let snapshotId ← text (Json.get object "snapshot_id")
  let routingRevision ← integer (Json.get object "routing_revision")
  let profileRevision ← integer (Json.get object "task_role_profile_revision")
  let resolvedAtMicros ← integer (Json.get object "resolved_at_micros")
  let modeObject ← required "routing mode" ((Json.get object "mode").bind Json.asObject)
  let kind ← text (Json.get modeObject "kind")
  let mode ← parseMode modeObject kind
  let members ← required "routing members" ((Json.get object "members").bind Json.asArray)
  let members ← members.mapM parseMember
  let quotaFacts ← required "routing quota" ((Json.get object "quota_facts").bind Json.asArray)
  let quotaFacts ← quotaFacts.mapM parseQuotaFact
  .ok ⟨snapshotId, routingRevision, mode, profileRevision, resolvedAtMicros, members, quotaFacts⟩

def serializeCause (cause : RoutingDecisionCause) : Json :=
  .object [("account_id", .string cause.accountId.text), ("blocker", .string (asSql cause.blocker))]

def serializeCauses (causes : List RoutingDecisionCause) : Json :=
  .array (causes.map serializeCause)

def parseCause (value : Json) : Except StoreError RoutingDecisionCause := do
  let object ← required "routing cause" value.asObject
  let account ← text (Json.get object "account_id")
  let account ← accountId "routing cause account" account
  let blocker ← text (Json.get object "blocker")
  let blocker ← required "routing cause blocker" (fromSql blocker)
  .ok ⟨account, blocker⟩

def parseCauses (value : Json) : Except StoreError (List RoutingDecisionCause) := do
  let causes ← required "routing causes" value.asArray
  causes.mapM parseCause

def serializeExclusion (exclusion : AccountRegistryRoutingExclusion) : Json :=
  .object [
    ("account_id", .string exclusion.accountId.text),
    ("member_position", .number exclusion.memberPosition),
    ("window", .string (windowText exclusion.window)),
    ("duration_minutes", .number exclusion.durationMinutes),
    ("used_percent", .number exclusion.usedPercent),
    ("observed_at_micros", .number exclusion.observedAtMicros),
    ("resets_at_micros", .number exclusion.resetsAtMicros)]

def serializeExclusions (exclusions : List AccountRegistryRoutingExclusion) : Json :=
  .array (exclusions.map serializeExclusion)

def parseExclusion (value : Json) : Except StoreError AccountRegistryRoutingExclusion := do
  let object ← required "routing exclusion" value.asObject
  let account ← text (Json.get object "account_id")
  let account ← accountId "routing exclusion account" account
  let position ← unsigned "routing exclusion position" 64 (Json.get object "member_position")
  let window ← text (Json.get object "window")
  let window ← parseWindow "routing exclusion window" window
  let durationMinutes ← unsigned "routing exclusion duration" 16 (Json.get object "duration_minutes")
  let usedPercent ← unsigned "routing exclusion percentage" 8 (Json.get object "used_percent")
  let observedAtMicros ← integer (Json.get object "observed_at_micros")
  let resetsAtMicros ← integer (Json.get object "resets_at_micros")
  .ok ⟨account, position, window, durationMinutes, usedPercent, observedAtMicros, resetsAtMicros⟩

def parseExclusions (value : Json) : Except StoreError (List AccountRegistryRoutingExclusion) := do
  let exclusions ← required "routing exclusions" value.asArray
  exclusions.mapM parseExclusion

def TypedObservation : AccountRegistryQuotaObservation → Prop
  | .missing => True
  | .notApplicable observedAt | .observationError _ observedAt => Json.Int64 observedAt
  | .current used observedAt resetsAt => used < 2 ^ 8 ∧ Json.Int64 observedAt ∧ Json.Int64 resetsAt

/-- Every number of the snapshot is a value of its type. -/
structure TypedSnapshot (snapshot : AccountRegistryRoutingSnapshot) : Prop where
  routingRevision : Json.Int64 snapshot.routingRevision
  profileRevision : Json.Int64 snapshot.taskRoleProfileRevision
  resolvedAt : Json.Int64 snapshot.resolvedAtMicros
  positions : ∀ member ∈ snapshot.members, member.position < 2 ^ 64
  revisions : ∀ member ∈ snapshot.members, Json.Int64 member.accountRevision
  durations : ∀ fact ∈ snapshot.quotaFacts, fact.durationMinutes < 2 ^ 16
  observations : ∀ fact ∈ snapshot.quotaFacts, TypedObservation fact.observation

structure TypedExclusion (exclusion : AccountRegistryRoutingExclusion) : Prop where
  position : exclusion.memberPosition < 2 ^ 64
  duration : exclusion.durationMinutes < 2 ^ 16
  used : exclusion.usedPercent < 2 ^ 8
  observedAt : Json.Int64 exclusion.observedAtMicros
  resetsAt : Json.Int64 exclusion.resetsAtMicros

/-- `ok_bind` as an equation to rewrite with: unfolding the readers instead would count up to the
bounds of their numbers. -/
theorem read_bind {ε α β : Type} (value : α) (next : α → Except ε β) :
    (Except.ok value >>= next) = next value := by
  rw [ok_bind]

@[simp] theorem required_some {α : Type} (reason : String) (value : α) :
    required reason (some value) = .ok value := rfl

@[simp] theorem required_none {α : Type} (reason : String) :
    required reason (none : Option α) = .error (incompatible reason) := rfl

@[simp] theorem fromSql_asSql (blocker : RoutingBlocker) :
    fromSql (asSql blocker) = some blocker := by
  cases blocker <;> rfl

@[simp] theorem parseWindow_windowText (reason : String) (window : QuotaWindowClass) :
    parseWindow reason (windowText window) = .ok window := by
  cases window <;> rfl

@[simp] theorem parseQuotaError_quotaErrorText (reason : String)
    (error : AccountQuotaObservationError) :
    parseQuotaError reason (quotaErrorText error) = .ok error := by
  cases error <;> rfl

@[simp] theorem parseDecisionKind_decisionKindText (kind : AccountRegistryRoutingDecisionKind) :
    parseDecisionKind (decisionKindText kind) = .ok kind := by
  cases kind <;> rfl

@[simp] theorem accountId_text (reason : String) (account : AccountId) :
    accountId reason account.text = .ok account := by
  rw [accountId, CanonicalUuid.parse?_text, required_some]

@[simp] theorem text_string (value : String) : text (some (.string value)) = .ok value := rfl

theorem integer_number {value : Int} (typed : Json.Int64 value) :
    integer (some (.number value)) = .ok value := by
  rw [integer, Option.bind_some, Json.asInt64_eq_some typed, required_some]

/-- An unsigned number reads back unless it needs the sign bit of the stored integer. -/
theorem unsigned_ok_iff (reason : String) {bits value : Nat} (typed : value < 2 ^ bits) :
    unsigned reason bits (some (.number value)) = .ok value ↔ value < 2 ^ 63 := by
  have fits : (0 : Int) ≤ value ∧ (value : Int).toNat < 2 ^ bits :=
    ⟨Int.natCast_nonneg value, typed⟩
  unfold unsigned
  constructor
  · intro read
    by_contra wide
    have outside : ¬Json.Int64 (value : Int) := by
      unfold Json.Int64
      omega
    rw [integer, Option.bind_some, Json.asInt64_eq_none outside] at read
    cases read
  · intro small
    have inside : Json.Int64 (value : Int) := by
      unfold Json.Int64
      omega
    rw [integer_number inside, ok_bind, if_pos fits, required_some, Int.toNat_natCast]

/-- A number of at most 16 bits reads back. -/
theorem unsigned_number (reason : String) {bits value : Nat} (typed : value < 2 ^ bits)
    (narrow : bits ≤ 16) : unsigned reason bits (some (.number value)) = .ok value := by
  have small : value < 2 ^ 16 := Nat.lt_of_lt_of_le typed (Nat.pow_le_pow_right (by decide) narrow)
  rw [unsigned_ok_iff reason typed]
  omega

theorem parseMode_serializeMode (mode : AccountSelectionMode) :
    (do
      let object ← required "routing mode" (serializeMode mode).asObject
      let kind ← text (Json.get object "kind")
      parseMode object kind) = .ok mode := by
  cases mode with
  | balanced => rfl
  | fixed account =>
    simp [serializeMode, parseMode]

theorem parseMember_ok_iff (member : AccountRegistryRoutingMember)
    (position : member.position < 2 ^ 64) (revision : Json.Int64 member.accountRevision) :
    parseMember (serializeMember member) = .ok member ↔ member.position < 2 ^ 63 := by
  rw [← unsigned_ok_iff "routing position" position]
  have blockers : (member.blockers.map fun blocker => Json.string (asSql blocker)).mapM parseBlocker =
      .ok member.blockers := by
    rw [mapM_map_eq_ok_iff]
    intro blocker _
    simp [parseBlocker]
  unfold parseMember serializeMember
  simp only [Json.asObject_object, required_some, read_bind, Json.get_cons, String.reduceEq, if_true,
    if_false, Option.bind_some, Json.asArray_array, blockers, text_string, accountId_text,
    integer_number revision]
  cases read : unsigned "routing position" 64 (some (.number member.position)) with
  | error error => simp
  | ok value =>
    rw [ok_bind, Except.ok.injEq, Except.ok.injEq]
    constructor
    · intro same
      exact congrArg AccountRegistryRoutingMember.position same
    · rintro rfl
      rfl

theorem parseObservation_serializeObservation (observation : AccountRegistryQuotaObservation)
    (typed : TypedObservation observation) :
    (do
      let object ← required "quota observation" (serializeObservation observation).asObject
      let kind ← text (Json.get object "kind")
      parseObservation object kind) = .ok observation := by
  cases observation with
  | missing => rfl
  | notApplicable observedAt =>
    simp only [serializeObservation, Json.asObject_object, required_some, read_bind, Json.get_cons,
      String.reduceEq, if_true, if_false, text_string, parseObservation, integer_number typed,
      Except.map]
  | current used observedAt resetsAt =>
    simp only [serializeObservation, Json.asObject_object, required_some, read_bind, Json.get_cons,
      String.reduceEq, if_true, if_false, text_string, parseObservation, parseCurrent,
      unsigned_number "quota percent" typed.1 (by decide), integer_number typed.2.1,
      integer_number typed.2.2]
  | observationError error observedAt =>
    simp only [serializeObservation, Json.asObject_object, required_some, read_bind, Json.get_cons,
      String.reduceEq, if_true, if_false, text_string, parseObservation, parseObservationError,
      parseQuotaError_quotaErrorText, integer_number typed]

theorem parseQuotaFact_serializeQuotaFact (fact : AccountRegistryQuotaFact)
    (duration : fact.durationMinutes < 2 ^ 16) (typed : TypedObservation fact.observation) :
    parseQuotaFact (serializeQuotaFact fact) = .ok fact := by
  obtain ⟨object, isObject, read⟩ :=
    bind_ok (parseObservation_serializeObservation fact.observation typed)
  obtain ⟨kind, named, read⟩ := bind_ok read
  unfold parseQuotaFact serializeQuotaFact
  simp only [Json.asObject_object, required_some, read_bind, Json.get_cons, String.reduceEq, if_true,
    if_false, Option.bind_some, text_string, accountId_text, parseWindow_windowText,
    unsigned_number "quota duration" duration (by decide), isObject, named, read]

/-- A snapshot reads back as it was exactly when no position needs the sign bit. -/
theorem parseSnapshot_ok_iff {snapshot : AccountRegistryRoutingSnapshot}
    (typed : TypedSnapshot snapshot) :
    parseSnapshot (serializeSnapshot snapshot) = .ok snapshot ↔
      ∀ member ∈ snapshot.members, member.position < 2 ^ 63 := by
  have members : (snapshot.members.map serializeMember).mapM parseMember = .ok snapshot.members ↔
      ∀ member ∈ snapshot.members, member.position < 2 ^ 63 := by
    rw [mapM_map_eq_ok_iff]
    exact forall₂_congr fun member listed =>
      parseMember_ok_iff member (typed.positions member listed) (typed.revisions member listed)
  have facts : (snapshot.quotaFacts.map serializeQuotaFact).mapM parseQuotaFact =
      .ok snapshot.quotaFacts := by
    rw [mapM_map_eq_ok_iff]
    exact fun fact listed => parseQuotaFact_serializeQuotaFact fact (typed.durations fact listed)
      (typed.observations fact listed)
  rw [← members]
  unfold parseSnapshot serializeSnapshot
  simp only [Json.asObject_object, required_some, read_bind, Json.get_cons, String.reduceEq, if_true,
    if_false, Option.bind_some, Json.asArray_array, text_string,
    integer_number typed.routingRevision, integer_number typed.profileRevision,
    integer_number typed.resolvedAt, facts]
  have mode := parseMode_serializeMode snapshot.mode
  obtain ⟨object, isObject, mode⟩ := bind_ok mode
  obtain ⟨kind, named, mode⟩ := bind_ok mode
  rw [isObject, ok_bind, named, ok_bind, mode, ok_bind]
  cases read : (snapshot.members.map serializeMember).mapM parseMember with
  | error error => simp
  | ok value =>
    rw [ok_bind, Except.ok.injEq, Except.ok.injEq]
    constructor
    · intro same
      exact congrArg AccountRegistryRoutingSnapshot.members same
    · rintro rfl
      rfl

theorem parseCauses_serializeCauses (causes : List RoutingDecisionCause) :
    parseCauses (serializeCauses causes) = .ok causes := by
  unfold parseCauses serializeCauses
  rw [Json.asArray_array, required_some, ok_bind, mapM_map_eq_ok_iff]
  intro cause _
  simp [parseCause, serializeCause]

theorem parseExclusion_ok_iff {exclusion : AccountRegistryRoutingExclusion}
    (typed : TypedExclusion exclusion) :
    parseExclusion (serializeExclusion exclusion) = .ok exclusion ↔
      exclusion.memberPosition < 2 ^ 63 := by
  rw [← unsigned_ok_iff "routing exclusion position" typed.position]
  unfold parseExclusion serializeExclusion
  simp only [Json.asObject_object, required_some, read_bind, Json.get_cons, String.reduceEq, if_true,
    if_false, text_string, accountId_text, parseWindow_windowText,
    unsigned_number "routing exclusion duration" typed.duration (by decide),
    unsigned_number "routing exclusion percentage" typed.used (by decide),
    integer_number typed.observedAt, integer_number typed.resetsAt]
  cases read : unsigned "routing exclusion position" 64
      (some (.number exclusion.memberPosition)) with
  | error error => simp
  | ok value =>
    rw [ok_bind, Except.ok.injEq, Except.ok.injEq]
    constructor
    · intro same
      exact congrArg AccountRegistryRoutingExclusion.memberPosition same
    · rintro rfl
      rfl

theorem parseExclusions_ok_iff {exclusions : List AccountRegistryRoutingExclusion}
    (typed : ∀ exclusion ∈ exclusions, TypedExclusion exclusion) :
    parseExclusions (serializeExclusions exclusions) = .ok exclusions ↔
      ∀ exclusion ∈ exclusions, exclusion.memberPosition < 2 ^ 63 := by
  unfold parseExclusions serializeExclusions
  rw [Json.asArray_array, required_some, ok_bind, mapM_map_eq_ok_iff]
  exact forall₂_congr fun exclusion listed => parseExclusion_ok_iff (typed exclusion listed)

end Decodex.Source.Store.RoutingJson
