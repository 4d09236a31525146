import Decodex.Source.Core.Identity

/-!
# Provider attempt values

Source: crates/decodex-core/src/provider_attempt.rs:49-517. `as_sql` labels are the
constructors themselves; `Display` and redaction are left out.
-/
namespace Decodex.Source.Core

abbrev ConversationId := CanonicalUuid

abbrev TurnId := CanonicalUuid

abbrev HistoryItemId := CanonicalUuid

abbrev RuntimeSessionId := CanonicalUuid

abbrev ProcessGenerationId := CanonicalUuid

abbrev ProcessExecutionEpochId := CanonicalUuid

abbrev ProviderAttemptId := CanonicalUuidV4

abbrev ProviderEvidenceId := CanonicalUuidV4

abbrev ProviderRequestId := CanonicalUuidV4

def maxProviderRequestKeyBytes : Nat := 512

def maxProviderEvidenceIdentityBytes : Nat := 512

inductive ProviderAttemptError where
  | invalidContinuationPlanId | invalidRequestDigest | missingProviderKey | invalidProviderKey
  | invalidAcknowledgement | invalidPositiveEvidence
  deriving DecidableEq, Repr

/-- One bounded printable provider request key. -/
structure ProviderRequestKey where
  text : String
  bounded : isBoundedProviderIdentity text maxProviderRequestKeyBytes = true
  deriving DecidableEq

/-- The keys of one request: at least one is present. -/
structure ProviderRequestKeys where
  idempotency : Option ProviderRequestKey
  correlation : Option ProviderRequestKey
  present : (idempotency.isSome || correlation.isSome) = true
  deriving DecidableEq

def ProviderRequestKeys.contains (keys : ProviderRequestKeys) (key : ProviderRequestKey) : Bool :=
  keys.idempotency == some key || keys.correlation == some key

/-- `ProviderAttemptConsumer::ConversationTurn`, the only consumer. -/
structure ProviderAttemptConsumer where
  conversationId : ConversationId
  turnId : TurnId
  deriving DecidableEq

inductive ProviderDuplicateRisk where
  | originalIntent
  | acknowledgedSuccessor (predecessorAttemptId : ProviderAttemptId)
      (acknowledgementDigest : String)
  deriving DecidableEq

inductive ProviderAttemptState where
  | prepared | canceled | dispatchAuthorized | succeeded | failedDefinitive | notSubmitted
  | unknown
  deriving DecidableEq, Repr

def ProviderAttemptState.isTerminal : ProviderAttemptState → Bool
  | .canceled | .succeeded | .failedDefinitive | .notSubmitted => true
  | .prepared | .dispatchAuthorized | .unknown => false

inductive ProviderAttemptUnknownReason where
  | supervisionLost | dispatchOutcomeUnavailable | restoreProjection
  deriving DecidableEq, Repr

inductive ProviderEvidenceSource where
  | providerReceipt | positiveIdempotencyLookup | exactTurnReadback | exactThreadReadback
  | positiveNonSubmissionReceipt
  deriving DecidableEq, Repr

inductive ProviderTerminalOutcome where
  | succeeded | failedDefinitive | notSubmitted
  deriving DecidableEq, Repr

/-- The terminal attempt state of an outcome; both carry the same SQL label. -/
def ProviderTerminalOutcome.state : ProviderTerminalOutcome → ProviderAttemptState
  | .succeeded => .succeeded
  | .failedDefinitive => .failedDefinitive
  | .notSubmitted => .notSubmitted

structure ProviderAttemptPreparation where
  attemptId : ProviderAttemptId
  consumer : ProviderAttemptConsumer
  continuationPlanId : String
  requestId : ProviderRequestId
  requestDigest : String
  providerKeys : ProviderRequestKeys
  duplicateRisk : ProviderDuplicateRisk
  deriving DecidableEq

/-- Whether an acknowledgement, when there is one, is a SHA-256 text. -/
def ProviderDuplicateRisk.wellFormed : ProviderDuplicateRisk → Bool
  | .originalIntent => true
  | .acknowledgedSuccessor _ digest => isSha256 digest

def ProviderAttemptPreparation.validate (preparation : ProviderAttemptPreparation) :
    Except ProviderAttemptError Unit :=
  if !isCanonicalUuid preparation.continuationPlanId then .error .invalidContinuationPlanId
  else if !isSha256 preparation.requestDigest then .error .invalidRequestDigest
  else if !preparation.duplicateRisk.wellFormed then .error .invalidAcknowledgement
  else .ok ()

structure ProviderPositiveEvidence where
  evidenceId : ProviderEvidenceId
  attemptId : ProviderAttemptId
  requestId : ProviderRequestId
  source : ProviderEvidenceSource
  outcome : ProviderTerminalOutcome
  providerKey : ProviderRequestKey
  providerReceiptId : Option String
  providerThreadId : Option String
  providerTurnId : Option String
  witnessDigest : String
  deriving DecidableEq

/-- The closed positive shapes; none of them is a timeout or an absence. -/
def ProviderPositiveEvidence.validShape (evidence : ProviderPositiveEvidence) : Bool :=
  match evidence.source with
  | .providerReceipt =>
    evidence.outcome != .notSubmitted && evidence.providerReceiptId.isSome
  | .positiveIdempotencyLookup => true
  | .exactTurnReadback =>
    evidence.outcome != .notSubmitted && evidence.providerReceiptId.isNone &&
      evidence.providerThreadId.isNone && evidence.providerTurnId.isSome
  | .exactThreadReadback =>
    evidence.outcome != .notSubmitted && evidence.providerReceiptId.isNone &&
      evidence.providerThreadId.isSome && evidence.providerTurnId.isSome
  | .positiveNonSubmissionReceipt =>
    evidence.outcome == .notSubmitted && evidence.providerReceiptId.isSome &&
      evidence.providerTurnId.isNone

/-- An absent identity passes the bound check. -/
def optionalIdentityBounded (value : Option String) : Bool :=
  value.all fun text => isBoundedProviderIdentity text maxProviderEvidenceIdentityBytes

def ProviderPositiveEvidence.validate (evidence : ProviderPositiveEvidence) :
    Except ProviderAttemptError Unit :=
  if !isSha256 evidence.witnessDigest ||
      !(optionalIdentityBounded evidence.providerReceiptId &&
        optionalIdentityBounded evidence.providerThreadId &&
        optionalIdentityBounded evidence.providerTurnId) then .error .invalidPositiveEvidence
  else if !evidence.validShape then .error .invalidPositiveEvidence
  else .ok ()

/-- One stored attempt. -/
structure ProviderAttempt where
  attemptId : ProviderAttemptId
  consumer : ProviderAttemptConsumer
  continuationPlanId : String
  routingDecisionId : String
  runtimeSessionId : RuntimeSessionId
  runtimeSessionRevision : Int
  accountId : AccountId
  processGenerationId : ProcessGenerationId
  processGenerationRevision : Int
  processExecutionEpochId : ProcessExecutionEpochId
  requestId : ProviderRequestId
  requestDigest : String
  providerKeys : ProviderRequestKeys
  duplicateRisk : ProviderDuplicateRisk
  state : ProviderAttemptState
  unknownReason : Option ProviderAttemptUnknownReason
  terminalEvidenceId : Option ProviderEvidenceId
  revision : Int
  createdAtMicros : Int
  updatedAtMicros : Int
  deriving DecidableEq

theorem ProviderTerminalOutcome.state_injective {a b : ProviderTerminalOutcome}
    (same : a.state = b.state) : a = b := by
  cases a <;> cases b <;> first | rfl | cases same

end Decodex.Source.Core
