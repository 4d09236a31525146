import Decodex.Source.Core.ProviderAttempt

/-!
# Process generation values

Source: crates/decodex-core/src/process_generation.rs:194-640 and the credential binding of
account.rs:34-157. Loading the execution authorization from its file, quarantine
projections and `ProcessDeathEvidence::new` are left out: the store takes the values they
build.
-/
namespace Decodex.Source.Core

abbrev ProcessDeathEvidenceId := CanonicalUuid

abbrev AccountOperationId := CanonicalUuid

def maxProcessIdentityBytes : Nat := 128

/-- `is_bounded_identity`: nonempty, bounded, ASCII graphic bytes only. -/
def isBoundedIdentity (value : String) : Bool :=
  !value.isEmpty && value.utf8ByteSize ≤ maxProcessIdentityBytes &&
    value.toList.all fun c => 33 ≤ c.val && c.val ≤ 126

structure ProcessBootIdentity where
  text : String
  bounded : isBoundedIdentity text = true
  deriving DecidableEq

structure ProcessStartIdentity where
  text : String
  bounded : isBoundedIdentity text = true
  deriving DecidableEq

/-- `sha256:` and a SHA-256 text. -/
structure ProcessRunnerIdentity where
  text : String
  canonical : (text.toList.take 7 == "sha256:".toList &&
    isSha256 (String.ofList (text.toList.drop 7))) = true
  deriving DecidableEq

inductive ProcessGenerationState where
  | starting | ready | stopping | dead | deathUnknown
  deriving DecidableEq, Repr

inductive ProcessControlKind where
  | stdioOnlyBestEffortEof | parentDeathSignalAndStdioEof
  deriving DecidableEq, Repr

inductive ProcessIsolationKind where
  | session
  deriving DecidableEq, Repr

inductive ProcessAuthorityLossReason where
  | supervisorRestarted | identityPersistenceFailed | readinessPersistenceFailed
  | terminationUnproved | controlAuthorityLost
  deriving DecidableEq, Repr

inductive ProcessDeathEvidenceKind where
  | spawnNotCreated | ownedChildExit | linuxPidfdExit | macosKqueueExitAndGroupQuiescence
  | macosKernelConfirmedGone | exactTerminationExit | priorBootEnded
  deriving DecidableEq, Repr

/-- The fields are public in the source: a writer checks the leader shape again. -/
structure ProcessIdentity where
  bootId : ProcessBootIdentity
  processId : UInt32
  processStartId : ProcessStartIdentity
  processGroupId : UInt32
  sessionId : UInt32
  deriving DecidableEq

/-- The five identity columns: a positive leader of its own group and session. -/
def ProcessIdentity.isSessionLeader (identity : ProcessIdentity) : Bool :=
  identity.processId != 0 && identity.processGroupId == identity.processId &&
    identity.sessionId == identity.processId

structure ProcessExecutionAuthorization where
  epochId : ProcessExecutionEpochId
  authorizationDigest : String
  deriving DecidableEq

structure ProcessGenerationIntent where
  generationId : ProcessGenerationId
  accountId : AccountId
  runnerIdentity : ProcessRunnerIdentity
  intendedBootId : ProcessBootIdentity
  controlKind : ProcessControlKind
  isolationKind : ProcessIsolationKind
  executionAuthorization : ProcessExecutionAuthorization
  deriving DecidableEq

/-- `CredentialStoreSchemaVersion`: 1 or 2. -/
inductive CredentialSchemaVersion where
  | v1 | v2
  deriving DecidableEq, Repr

def CredentialSchemaVersion.get : CredentialSchemaVersion → Int
  | .v1 => 1
  | .v2 => 2

/-- `AccountProvider::Chatgpt` is the only provider, so its account identity is the whole
`ProviderIdentity`. -/
structure CredentialBinding where
  schemaVersion : CredentialSchemaVersion
  version : UInt64
  fingerprint : String
  providerAccountId : String
  writerOperationId : AccountOperationId
  deriving DecidableEq

structure ProcessGenerationAccountBinding where
  accountRevision : Int
  credential : CredentialBinding
  refreshCallbackProfileSha256 : String
  deriving DecidableEq

/-- One stored generation. -/
structure ProcessGeneration where
  generationId : ProcessGenerationId
  accountId : AccountId
  executionEpochId : ProcessExecutionEpochId
  runnerIdentity : ProcessRunnerIdentity
  intendedBootId : ProcessBootIdentity
  controlKind : ProcessControlKind
  isolationKind : ProcessIsolationKind
  processIdentity : Option ProcessIdentity
  state : ProcessGenerationState
  authorityLossReason : Option ProcessAuthorityLossReason
  deathEvidenceId : Option ProcessDeathEvidenceId
  revision : Int
  createdAtMicros : Int
  updatedAtMicros : Int
  deriving DecidableEq

structure ProcessDeathEvidence where
  evidenceId : ProcessDeathEvidenceId
  generationId : ProcessGenerationId
  kind : ProcessDeathEvidenceKind
  observedBootId : ProcessBootIdentity
  processIdentity : Option ProcessIdentity
  witnessDigest : String
  deriving DecidableEq

end Decodex.Source.Core
