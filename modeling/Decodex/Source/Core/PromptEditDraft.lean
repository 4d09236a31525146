import Decodex.Source.Core.AgentPromptDraft
import Decodex.Source.Core.Blob
import Decodex.Source.Core.Identity

/-!
# Retained edits of sent input

Source: crates/decodex-protocol/src/agent_prompt_draft.rs:25-84 (`validate_native_input`,
`fingerprint`), 278-471 (`DesktopPromptEditDraft`), crates/decodex-protocol/src/agent_prompt_edit.rs:9-90,
92-103, 163-174 (`PromptEditStatus`, `PromptForkIntent`) and the send record of agent_prompt_draft's
callers. A bounded wire text is a text here, and the execution overrides that a send carries are a
parameter. `serde_json` and SHA-256 are outside: `PromptHost` holds them.
-/
namespace Decodex.Source.Core

open Decodex.Library

/-- What the drafts take from outside: the JSON text of the input parts and SHA-256. -/
structure PromptHost (F : Type) where
  toVec : List (Value F) → Option (List UInt8)
  sha256 : List UInt8 → BlobHash

inductive PromptEditPhase where
  | idle | review | uncertain | applied | unchanged | restored | unavailable
  deriving DecidableEq, Repr

structure PromptEditEvidence where
  reviewToken : String
  receiptId : Option Int
  beforeTurnId : String
  itemId : String
  removedTurns : Nat
  contentBytes : Nat
  offset : Nat
  fragment : String
  deriving DecidableEq, Repr

structure PromptEditStatus where
  workId : String
  threadId : String
  phase : PromptEditPhase
  evidence : Option PromptEditEvidence
  deriving DecidableEq, Repr

inductive PromptForkBoundary where
  | beforeInput | afterTurn | attachedAfterTurn
  deriving DecidableEq, Repr

structure PromptForkIntent where
  targetWorkId : String
  boundary : PromptForkBoundary
  modelProvider : Option String
  deriving DecidableEq, Repr

structure PromptInputSend (Execution : Type) where
  inputId : Int
  sha256 : String
  commandKey : String
  execution : Execution

structure DesktopPromptEditDraft (F Execution : Type) where
  workId : String
  threadId : String
  beforeTurnId : String
  itemId : String
  originalHash : String
  reviewToken : String
  receiptId : Option Int
  confirmationKey : Option String
  fork : Option PromptForkIntent
  pendingSend : Option (PromptInputSend Execution)
  handbackPending : Bool
  input : PromptDraft F

variable {F Execution : Type}

/-- `u8::is_ascii_hexdigit`. -/
def isAsciiHexDigitChar (c : Char) : Bool :=
  c.isDigit || (97 ≤ c.toNat && c.toNat ≤ 102) || (65 ≤ c.toNat && c.toNat ≤ 70)

def isReviewToken (token : String) : Bool :=
  token.utf8ByteSize = 64 && token.toList.all isAsciiHexDigitChar

/-- `PromptEditStatus::is_valid`. -/
def PromptEditStatus.isValid (status : PromptEditStatus) : Bool :=
  if status.threadId.isEmpty then false
  else
    match status.evidence with
    | none => status.phase = .idle || status.phase = .unavailable
    | some e =>
      !(status.phase = .idle || status.phase = .unavailable) && isReviewToken e.reviewToken &&
        !e.beforeTurnId.isEmpty && !e.itemId.isEmpty && 0 < e.removedTurns && 0 < e.contentBytes &&
        e.contentBytes ≤ 8 * 1024 * 1024 && !e.fragment.isEmpty &&
        e.fragment.utf8ByteSize ≤ 64 * 1024 &&
        (e.offset + e.fragment.utf8ByteSize < 2 ^ 64 &&
          e.offset + e.fragment.utf8ByteSize ≤ e.contentBytes) &&
        (if status.phase = .review then e.receiptId.isNone
          else e.receiptId.any fun id => 0 < id)

/-- `url.split_once(':')` with a scheme `http` or `https`, in any case. -/
def isRemoteUrl (url : String) : Bool :=
  let scheme := url.toList.takeWhile (· ≠ ':')
  scheme.length < url.toList.length &&
    ["http", "https"].contains (String.ofList (scheme.map Char.toLower))

/-- A part has a text under this name. -/
def hasText (part : Value F) (name : String) : Bool := ((part.get name).bind (·.asStr)).isSome

/-- One round of the loop of `validate_native_input`: the text characters so far. -/
def nativePart (textChars : Nat) (part : Value F) : Except PromptFault Nat := do
  let kind := (part.member "type").asStr
  let (textChars, valid) ←
    if kind = some "text" then do
      let text ← okOr (part.member "text").asStr "Input text is missing"
      .ok (min (textChars + text.length) (2 ^ 64 - 1), true)
    else if kind = some "image" then do
      refuseWhen ((part.member "url").asStr.any isRemoteUrl = true)
        "Remote image URLs cannot be sent; use an inline image or a local image file"
      .ok (textChars, hasText part "url" || hasText part "fileId")
    else if kind = some "localImage" ∨ kind = some "localAudio" then
      .ok (textChars, hasText part "path")
    else if kind = some "audio" then .ok (textChars, hasText part "url")
    else if kind = some "skill" ∨ kind = some "mention" then
      .ok (textChars, hasText part "name" && hasText part "path")
    else
      .error (.refused "This native input type is not supported by the qualified Codex contract")
  refuseWhen (valid = false) "A native input part is incomplete"
  let detail := part.member "detail"
  refuseWhen ((kind = some "image" ∨ kind = some "localImage") ∧ detail.isNull = false ∧
      ¬(detail.asStr ∈ [some "auto", some "low", some "high", some "original"]))
    "Image detail is not supported by the qualified Codex contract"
  .ok textChars

def PromptDraft.validateNativeInput (draft : PromptDraft F) : Except PromptFault Unit := do
  draft.validate
  let textChars ← draft.parts.foldlM nativePart 0
  refuseWhen (2 ^ 20 < textChars) "Input exceeds the native limit of 1048576 text characters"

/-- `Sha256Digest::new`. -/
def sha256Digest (value : String) : Option String := if isSha256 value then some value else none

variable (host : PromptHost F)

def PromptDraft.fingerprint (draft : PromptDraft F) : Except PromptFault String := do
  let bytes ← okOr (host.toVec draft.parts) "Prompt encoding failed"
  okOr (sha256Digest (host.sha256 bytes).toHex) "Prompt digest is invalid"

/-- The source and the optional fields that exclude one another. -/
def DesktopPromptEditDraft.SourceInvalid (draft : DesktopPromptEditDraft F Execution) : Prop :=
  draft.threadId.isEmpty = true ∨ draft.beforeTurnId.isEmpty = true ∨
    draft.itemId.isEmpty = true ∨ isReviewToken draft.reviewToken = false ∨
    (draft.fork.any fun fork => fork.targetWorkId = draft.workId ||
      draft.confirmationKey.isNone || draft.receiptId.isSome) = true ∨
    (draft.receiptId.any fun id => id ≤ 0) = true ∨
    (draft.handbackPending = true ∧ draft.receiptId = none ∧ draft.confirmationKey = none) ∨
    (draft.confirmationKey.isSome = true ∧
      (draft.handbackPending = false ∨ draft.receiptId.isSome = true))

instance decidableSourceInvalid (draft : DesktopPromptEditDraft F Execution) :
    Decidable draft.SourceInvalid := inferInstanceAs (Decidable (_ ∨ _))

/-- The check of a pending send. -/
def DesktopPromptEditDraft.validateSend (draft : DesktopPromptEditDraft F Execution) :
    Except PromptFault Unit :=
  match draft.pendingSend with
  | none => .ok ()
  | some send => do
    refuseWhen (send.inputId ≤ 0 ∨ draft.receiptId = none ∨ draft.handbackPending = true ∨
        draft.confirmationKey.isSome = true)
      "Pending prompt send does not match the retained draft"
    let digest ← draft.input.fingerprint host
    refuseWhen (send.sha256 ≠ digest) "Pending prompt send does not match the retained draft"

def DesktopPromptEditDraft.validate (draft : DesktopPromptEditDraft F Execution) :
    Except PromptFault Unit := do
  refuseWhen draft.SourceInvalid "Prompt draft source is invalid"
  draft.validateSend host
  draft.input.validate

def DesktopPromptEditDraft.beginSend (draft : DesktopPromptEditDraft F Execution) (inputId : Int)
    (commandKey : String) (execution : Execution) :
    Except PromptFault (DesktopPromptEditDraft F Execution) := do
  draft.validate host
  refuseWhen (draft.pendingSend.isSome = true ∨ draft.receiptId = none ∨
    draft.handbackPending = true) "Resolve the existing edit or send before submitting input"
  draft.input.validateNativeInput
  let digest ← draft.input.fingerprint host
  let pending := { draft with pendingSend := some ⟨inputId, digest, commandKey, execution⟩ }
  pending.validate host
  .ok pending

def DesktopPromptEditDraft.beginConfirmation (draft : DesktopPromptEditDraft F Execution)
    (key : String) : Except PromptFault (DesktopPromptEditDraft F Execution) := do
  draft.validate host
  refuseWhen (draft.receiptId.isSome = true ∨ draft.handbackPending = true ∨
    draft.confirmationKey.isSome = true) "Recover the existing history edit first"
  .ok { draft with confirmationKey := some key, handbackPending := true }

/-- The phases that a recovered receipt can be in. -/
def isRecoverable (phase : PromptEditPhase) : Bool :=
  phase = .uncertain || phase = .applied || phase = .restored || phase = .unchanged

/-- The status belongs to the draft, apart from the original input. -/
def DesktopPromptEditDraft.SameSource (draft : DesktopPromptEditDraft F Execution)
    (status : PromptEditStatus) (evidence : PromptEditEvidence) : Prop :=
  status.isValid = true ∧ status.workId = draft.workId ∧ status.threadId = draft.threadId ∧
    evidence.reviewToken = draft.reviewToken ∧ evidence.beforeTurnId = draft.beforeTurnId ∧
    evidence.itemId = draft.itemId

instance decidableSameSource (draft : DesktopPromptEditDraft F Execution)
    (status : PromptEditStatus) (evidence : PromptEditEvidence) :
    Decidable (draft.SameSource status evidence) := inferInstanceAs (Decidable (_ ∧ _))

def DesktopPromptEditDraft.recoverReceipt (draft : DesktopPromptEditDraft F Execution)
    (status : PromptEditStatus) (original : PromptDraft F) :
    Except PromptFault (DesktopPromptEditDraft F Execution) := do
  draft.validate host
  let evidence ← okOr status.evidence "History edit receipt is unavailable"
  refuseWhen (¬draft.SameSource status evidence)
    "History edit source changed; retain this draft separately"
  let digest ← original.fingerprint host
  refuseWhen (digest ≠ draft.originalHash ∨
      (draft.receiptId.any fun id => decide (some id ≠ evidence.receiptId)) = true ∨
      isRecoverable status.phase = false)
    "History edit source changed; retain this draft separately"
  .ok { draft with
    confirmationKey := none
    receiptId := if status.phase = .unchanged then none else evidence.receiptId
    handbackPending := status.phase = .uncertain || status.phase = .applied }

def DesktopPromptEditDraft.refreshReview (draft fresh : DesktopPromptEditDraft F Execution) :
    Except PromptFault (DesktopPromptEditDraft F Execution) := do
  draft.validate host
  fresh.validate host
  refuseWhen (draft.receiptId.isSome = true ∨ fresh.receiptId.isSome = true ∨
      draft.handbackPending = true ∨ fresh.handbackPending = true)
    "Recover the existing history edit first"
  refuseWhen (draft.workId ≠ fresh.workId ∨ draft.threadId ≠ fresh.threadId ∨
      draft.beforeTurnId ≠ fresh.beforeTurnId ∨ draft.itemId ≠ fresh.itemId ∨
      draft.originalHash ≠ fresh.originalHash)
    "Original input changed; keep this draft and review the current history separately"
  let digest ← fresh.input.fingerprint host
  refuseWhen (digest ≠ fresh.originalHash)
    "Original input changed; keep this draft and review the current history separately"
  .ok { fresh with input := draft.input }

end Decodex.Source.Core
