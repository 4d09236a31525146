import Decodex.Library.SortedMap
import Decodex.Source.Core.PromptEditDraft

/-!
# Retained drafts of a service profile

`decodex-protocol/src/desktop_drafts.rs:97-325` (`DesktopProfileDraft`), 327-382 and 416-451 (its
records), 471-473 (`validate_text`); `desktop_message_delivery.rs:7-60`;
`desktop_ordinary_drafts.rs:14-101`; `wire.rs:48,67-80` (`EntityId::new`). What a record carries
and the drafts never look into is one of the types of `DraftTypes`. Wire texts and identities are
texts.
-/
namespace Decodex.Source.Core.DesktopDrafts

open Decodex.Library

/-- The wire types that drafts carry as they are. -/
structure DraftTypes where
  /-- JSON numbers of an edited input. -/
  Number : Type
  Payload : Type
  Attachment : Type
  Overrides : Type
  Settings : Type
  CreationChoices : Type
  Envelope : Type

variable {T : DraftTypes}

inductive DesktopMessageState where
  | sending | unconfirmed | failed
  deriving DecidableEq, Repr

/-- The constructors of `AgentActionDto`, those that send input by name. -/
inductive AgentActionKind where
  | start | startConfigured | newConversation | send | sendConfigured | steer | nativeAgentInput
  | other
  deriving DecidableEq, Repr

structure DesktopMessage (T : DraftTypes) where
  kind : AgentActionKind
  action : T.Payload
  owner : Option String
  threadId : Option String
  text : String
  state : DesktopMessageState
  error : Option String

structure AgentTaskReference where
  workId : String
  threadId : String
  title : String
  deriving DecidableEq, Repr

structure DesktopCreationSetup (T : DraftTypes) where
  model : String
  workingDirectory : String
  account : String
  choices : T.CreationChoices

structure DesktopComposerDraft (T : DraftTypes) where
  creation : Option (DesktopCreationSetup T)
  workId : Option String
  threadId : Option String
  text : String
  attachments : List T.Attachment
  references : List AgentTaskReference

structure DesktopOrdinaryComposerDraft (T : DraftTypes) where
  conversationId : Option String
  text : String
  settings : T.Settings

/-- The payloads an ordinary editor may have sent. -/
inductive OrdinaryPayload where
  | createConversation (workingDirectory : String)
  | conversationOperation
  | other
  deriving DecidableEq, Repr

structure CommandEnvelope (T : DraftTypes) where
  clientCommandId : String
  idempotencyKey : String
  payload : OrdinaryPayload
  content : T.Envelope

structure DesktopOrdinaryDraft (T : DraftTypes) where
  workingDirectory : String
  composer : DesktopOrdinaryComposerDraft T
  newConversation : Option (DesktopOrdinaryComposerDraft T)
  parked : SortedMap String (DesktopOrdinaryComposerDraft T)
  unconfirmed : List (CommandEnvelope T)

structure DesktopQuestionDraft where
  workId : String
  threadId : String
  questionId : String
  text : String
  selected : Option String
  custom : Option String
  collapsed : Bool
  deriving DecidableEq, Repr

structure AgentSteerIdentity where
  workId : String
  threadId : String
  turnId : String
  submissionId : String
  deriving DecidableEq, Repr

structure DesktopPendingDraft (T : DraftTypes) where
  steer : Option AgentSteerIdentity
  owner : Option String
  text : Option String
  attachments : Option (List T.Attachment)
  references : Option (List AgentTaskReference)
  execution : Option (String × Nat)

inductive PermissionMode where
  | askForApproval | approveForMe | fullAccess | readOnly
  deriving DecidableEq, Repr

@[ext]
structure DesktopProfileDraft (T : DraftTypes) where
  messages : SortedMap String (DesktopMessage T)
  newConversation : Option String
  newConversationWorkspace : Option String
  newConversationPermissions : Option PermissionMode
  promptEdits : SortedMap String (DesktopPromptEditDraft T.Number T.Overrides)
  ordinary : SortedMap String (DesktopOrdinaryDraft T)
  unconfirmedCommands : List String
  composer : DesktopComposerDraft T
  parked : SortedMap String (DesktopComposerDraft T)
  execution : SortedMap String (Nat × T.Overrides)
  executionRevision : Nat
  questions : List DesktopQuestionDraft
  uncertain : Bool
  pending : Option (DesktopPendingDraft T)

/-- `DesktopComposerDraft::default`. -/
def DesktopComposerDraft.default : DesktopComposerDraft T := ⟨none, none, none, "", [], []⟩

/-- `EntityId::new` accepts the text. -/
def isEntityId (value : String) : Bool := value.utf8ByteSize ≤ 4096

def validateText (text : String) : Except PromptFault Unit :=
  refuseWhen (16 * 1024 < text.utf8ByteSize) "Draft editor text is too large"

def DesktopMessage.validate (message : DesktopMessage T) : Except PromptFault Unit := do
  validateText message.text
  message.error.toList.forM validateText
  refuseWhen (message.kind = .other) "Saved message is not an input operation"

def DesktopCreationSetup.validate (setup : DesktopCreationSetup T) : Except PromptFault Unit :=
  [setup.model, setup.workingDirectory, setup.account].forM validateText

def DesktopComposerDraft.validate (draft : DesktopComposerDraft T) : Except PromptFault Unit := do
  refuseWhen (draft.creation.isSome = true ∧
    (draft.workId.isSome = true ∨ draft.threadId.isSome = true))
    "Creation setup cannot belong to existing work"
  draft.creation.toList.forM DesktopCreationSetup.validate
  refuseWhen ((draft.threadId.any fun thread => draft.workId.isNone || thread.isEmpty) = true)
    "Draft thread has no work owner"
  validateText draft.text
  refuseWhen (64 < draft.attachments.length ∨ 64 < draft.references.length)
    "Too many draft attachments or references"

def DesktopOrdinaryComposerDraft.validate (draft : DesktopOrdinaryComposerDraft T) :
    Except PromptFault Unit :=
  validateText draft.text

/-- The loop over the unconfirmed commands; `prior` are those before the current one. -/
def validateCommands (workingDirectory : String) :
    List (CommandEnvelope T) → List (CommandEnvelope T) → Except PromptFault Unit
  | _, [] => .ok ()
  | prior, command :: rest => do
    refuseWhen ((prior.any fun other => other.clientCommandId = command.clientCommandId ||
      other.idempotencyKey = command.idempotencyKey) = true)
      "Duplicate ordinary delivery identity"
    match command.payload with
    | .createConversation directory =>
      refuseWhen (directory ≠ workingDirectory) "Ordinary creation directory does not match"
    | .conversationOperation => .ok ()
    | .other => .error (.refused "Draft command is not an ordinary conversation operation")
    validateCommands workingDirectory (prior ++ [command]) rest

def DesktopOrdinaryDraft.validate (draft : DesktopOrdinaryDraft T) : Except PromptFault Unit := do
  draft.composer.validate
  draft.newConversation.toList.forM fun editor => do
    refuseWhen (editor.conversationId.isSome = true)
      "New ordinary editor cannot own a conversation"
    editor.validate
  refuseWhen (256 < draft.parked.length ∨ 64 < draft.unconfirmed.length)
    "Too many ordinary draft records"
  draft.parked.entries.forM fun (owner, editor) => do
    refuseWhen (editor.conversationId ≠ some owner) "Ordinary draft owner does not match"
    editor.validate
  validateCommands draft.workingDirectory [] draft.unconfirmed

def DesktopQuestionDraft.identity (question : DesktopQuestionDraft) : String × String × String :=
  (question.workId, question.threadId, question.questionId)

/-- The check of one question apart from its identity. -/
def DesktopQuestionDraft.validate (question : DesktopQuestionDraft) : Except PromptFault Unit := do
  refuseWhen (question.threadId.isEmpty = true ∨ question.questionId.isEmpty = true)
    "Question draft source is empty"
  validateText question.text
  (question.selected.toList ++ question.custom.toList).forM validateText

/-- The question loop; `prior` are the questions before the current one. -/
def validateQuestions :
    List DesktopQuestionDraft → List DesktopQuestionDraft → Except PromptFault Unit
  | _, [] => .ok ()
  | prior, question :: rest => do
    refuseWhen ((prior.any fun other => other.identity = question.identity) = true)
      "Duplicate question draft identity"
    question.validate
    validateQuestions (prior ++ [question]) rest

def DesktopPendingDraft.validate (pending : DesktopPendingDraft T) (uncertain : Bool)
    (executionRevision : Nat) : Except PromptFault Unit := do
  refuseWhen (uncertain = false) "Unconfirmed input requires a delivery fence"
  pending.text.toList.forM validateText
  refuseWhen ((pending.attachments.any fun attachments => 64 < attachments.length) = true)
    "Too many pending attachments"
  refuseWhen ((pending.references.any fun references => 64 < references.length) = true)
    "Too many pending task references"
  refuseWhen ((pending.execution.any fun (owner, revision) =>
    pending.owner ≠ some owner || executionRevision < revision) = true)
    "Pending execution identity does not match"
  refuseWhen ((pending.steer.any fun steer => steer.threadId.isEmpty || steer.turnId.isEmpty) =
    true) "Pending steering source is empty"
  refuseWhen ((pending.steer.any fun steer => pending.owner ≠ some steer.workId) = true)
    "Pending steering owner does not match"

def DesktopProfileDraft.validate (host : PromptHost T.Number) (profile : DesktopProfileDraft T) :
    Except PromptFault Unit := do
  refuseWhen (64 < profile.messages.length) "Too many unresolved messages"
  profile.messages.values.forM DesktopMessage.validate
  profile.composer.validate
  refuseWhen (64 < profile.promptEdits.length) "Too many prompt editors"
  profile.promptEdits.entries.forM fun (review, draft) => do
    refuseWhen (review ≠ draft.reviewToken) "Prompt draft review does not match"
    draft.validate host
  refuseWhen (64 < profile.ordinary.length) "Too many ordinary directory drafts"
  profile.ordinary.entries.forM fun (directory, draft) => do
    refuseWhen (directory ≠ draft.workingDirectory) "Ordinary draft directory does not match"
    draft.validate
  refuseWhen (64 < profile.unconfirmedCommands.length ∨
    (profile.unconfirmedCommands ≠ [] ∧ profile.uncertain = false))
    "Unconfirmed commands require a bounded delivery fence"
  refuseWhen (256 < profile.parked.length ∨ 256 < profile.execution.length ∨
    1024 < profile.questions.length) "Too many draft editors"
  profile.parked.entries.forM fun (work, draft) => do
    refuseWhen (draft.workId ≠ some work) "Draft owner does not match"
    draft.validate
  profile.execution.entries.forM fun (work, settings) => do
    refuseWhen (isEntityId work = false) "Draft execution owner is invalid"
    refuseWhen (profile.executionRevision < settings.1) "Draft execution revision is invalid"
  validateQuestions [] profile.questions
  profile.pending.toList.forM fun pending =>
    pending.validate profile.uncertain profile.executionRevision

/-- Whether an edit waits for its handback or for a send. -/
def isWaiting {F Execution : Type} (draft : DesktopPromptEditDraft F Execution) : Bool :=
  draft.handbackPending || draft.pendingSend.isSome

/-- The command keys of an edit. -/
def commandKeys {F Execution : Type} (draft : DesktopPromptEditDraft F Execution) : List String :=
  draft.confirmationKey.toList ++ draft.pendingSend.toList.map (·.commandKey)

namespace DesktopProfileDraft

variable (profile : DesktopProfileDraft T) (work : String)

/-- The set `removed` of `forget_conversation`. -/
def removedKeys : List String :=
  ((profile.messages.entries.filter fun entry => entry.2.owner = some work).map (·.1)) ++
    (profile.promptEdits.values.filter fun draft => draft.workId = work).flatMap commandKeys

def removedPending : Bool := profile.pending.any fun pending => pending.owner = some work

/-- Something of the profile still waits to be reconciled, apart from the fence. -/
def hasUnresolved : Bool :=
  (profile.messages.values.any fun message => message.state ≠ .failed) ||
    profile.promptEdits.values.any isWaiting ||
    profile.ordinary.values.any fun draft => !draft.unconfirmed.isEmpty

def hasUnconfirmedDelivery : Bool := profile.uncertain || profile.hasUnresolved

end DesktopProfileDraft

/-- Without the references to a work. -/
def dropReferences (work : String) (draft : DesktopComposerDraft T) : DesktopComposerDraft T :=
  { draft with references := draft.references.filter fun reference => reference.workId ≠ work }

/-- The profile after the removals, with the fence as it was. -/
def DesktopProfileDraft.withoutRecords (profile : DesktopProfileDraft T) (work : String) :
    DesktopProfileDraft T :=
  let removed := profile.removedKeys work
  let composer := if profile.composer.workId = some work then .default else profile.composer
  let forgotten := profile.newConversation = some work
  { messages := profile.messages.retain fun id _ => id ∉ removed
    newConversation := if forgotten then none else profile.newConversation
    newConversationWorkspace := if forgotten then none else profile.newConversationWorkspace
    newConversationPermissions := if forgotten then none else profile.newConversationPermissions
    promptEdits := profile.promptEdits.retain fun _ draft => draft.workId ≠ work
    ordinary := profile.ordinary
    unconfirmedCommands := profile.unconfirmedCommands.filter fun id => id ∉ removed
    composer := dropReferences work composer
    parked := (profile.parked.retain fun owner _ => owner ≠ work).mapValues (dropReferences work)
    execution := profile.execution.retain fun owner _ => owner ≠ work
    executionRevision := profile.executionRevision
    questions := profile.questions.filter fun draft => draft.workId ≠ work
    uncertain := profile.uncertain
    pending := if profile.removedPending work then none else profile.pending }

def DesktopProfileDraft.forgetConversation (profile : DesktopProfileDraft T) (work : String) :
    DesktopProfileDraft T :=
  let kept := profile.withoutRecords work
  if profile.removedPending work || !(profile.removedKeys work).isEmpty then
    { kept with
      uncertain := kept.pending.isSome || !kept.unconfirmedCommands.isEmpty || kept.hasUnresolved }
  else kept

end Decodex.Source.Core.DesktopDrafts
