import Decodex.Source.Core.PromptEditDraft
import Decodex.Guarantees.PromptEditing

/-!
# Prompt edits stay in their valid states

Every transition of a valid edit is refused or gives a valid edit of the same source, but for one:
a recovered receipt that is accepted beside a fork, or beside a pending send that it does not
leave restored, gives an edit that its own check refuses. Input is sent at most once.
-/
namespace Decodex.Guarantees.PromptEditStates

open Decodex.Library Decodex.Source.Core
open Decodex.Guarantees.PromptEditing

variable {F Execution : Type}

inductive Transition (F Execution : Type) where
  | beginSend (inputId : Int) (commandKey : String) (execution : Execution)
  | beginConfirmation (key : String)
  | recoverReceipt (status : PromptEditStatus) (original : PromptDraft F)
  | refreshReview (fresh : DesktopPromptEditDraft F Execution)

def Transition.run (host : PromptHost F) (draft : DesktopPromptEditDraft F Execution) :
    Transition F Execution → Except PromptFault (DesktopPromptEditDraft F Execution)
  | .beginSend inputId commandKey execution => draft.beginSend host inputId commandKey execution
  | .beginConfirmation key => draft.beginConfirmation host key
  | .recoverReceipt status original => draft.recoverReceipt host status original
  | .refreshReview fresh => draft.refreshReview host fresh

def Transition.isSend : Transition F Execution → Bool
  | .beginSend .. => true
  | _ => false

/-- How often input is sent in a row of transitions; a refused one leaves the edit as it is. -/
def sends (host : PromptHost F) :
    DesktopPromptEditDraft F Execution → List (Transition F Execution) → Nat
  | _, [] => 0
  | draft, call :: rest =>
    match call.run host draft with
    | .ok next => (if call.isSend then 1 else 0) + sends host next rest
    | .error _ => sends host draft rest

/-- The source and the edited input are as before. -/
structure SameEdit (draft next : DesktopPromptEditDraft F Execution) : Prop where
  workId : next.workId = draft.workId
  threadId : next.threadId = draft.threadId
  beforeTurnId : next.beforeTurnId = draft.beforeTurnId
  itemId : next.itemId = draft.itemId
  originalHash : next.originalHash = draft.originalHash
  input : next.input = draft.input

/-- What a transition that was not refused leaves. -/
structure Sound (host : PromptHost F) (draft : DesktopPromptEditDraft F Execution)
    (call : Transition F Execution) (next : DesktopPromptEditDraft F Execution) : Prop where
  valid : next.validate host = .ok ()
  same : SameEdit draft next
  sends : call.isSend = true → draft.pendingSend = none ∧ next.pendingSend.isSome = true
  confirms : ∀ key, call = .beginConfirmation key →
    draft.receiptId = none ∧ draft.handbackPending = false ∧ draft.confirmationKey = none

def Keeps (host : PromptHost F) (draft : DesktopPromptEditDraft F Execution)
    (call : Transition F Execution) : Prop :=
  ∀ next, call.run host draft = .ok next → Sound host draft call next

/-- The status is the receipt of this edit. -/
structure Accepts (host : PromptHost F) (draft : DesktopPromptEditDraft F Execution)
    (status : PromptEditStatus) (original : PromptDraft F) : Prop where
  source : ∃ evidence, status.evidence = some evidence ∧ draft.SameSource status evidence ∧
    ∀ id, draft.receiptId = some id → evidence.receiptId = some id
  original : original.fingerprint host = .ok draft.originalHash
  phase : isRecoverable status.phase = true

/-- No receipt is accepted beside a fork, or beside a pending send that it does not restore. -/
def Spares (host : PromptHost F) (draft : DesktopPromptEditDraft F Execution) :
    Transition F Execution → Prop
  | .recoverReceipt status original => Accepts host draft status original →
    draft.fork = none ∧ (draft.pendingSend = none ∨ status.phase = .restored)
  | _ => True

variable {host : PromptHost F} {draft next : DesktopPromptEditDraft F Execution}

theorem validate_eq_ok : draft.validate host = .ok () ↔ ¬draft.SourceInvalid ∧
    draft.validateSend host = .ok () ∧ draft.input.validate = .ok () := by
  unfold DesktopPromptEditDraft.validate
  constructor
  · intro passed
    obtain ⟨_, source, passed⟩ := bind_ok passed
    obtain ⟨_, send, passed⟩ := bind_ok passed
    exact ⟨refuseWhen_eq_ok.mp source, send, passed⟩
  · rintro ⟨source, send, input⟩
    rw [refuseWhen_eq_ok.mpr source, ok_bind, send, ok_bind, input]

/-- What validity asks of a pending send. -/
def SendMatches (host : PromptHost F) (draft : DesktopPromptEditDraft F Execution) : Prop :=
  ∀ send, draft.pendingSend = some send → 0 < send.inputId ∧ draft.receiptId ≠ none ∧
    draft.handbackPending = false ∧ draft.confirmationKey = none ∧
    draft.input.fingerprint host = .ok send.sha256

theorem validateSend_eq_ok : draft.validateSend host = .ok () ↔ SendMatches host draft := by
  unfold DesktopPromptEditDraft.validateSend SendMatches
  cases draft.pendingSend with
  | none => simp
  | some send =>
    simp only [Option.some.injEq, forall_eq']
    constructor
    · intro passed
      obtain ⟨_, fields, passed⟩ := bind_ok passed
      obtain ⟨digest, read, passed⟩ := bind_ok passed
      rw [refuseWhen_eq_ok, not_or, not_or, not_or, Int.not_le] at fields
      rw [refuseWhen_eq_ok, not_not] at passed
      obtain ⟨positive, receipt, handback, key⟩ := fields
      exact ⟨positive, receipt, by simpa using handback, by simpa using key, passed ▸ read⟩
    · rintro ⟨positive, receipt, handback, key, read⟩
      have fields : ¬(send.inputId ≤ 0 ∨ draft.receiptId = none ∨ draft.handbackPending = true ∨
          draft.confirmationKey.isSome = true) := by
        simp [receipt, handback, key, positive]
      rw [refuseWhen_eq_ok.mpr fields, ok_bind, read, ok_bind]
      exact refuseWhen_eq_ok.mpr (not_not.mpr rfl)

/-- How the optional fields of a valid edit go together. -/
structure Consistent (draft : DesktopPromptEditDraft F Execution) : Prop where
  named : draft.threadId.isEmpty = false ∧ draft.beforeTurnId.isEmpty = false ∧
    draft.itemId.isEmpty = false ∧ isReviewToken draft.reviewToken = true
  fork : ∀ fork, draft.fork = some fork → fork.targetWorkId ≠ draft.workId ∧
    draft.confirmationKey ≠ none ∧ draft.receiptId = none
  receipt : ∀ id, draft.receiptId = some id → 0 < id
  handback : draft.handbackPending = true → draft.receiptId = none → draft.confirmationKey ≠ none
  confirmation : draft.confirmationKey ≠ none →
    draft.handbackPending = true ∧ draft.receiptId = none

theorem not_sourceInvalid_iff : ¬draft.SourceInvalid ↔ Consistent draft := by
  unfold DesktopPromptEditDraft.SourceInvalid
  rw [not_or, not_or, not_or, not_or, not_or, not_or, not_or]
  constructor
  · rintro ⟨thread, turn, item, token, fork, receipt, handback, key⟩
    refine ⟨⟨by simpa using thread, by simpa using turn, by simpa using item,
      by simpa using token⟩, ?_, ?_, ?_, ?_⟩
    · intro intent held
      simpa [held, and_assoc] using fork
    · intro id held
      rw [held] at receipt
      simpa using receipt
    · intro pending none absent
      exact handback ⟨pending, none, absent⟩
    · intro some
      cases pending : draft.handbackPending <;> cases held : draft.receiptId <;>
        simp_all [Option.isSome_iff_ne_none]
  · intro held
    obtain ⟨thread, turn, item, token⟩ := held.named
    refine ⟨by simp [thread], by simp [turn], by simp [item], by simp [token], ?_, ?_, ?_, ?_⟩
    · cases chosen : draft.fork with
      | none => simp
      | some intent =>
        obtain ⟨apart, some, none⟩ := held.fork intent chosen
        simp [apart, some, none]
    · cases number : draft.receiptId with
      | none => simp
      | some id => simpa using held.receipt id number
    · rintro ⟨pending, none, absent⟩
      exact held.handback pending none absent
    · rintro ⟨some, wrong⟩
      obtain ⟨pending, none⟩ := held.confirmation (Option.isSome_iff_ne_none.mp some)
      rcases wrong with idle | receipt
      · rw [pending] at idle
        cases idle
      · rw [none] at receipt
        cases receipt

theorem valid_iff : draft.validate host = .ok () ↔ Consistent draft ∧ SendMatches host draft ∧
    draft.input.validate = .ok () := by
  rw [validate_eq_ok, not_sourceInvalid_iff, validateSend_eq_ok]

theorem beginSend_ok {inputId : Int} {commandKey : String} {execution : Execution}
    (done : draft.beginSend host inputId commandKey execution = .ok next) :
    Sound host draft (.beginSend inputId commandKey execution) next := by
  unfold DesktopPromptEditDraft.beginSend at done
  obtain ⟨_, valid, done⟩ := bind_ok done
  obtain ⟨_, idle, done⟩ := bind_ok done
  obtain ⟨_, native, done⟩ := bind_ok done
  obtain ⟨digest, read, done⟩ := bind_ok done
  dsimp only at done
  obtain ⟨_, left, done⟩ := bind_ok done
  cases done
  rw [refuseWhen_eq_ok, not_or] at idle
  refine ⟨left, ⟨rfl, rfl, rfl, rfl, rfl, rfl⟩, fun _ => ⟨by simpa using idle.1, rfl⟩, ?_⟩
  intro key other
  cases other

theorem beginConfirmation_ok {key : String} (done : draft.beginConfirmation host key = .ok next) :
    Sound host draft (.beginConfirmation key) next := by
  unfold DesktopPromptEditDraft.beginConfirmation at done
  obtain ⟨_, valid, done⟩ := bind_ok done
  obtain ⟨_, idle, done⟩ := bind_ok done
  cases done
  rw [refuseWhen_eq_ok, not_or, not_or] at idle
  have receipt : draft.receiptId = none := by simpa using idle.1
  have handback : draft.handbackPending = false := by simpa using idle.2.1
  have absent : draft.confirmationKey = none := by simpa using idle.2.2
  obtain ⟨held, send, input⟩ := valid_iff.mp valid
  refine ⟨valid_iff.mpr ⟨⟨held.named, ?_, ?_, ?_, ?_⟩, ?_, input⟩, ⟨rfl, rfl, rfl, rfl, rfl, rfl⟩,
    ?_, fun _ _ => ⟨receipt, handback, absent⟩⟩
  · intro fork chosen
    exact absurd absent (held.fork fork chosen).2.1
  · exact held.receipt
  · simp
  · exact fun _ => ⟨rfl, receipt⟩
  · intro pending listed
    exact absurd receipt (send pending listed).2.1
  · intro other
    cases other

theorem refreshReview_ok {fresh : DesktopPromptEditDraft F Execution}
    (done : draft.refreshReview host fresh = .ok next) :
    Sound host draft (.refreshReview fresh) next := by
  unfold DesktopPromptEditDraft.refreshReview at done
  obtain ⟨_, valid, done⟩ := bind_ok done
  obtain ⟨_, renewed, done⟩ := bind_ok done
  obtain ⟨_, idle, done⟩ := bind_ok done
  obtain ⟨_, source, done⟩ := bind_ok done
  obtain ⟨digest, read, done⟩ := bind_ok done
  obtain ⟨_, agrees, done⟩ := bind_ok done
  cases done
  rw [refuseWhen_eq_ok] at idle source
  simp only [not_or, ne_eq, not_not] at idle source
  obtain ⟨held, send, input⟩ := valid_iff.mp renewed
  have receipt : fresh.receiptId = none := by simpa using idle.2.1
  refine ⟨valid_iff.mpr ⟨⟨held.named, held.fork, held.receipt, held.handback, held.confirmation⟩,
    ?_, (valid_iff.mp valid).2.2⟩, ⟨source.1.symm, source.2.1.symm, source.2.2.1.symm,
    source.2.2.2.1.symm, source.2.2.2.2.symm, rfl⟩, ?_, ?_⟩
  · intro pending listed
    exact absurd receipt (send pending listed).2.1
  · intro other
    cases other
  · intro key other
    cases other

/-- The edit that a recovered receipt gives. -/
theorem recoverReceipt_ok {status : PromptEditStatus} {original : PromptDraft F}
    (done : draft.recoverReceipt host status original = .ok next) :
    Accepts host draft status original ∧ ∃ evidence, status.evidence = some evidence ∧
      next = { draft with
        confirmationKey := none
        receiptId := if status.phase = .unchanged then none else evidence.receiptId
        handbackPending := status.phase = .uncertain || status.phase = .applied } := by
  unfold DesktopPromptEditDraft.recoverReceipt at done
  obtain ⟨_, valid, done⟩ := bind_ok done
  obtain ⟨evidence, found, done⟩ := bind_ok done
  obtain ⟨_, source, done⟩ := bind_ok done
  obtain ⟨digest, read, done⟩ := bind_ok done
  obtain ⟨_, agrees, done⟩ := bind_ok done
  cases done
  rw [okOr_eq_ok] at found
  rw [refuseWhen_eq_ok, not_not] at source
  rw [refuseWhen_eq_ok, not_or, not_or, not_not] at agrees
  obtain ⟨rfl, receipt, phase⟩ := agrees
  refine ⟨⟨⟨evidence, found, source, ?_⟩, read, by simpa using phase⟩, evidence, found, rfl⟩
  intro id held
  rw [held, Option.any_some, decide_eq_true_eq, ne_eq, not_not] at receipt
  exact receipt.symm

theorem recoverReceipt_of_accepts {status : PromptEditStatus} {original : PromptDraft F}
    (valid : draft.validate host = .ok ()) (accepts : Accepts host draft status original) :
    ∃ next, draft.recoverReceipt host status original = .ok next := by
  obtain ⟨evidence, found, source, receipt⟩ := accepts.source
  have agrees : ¬(draft.originalHash ≠ draft.originalHash ∨
      (draft.receiptId.any fun id => decide (some id ≠ evidence.receiptId)) = true ∨
      isRecoverable status.phase = false) := by
    rw [not_or, not_or, not_not]
    refine ⟨rfl, ?_, by simp [accepts.phase]⟩
    cases held : draft.receiptId with
    | none => simp
    | some id => simp [receipt id held]
  unfold DesktopPromptEditDraft.recoverReceipt
  rw [valid, ok_bind, okOr_eq_ok.mpr found, ok_bind, refuseWhen_eq_ok.mpr (not_not.mpr source),
    ok_bind, accepts.original, ok_bind, refuseWhen_eq_ok.mpr agrees, ok_bind]
  exact ⟨_, rfl⟩

/-- The receipt of a valid status that can be recovered. -/
theorem receipt_of_isValid {status : PromptEditStatus} {evidence : PromptEditEvidence}
    (found : status.evidence = some evidence) (valid : status.isValid = true)
    (phase : isRecoverable status.phase = true) : ∃ id, evidence.receiptId = some id ∧ 0 < id := by
  have settled : status.phase ≠ .review := by
    intro review
    rw [review] at phase
    cases phase
  unfold PromptEditStatus.isValid at valid
  split at valid
  · cases valid
  · rw [found] at valid
    simp only [Bool.and_eq_true] at valid
    have receipt := valid.2
    rw [Option.any_eq_true] at receipt
    obtain ⟨id, held, positive⟩ := receipt
    exact ⟨id, held, of_decide_eq_true positive⟩

/-- A receipt beside neither fork nor send, or one that restores the send, leaves a valid edit. -/
theorem recoverReceipt_keeps_iff {status : PromptEditStatus} {original : PromptDraft F}
    (valid : draft.validate host = .ok ()) :
    Keeps host draft (.recoverReceipt status original) ↔
      Spares host draft (.recoverReceipt status original) := by
  obtain ⟨held, send, input⟩ := valid_iff.mp valid
  constructor
  · intro keeps accepts
    obtain ⟨next, done⟩ := recoverReceipt_of_accepts valid accepts
    obtain ⟨left, leftSend, _⟩ := valid_iff.mp (keeps next done).valid
    obtain ⟨_, evidence, found, rfl⟩ := recoverReceipt_ok done
    constructor
    · cases chosen : draft.fork with
      | none => rfl
      | some fork => exact absurd rfl (left.fork fork chosen).2.1
    · cases listed : draft.pendingSend with
      | none => exact .inl rfl
      | some pending =>
        right
        obtain ⟨_, receipt, handback, _⟩ := leftSend pending listed
        have phase := accepts.phase
        cases reported : status.phase with
        | restored => rfl
        | unchanged => simp [reported] at receipt
        | uncertain => simp [reported] at handback
        | applied => simp [reported] at handback
        | idle => simp [reported, isRecoverable] at phase
        | review => simp [reported, isRecoverable] at phase
        | unavailable => simp [reported, isRecoverable] at phase
  · intro spares next done
    obtain ⟨accepts, evidence, found, rfl⟩ := recoverReceipt_ok done
    obtain ⟨noFork, settled⟩ := spares accepts
    obtain ⟨other, same, source, known⟩ := accepts.source
    rw [found] at same
    cases same
    obtain ⟨id, receipt, positive⟩ := receipt_of_isValid found source.1 accepts.phase
    refine ⟨valid_iff.mpr ⟨⟨held.named, ?_, ?_, ?_, by simp⟩, ?_, input⟩,
      ⟨rfl, rfl, rfl, rfl, rfl, rfl⟩, ?_, ?_⟩
    · intro fork chosen
      rw [show draft.fork = some fork from chosen] at noFork
      cases noFork
    · intro number recovered
      dsimp only at recovered
      split at recovered
      · cases recovered
      · rw [receipt] at recovered
        cases recovered
        exact positive
    · intro pending absent
      dsimp only at pending absent
      split at absent
      · rename_i unchanged
        simp [unchanged] at pending
      · rw [receipt] at absent
        cases absent
    · intro pending listed
      rcases settled with none | restored
      · rw [show draft.pendingSend = some pending from listed] at none
        cases none
      · obtain ⟨number, _, _, _, digest⟩ := send pending listed
        refine ⟨number, ?_, ?_, rfl, digest⟩
        · simp [restored, receipt]
        · simp [restored]
    · intro other
      cases other
    · intro key other
      cases other

theorem keeps_iff (valid : draft.validate host = .ok ()) (call : Transition F Execution) :
    Keeps host draft call ↔ Spares host draft call := by
  cases call with
  | beginSend inputId commandKey execution => exact ⟨fun _ => trivial, fun _ _ => beginSend_ok⟩
  | beginConfirmation key => exact ⟨fun _ => trivial, fun _ _ => beginConfirmation_ok⟩
  | recoverReceipt status original => exact recoverReceipt_keeps_iff valid
  | refreshReview fresh => exact ⟨fun _ => trivial, fun _ _ => refreshReview_ok⟩

/-- A pending send stays, and no other is begun beside it. -/
theorem run_pending {call : Transition F Execution} (done : call.run host draft = .ok next)
    (pending : draft.pendingSend.isSome = true) :
    call.isSend = false ∧ next.pendingSend.isSome = true := by
  cases call with
  | beginSend inputId commandKey execution =>
    have idle := ((beginSend_ok done).sends rfl).1
    rw [idle] at pending
    cases pending
  | beginConfirmation key =>
    unfold Transition.run DesktopPromptEditDraft.beginConfirmation at done
    obtain ⟨_, _, done⟩ := bind_ok done
    obtain ⟨_, _, done⟩ := bind_ok done
    cases done
    exact ⟨rfl, pending⟩
  | recoverReceipt status original =>
    obtain ⟨_, evidence, _, rfl⟩ := recoverReceipt_ok done
    exact ⟨rfl, pending⟩
  | refreshReview fresh =>
    unfold Transition.run DesktopPromptEditDraft.refreshReview at done
    obtain ⟨_, valid, done⟩ := bind_ok done
    obtain ⟨_, _, done⟩ := bind_ok done
    obtain ⟨_, idle, _⟩ := bind_ok done
    rw [refuseWhen_eq_ok, not_or] at idle
    obtain ⟨send, listed⟩ := Option.isSome_iff_exists.mp pending
    have receipt := ((valid_iff.mp valid).2.1 send listed).2.1
    exact absurd (by simpa using idle.1) receipt

theorem sends_of_pending (calls : List (Transition F Execution))
    (pending : draft.pendingSend.isSome = true) : sends host draft calls = 0 := by
  induction calls generalizing draft with
  | nil => rfl
  | cons call rest ih =>
    unfold sends
    split
    · rename_i next done
      obtain ⟨other, kept⟩ := run_pending done pending
      rw [other, ih kept]
      rfl
    · exact ih pending

theorem sends_le_one (draft : DesktopPromptEditDraft F Execution)
    (calls : List (Transition F Execution)) : sends host draft calls ≤ 1 := by
  induction calls generalizing draft with
  | nil => exact Nat.zero_le 1
  | cons call rest ih =>
    unfold sends
    split
    · rename_i next done
      cases begun : call.isSend with
      | false =>
        rw [if_neg Bool.false_ne_true, Nat.zero_add]
        exact ih next
      | true =>
        cases call with
        | beginSend inputId commandKey execution =>
          rw [sends_of_pending rest ((beginSend_ok done).sends rfl).2]
          exact Nat.le_refl 1
        | _ => cases begun
    · exact ih draft

/-- A transition of a valid edit is refused or leaves a valid edit of the same source exactly if it
accepts no receipt beside a fork, or beside a pending send that the receipt does not restore. In no
row of transitions is input sent twice. -/
theorem transitions_keep_edits_iff (host : PromptHost F)
    (draft : DesktopPromptEditDraft F Execution) (valid : draft.validate host = .ok ()) :
    (∀ call, Keeps host draft call ↔ Spares host draft call) ∧
      ∀ calls, sends host draft calls ≤ 1 :=
  ⟨keeps_iff valid, sends_le_one draft⟩

def sampleInput : PromptDraft Unit :=
  ⟨[.object [("text", .string "hi"), ("type", .string "text")]]⟩

def sampleInputText : String := "[\x7b\"text\":\"hi\",\"type\":\"text\"\x7d]"

/-- The SHA-256 of the input text. -/
def sampleInputDigest : String :=
  "5c9b2c6b02db7f154754a06d122a2de898b77e4efde4d5f083082696d089abf5"

theorem emptyHash_length : (List.replicate 32 (0 : UInt8)).length = 32 := List.length_replicate

def sampleInputHost : PromptHost Unit where
  toVec _ := some (utf8 sampleInputText)
  sha256 bytes :=
    if bytes = utf8 sampleInputText then
      (BlobHash.parse sampleInputDigest).getD ⟨List.replicate 32 0, emptyHash_length⟩
    else ⟨List.replicate 32 0, emptyHash_length⟩

def sampleToken : String := String.ofList (List.replicate 64 'a')

/-- An edit whose confirmation was begun. -/
def sampleEdit : DesktopPromptEditDraft Unit Unit where
  workId := "work"
  threadId := "thread"
  beforeTurnId := "turn"
  itemId := "item"
  originalHash := sampleInputDigest
  reviewToken := sampleToken
  receiptId := none
  confirmationKey := some "confirm-once"
  fork := none
  pendingSend := none
  handbackPending := true
  input := sampleInput

def sampleStatus : PromptEditStatus where
  workId := "work"
  threadId := "thread"
  phase := .applied
  evidence := some ⟨sampleToken, some 42, "turn", "item", 2, 29, 0, sampleInputText⟩

/-- The receipt of an edit without a fork leaves it valid. -/
theorem sample_receipt_keeps :
    Keeps sampleInputHost sampleEdit (.recoverReceipt sampleStatus sampleInput) :=
  ((transitions_keep_edits_iff sampleInputHost sampleEdit (by decide +kernel)).1
    (.recoverReceipt sampleStatus sampleInput)).mpr fun _ => ⟨rfl, .inl rfl⟩

/-- The same edit, whose confirmation was begun for a fork. -/
def forkedEdit : DesktopPromptEditDraft Unit Unit :=
  { sampleEdit with fork := some ⟨"branch", .beforeInput, none⟩ }

/-- The receipt is accepted, and the edit that it gives is refused by its own check. -/
theorem forked_receipt_breaks : forkedEdit.validate sampleInputHost = .ok () ∧
    ¬Keeps sampleInputHost forkedEdit (.recoverReceipt sampleStatus sampleInput) := by
  have valid : forkedEdit.validate sampleInputHost = .ok () := by decide +kernel
  refine ⟨valid, ?_⟩
  intro keeps
  have accepts : Accepts sampleInputHost forkedEdit sampleStatus sampleInput :=
    ⟨⟨_, rfl, by decide +kernel, by simp [forkedEdit, sampleEdit]⟩, by decide +kernel, rfl⟩
  have spares := (keeps_iff valid (.recoverReceipt sampleStatus sampleInput)).mp keeps accepts
  cases spares.1

end Decodex.Guarantees.PromptEditStates
