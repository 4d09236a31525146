import Decodex.Guarantees.PromptEditStates
import Decodex.Source.Core.DesktopDrafts
import Mathlib.Data.String.Basic

/-!
# A forgotten conversation

What `forget_conversation` removes and keeps. It takes the keys of the conversation's messages
and of its edits, and removes the messages under these keys whoever owns them; and it releases
the fence of the profile whenever something was removed and nothing unresolved is left, also
where the fence stood for a delivery that left no record.
-/
namespace Decodex.Guarantees.ForgottenConversations

open Decodex.Library
open Decodex.Source.Core Decodex.Source.Core.DesktopDrafts
open Decodex.Guarantees.PromptEditing Decodex.Guarantees.PromptEditStates

variable {T : DraftTypes} {host : PromptHost T.Number} {profile : DesktopProfileDraft T}
  {work : String}

structure Valid (host : PromptHost T.Number) (profile : DesktopProfileDraft T) : Prop where
  fewMessages : profile.messages.length ≤ 64
  messages : ∀ message ∈ profile.messages.values, message.validate = .ok ()
  composer : profile.composer.validate = .ok ()
  fewEdits : profile.promptEdits.length ≤ 64
  edits : ∀ entry ∈ profile.promptEdits.entries,
    entry.1 = entry.2.reviewToken ∧ entry.2.validate host = .ok ()
  fewOrdinary : profile.ordinary.length ≤ 64
  ordinary : ∀ entry ∈ profile.ordinary.entries,
    entry.1 = entry.2.workingDirectory ∧ entry.2.validate = .ok ()
  fewCommands : profile.unconfirmedCommands.length ≤ 64
  commands : profile.unconfirmedCommands ≠ [] → profile.uncertain = true
  fewEditors : profile.parked.length ≤ 256 ∧ profile.execution.length ≤ 256 ∧
    profile.questions.length ≤ 1024
  parked : ∀ entry ∈ profile.parked.entries,
    entry.2.workId = some entry.1 ∧ entry.2.validate = .ok ()
  execution : ∀ entry ∈ profile.execution.entries,
    isEntityId entry.1 = true ∧ entry.2.1 ≤ profile.executionRevision
  identities : (profile.questions.map DesktopQuestionDraft.identity).Nodup
  questions : ∀ question ∈ profile.questions, question.validate = .ok ()
  pending : ∀ pending, profile.pending = some pending →
    pending.validate profile.uncertain profile.executionRevision = .ok ()

theorem validateQuestions_eq_ok {rest : List DesktopQuestionDraft} :
    ∀ {prior}, (prior.map DesktopQuestionDraft.identity).Nodup →
      (validateQuestions prior rest = .ok () ↔
        ((prior ++ rest).map DesktopQuestionDraft.identity).Nodup ∧
          ∀ question ∈ rest, question.validate = .ok ()) := by
  induction rest with
  | nil =>
    intro prior distinct
    simpa [validateQuestions] using distinct
  | cons question rest ih =>
    intro prior distinct
    have fresh : ¬(prior.any fun other => other.identity = question.identity) = true ↔
        ((prior ++ [question]).map DesktopQuestionDraft.identity).Nodup := by
      rw [List.map_append, List.nodup_append]
      simp only [List.any_eq_true, decide_eq_true_eq, distinct]
      simp
    have split : prior ++ question :: rest = (prior ++ [question]) ++ rest := by simp
    unfold validateQuestions
    rw [check_bind_ok, check_bind_ok, refuseWhen_eq_ok, fresh, split]
    constructor
    · rintro ⟨nodup, valid, later⟩
      obtain ⟨whole, all⟩ := (ih nodup).mp later
      exact ⟨whole, List.forall_mem_cons.mpr ⟨valid, all⟩⟩
    · rintro ⟨whole, all⟩
      obtain ⟨valid, all⟩ := List.forall_mem_cons.mp all
      have nodup : ((prior ++ [question]).map DesktopQuestionDraft.identity).Nodup := by
        rw [List.map_append] at whole
        exact (List.nodup_append.mp whole).1
      exact ⟨nodup, valid, (ih nodup).mpr ⟨whole, all⟩⟩

theorem validate_eq_ok : profile.validate host = .ok () ↔ Valid host profile := by
  have questions := @validateQuestions_eq_ok profile.questions [] (by simp)
  rw [List.nil_append] at questions
  unfold DesktopProfileDraft.validate
  simp only [check_bind_ok, refuseWhen_eq_ok, forM_eq_ok, questions, Option.mem_toList,
    Bool.not_eq_false, not_or, not_and, not_lt, ne_eq, not_not]
  constructor
  · rintro ⟨fewMessages, messages, composer, fewEdits, edits, fewOrdinary, ordinary,
      ⟨fewCommands, commands⟩, fewEditors, parked, execution, ⟨identities, questions⟩, pending⟩
    exact ⟨fewMessages, messages, composer, fewEdits, edits, fewOrdinary, ordinary, fewCommands,
      commands, fewEditors, parked, execution, identities, questions, pending⟩
  · rintro ⟨fewMessages, messages, composer, fewEdits, edits, fewOrdinary, ordinary, fewCommands,
      commands, fewEditors, parked, execution, identities, questions, pending⟩
    exact ⟨fewMessages, messages, composer, fewEdits, edits, fewOrdinary, ordinary,
      ⟨fewCommands, commands⟩, fewEditors, parked, execution, ⟨identities, questions⟩, pending⟩

inductive OwnsRecord (profile : DesktopProfileDraft T) (work : String) : Prop where
  | message {key : String} {message : DesktopMessage T}
      (listed : (key, message) ∈ profile.messages.entries) (owner : message.owner = some work)
  | promptEdit {review : String} {draft : DesktopPromptEditDraft T.Number T.Overrides}
      (listed : (review, draft) ∈ profile.promptEdits.entries) (owner : draft.workId = work)
  | parked {key : String} {draft : DesktopComposerDraft T}
      (listed : (key, draft) ∈ profile.parked.entries) (owner : draft.workId = some work)
  | execution {settings : Nat × T.Overrides}
      (listed : (work, settings) ∈ profile.execution.entries)
  | question {question : DesktopQuestionDraft}
      (listed : question ∈ profile.questions) (owner : question.workId = work)
  | pending {pending : DesktopPendingDraft T}
      (held : profile.pending = some pending) (owner : pending.owner = some work)
  | composer (owner : profile.composer.workId = some work)
  | reference {reference : AgentTaskReference}
      (listed : reference ∈ profile.composer.references) (target : reference.workId = work)
  | parkedReference {key : String} {draft : DesktopComposerDraft T}
      {reference : AgentTaskReference} (parked : (key, draft) ∈ profile.parked.entries)
      (listed : reference ∈ draft.references) (target : reference.workId = work)
  | newConversation (owner : profile.newConversation = some work)

/-- A record that still waits to be reconciled. -/
inductive OwnsUnresolved (profile : DesktopProfileDraft T) (work : String) : Prop where
  | message {key : String} {message : DesktopMessage T}
      (listed : (key, message) ∈ profile.messages.entries) (owner : message.owner = some work)
      (waits : message.state ≠ .failed)
  | pending {pending : DesktopPendingDraft T}
      (held : profile.pending = some pending) (owner : pending.owner = some work)
  | promptEdit {review : String} {draft : DesktopPromptEditDraft T.Number T.Overrides}
      (listed : (review, draft) ∈ profile.promptEdits.entries) (owner : draft.workId = work)
      (waits : draft.handbackPending = true ∨ draft.pendingSend.isSome = true)

/-- The records of the other conversations and of the directories are as they were. -/
structure KeepsOthers (profile : DesktopProfileDraft T) (work : String)
    (after : DesktopProfileDraft T) : Prop where
  messages : after.messages = profile.messages.retain fun _ message => message.owner ≠ some work
  promptEdits : after.promptEdits = profile.promptEdits.retain fun _ draft => draft.workId ≠ work
  ordinary : after.ordinary = profile.ordinary
  commands : after.unconfirmedCommands =
    profile.unconfirmedCommands.filter fun id => id ∉ profile.removedKeys work
  composer : profile.composer.workId ≠ some work →
    after.composer = dropReferences work profile.composer
  parked : after.parked =
    (profile.parked.retain fun key _ => key ≠ work).mapValues (dropReferences work)
  execution : after.execution = profile.execution.retain fun key _ => key ≠ work
  executionRevision : after.executionRevision = profile.executionRevision
  questions : after.questions = profile.questions.filter fun question => question.workId ≠ work
  pending : (∀ pending, profile.pending = some pending → pending.owner ≠ some work) →
    after.pending = profile.pending
  newConversation : profile.newConversation ≠ some work →
    after.newConversation = profile.newConversation ∧
      after.newConversationWorkspace = profile.newConversationWorkspace ∧
      after.newConversationPermissions = profile.newConversationPermissions

/-- Nothing stays unconfirmed that was, only where something unresolved went with it. -/
def KeepsFence (profile : DesktopProfileDraft T) (work : String)
    (after : DesktopProfileDraft T) : Prop :=
  profile.hasUnconfirmedDelivery = true → after.hasUnconfirmedDelivery = false →
    OwnsUnresolved profile work

structure ForgetsExactly (host : PromptHost T.Number) (profile : DesktopProfileDraft T)
    (work : String) : Prop where
  valid : (profile.forgetConversation work).validate host = .ok ()
  erased : ¬OwnsRecord (profile.forgetConversation work) work
  others : KeepsOthers profile work (profile.forgetConversation work)
  fence : KeepsFence profile work (profile.forgetConversation work)
  nothing : ¬OwnsRecord profile work → profile.forgetConversation work = profile
  again : (profile.forgetConversation work).forgetConversation work =
    profile.forgetConversation work

/-- An edit of the conversation has the key of a message that is not its own. -/
def KeyCollides (profile : DesktopProfileDraft T) (work : String) : Prop :=
  ∃ draft ∈ profile.promptEdits.values, draft.workId = work ∧ ∃ key ∈ commandKeys draft,
    ∃ message, (key, message) ∈ profile.messages.entries ∧ message.owner ≠ some work

/-- The fence stands for a delivery without a record, and what is forgotten are failed messages
and the commands of these. -/
def FenceAlone (profile : DesktopProfileDraft T) (work : String) : Prop :=
  profile.uncertain = true ∧ profile.pending = none ∧ profile.hasUnresolved = false ∧
    (∃ message ∈ profile.messages.values, message.owner = some work) ∧
    ∀ id ∈ profile.unconfirmedCommands, id ∈ profile.removedKeys work

/-- The fence as `forget_conversation` leaves it. -/
def fenceAfter (profile : DesktopProfileDraft T) (work : String) : Bool :=
  let kept := profile.withoutRecords work
  if profile.removedPending work || !(profile.removedKeys work).isEmpty then
    kept.pending.isSome || !kept.unconfirmedCommands.isEmpty || kept.hasUnresolved
  else profile.uncertain

theorem forget_eq : profile.forgetConversation work =
    { profile.withoutRecords work with uncertain := fenceAfter profile work } := by
  unfold DesktopProfileDraft.forgetConversation fenceAfter
  dsimp only
  split <;> rfl

theorem mem_removedKeys {key : String} : key ∈ profile.removedKeys work ↔
    (∃ message, (key, message) ∈ profile.messages.entries ∧ message.owner = some work) ∨
      ∃ review draft, (review, draft) ∈ profile.promptEdits.entries ∧ draft.workId = work ∧
        key ∈ commandKeys draft := by
  unfold DesktopProfileDraft.removedKeys SortedMap.values
  simp only [List.mem_append, List.mem_map, List.mem_filter, List.mem_flatMap, decide_eq_true_eq,
    Prod.exists]
  grind

theorem removedPending_eq_true : profile.removedPending work = true ↔
    ∃ pending, profile.pending = some pending ∧ pending.owner = some work := by
  unfold DesktopProfileDraft.removedPending
  simp [Option.any_eq_true]

/-- A message of the conversation has a removed key, one of another only where keys collide. -/
theorem message_removed {key : String} {message : DesktopMessage T}
    (listed : (key, message) ∈ profile.messages.entries) :
    key ∈ profile.removedKeys work ↔ message.owner = some work ∨
      ∃ review draft, (review, draft) ∈ profile.promptEdits.entries ∧ draft.workId = work ∧
        key ∈ commandKeys draft := by
  rw [mem_removedKeys]
  apply or_congr_left
  constructor
  · rintro ⟨other, known, owner⟩
    rwa [SortedMap.eq_of_key listed known]
  · exact fun owner => ⟨message, listed, owner⟩

/-- A command key stands for something that is waited for. -/
theorem waits_of_key {draft : DesktopPromptEditDraft T.Number T.Overrides}
    (valid : draft.validate host = .ok ()) {key : String} (held : key ∈ commandKeys draft) :
    draft.handbackPending = true ∨ draft.pendingSend.isSome = true := by
  unfold commandKeys at held
  rcases List.mem_append.mp held with confirmed | sent
  · left
    apply ((valid_iff.mp valid).1.confirmation ?_).1
    intro none
    rw [none] at confirmed
    cases confirmed
  · right
    cases pending : draft.pendingSend with
    | none =>
      rw [pending] at sent
      cases sent
    | some send => rfl

theorem default_valid : (DesktopComposerDraft.default : DesktopComposerDraft T).validate = .ok () :=
  rfl

theorem dropReferences_valid {draft : DesktopComposerDraft T} (valid : draft.validate = .ok ()) :
    (dropReferences work draft).validate = .ok () := by
  unfold DesktopComposerDraft.validate dropReferences at *
  simp only [check_bind_ok, refuseWhen_eq_ok] at valid ⊢
  obtain ⟨creation, setup, thread, text, few⟩ := valid
  refine ⟨creation, setup, thread, text, ?_⟩
  have fewer := List.length_filter_le (fun reference => decide (reference.workId ≠ work))
    draft.references
  omega

/-- The fence matters to a pending input only in that it stands. -/
theorem pending_fenced {pending : DesktopPendingDraft T} {uncertain : Bool} {revision : Nat} :
    pending.validate uncertain revision = .ok () ↔
      uncertain = true ∧ pending.validate true revision = .ok () := by
  unfold DesktopPendingDraft.validate
  simp only [check_bind_ok, refuseWhen_eq_ok]
  cases uncertain <;> simp

theorem fenceAfter_of_kept (commands : profile.unconfirmedCommands ≠ [] → profile.uncertain = true)
    (pending : profile.pending.isSome = true → profile.uncertain = true)
    (kept : (profile.withoutRecords work).unconfirmedCommands ≠ [] ∨
      (profile.withoutRecords work).pending.isSome = true) :
    fenceAfter profile work = true := by
  unfold fenceAfter
  dsimp only
  split
  · rcases kept with kept | kept
    · cases listed : (profile.withoutRecords work).unconfirmedCommands with
      | nil => exact absurd listed kept
      | cons first rest => simp
    · simp [kept]
  · rcases kept with kept | kept
    · apply commands
      intro none
      apply kept
      unfold DesktopProfileDraft.withoutRecords
      simp [none]
    · apply pending
      unfold DesktopProfileDraft.withoutRecords at kept
      dsimp only at kept
      split at kept
      · cases kept
      · exact kept

theorem forget_valid (valid : Valid host profile) :
    Valid host (profile.forgetConversation work) := by
  have fenced : ∀ pending, profile.pending = some pending → profile.uncertain = true :=
    fun pending held => (pending_fenced.mp (valid.pending pending held)).1
  have fence := @fenceAfter_of_kept T profile work valid.commands (by
    intro held
    obtain ⟨pending, held⟩ := Option.isSome_iff_exists.mp held
    exact fenced pending held)
  rw [forget_eq]
  refine ⟨?_, ?_, ?_, ?_, ?_, valid.fewOrdinary, valid.ordinary, ?_, ?_, ⟨?_, ?_, ?_⟩, ?_, ?_, ?_,
    ?_, ?_⟩
  · exact le_trans SortedMap.length_retain_le valid.fewMessages
  · intro message listed
    obtain ⟨key, listed⟩ := SortedMap.mem_values.mp listed
    exact valid.messages message
      (SortedMap.mem_values.mpr ⟨key, (SortedMap.mem_retain.mp listed).1⟩)
  · apply dropReferences_valid
    split
    · exact default_valid
    · exact valid.composer
  · exact le_trans SortedMap.length_retain_le valid.fewEdits
  · exact fun entry listed => valid.edits entry (List.mem_of_mem_filter listed)
  · exact le_trans (List.length_filter_le _ _) valid.fewCommands
  · exact fun some => fence (.inl some)
  · refine le_trans (le_of_eq SortedMap.length_mapValues) ?_
    exact le_trans SortedMap.length_retain_le valid.fewEditors.1
  · exact le_trans SortedMap.length_retain_le valid.fewEditors.2.1
  · exact le_trans (List.length_filter_le _ _) valid.fewEditors.2.2
  · intro entry listed
    obtain ⟨old, known, changed⟩ := SortedMap.mem_mapValues.mp listed
    obtain ⟨owner, checked⟩ := valid.parked (entry.1, old) (SortedMap.mem_retain.mp known).1
    rw [← changed]
    exact ⟨owner, dropReferences_valid checked⟩
  · exact fun entry listed => valid.execution entry (List.mem_of_mem_filter listed)
  · exact valid.identities.sublist (List.Sublist.map _ List.filter_sublist)
  · exact fun question listed => valid.questions question (List.mem_of_mem_filter listed)
  · intro pending held
    have before : profile.pending = some pending := by
      unfold DesktopProfileDraft.withoutRecords at held
      dsimp only at held
      split at held
      · cases held
      · exact held
    apply pending_fenced.mpr
    exact ⟨fence (.inr (by rw [held]; rfl)), (pending_fenced.mp (valid.pending _ before)).2⟩

theorem forget_erased (valid : Valid host profile) :
    ¬OwnsRecord (profile.forgetConversation work) work := by
  rw [forget_eq]
  intro owns
  cases owns with
  | message listed owner =>
    obtain ⟨known, kept⟩ := SortedMap.mem_retain.mp listed
    exact of_decide_eq_true kept ((message_removed known).mpr (.inl owner))
  | promptEdit listed owner =>
    exact of_decide_eq_true (SortedMap.mem_retain.mp listed).2 owner
  | parked listed owner =>
    obtain ⟨old, known, changed⟩ := SortedMap.mem_mapValues.mp listed
    obtain ⟨before, other⟩ := SortedMap.mem_retain.mp known
    have named := (valid.parked _ before).1
    rw [← changed] at owner
    exact of_decide_eq_true other (Option.some.inj (named.symm.trans owner))
  | execution listed => exact of_decide_eq_true (SortedMap.mem_retain.mp listed).2 rfl
  | question listed owner =>
    exact of_decide_eq_true (List.mem_filter.mp listed).2 owner
  | pending held owner =>
    unfold DesktopProfileDraft.withoutRecords at held
    dsimp only at held
    split at held
    · cases held
    · rename_i other
      exact other (removedPending_eq_true.mpr ⟨_, held, owner⟩)
  | composer owner =>
    unfold DesktopProfileDraft.withoutRecords dropReferences at owner
    dsimp only at owner
    split at owner
    · cases owner
    · rename_i other
      exact other owner
  | reference listed target =>
    exact of_decide_eq_true (List.mem_filter.mp listed).2 target
  | parkedReference parked listed target =>
    obtain ⟨old, _, rfl⟩ := SortedMap.mem_mapValues.mp parked
    exact of_decide_eq_true (List.mem_filter.mp listed).2 target
  | newConversation owner =>
    unfold DesktopProfileDraft.withoutRecords at owner
    dsimp only at owner
    split at owner
    · cases owner
    · rename_i other
      exact other owner

theorem collides_iff : KeyCollides profile work ↔
    ∃ key message, (key, message) ∈ profile.messages.entries ∧ message.owner ≠ some work ∧
      ∃ review draft, (review, draft) ∈ profile.promptEdits.entries ∧ draft.workId = work ∧
        key ∈ commandKeys draft := by
  unfold KeyCollides
  simp only [SortedMap.mem_values]
  grind

theorem forget_keepsOthers_iff :
    KeepsOthers profile work (profile.forgetConversation work) ↔ ¬KeyCollides profile work := by
  have messages : (profile.withoutRecords work).messages =
      (profile.messages.retain fun _ message => message.owner ≠ some work) ↔
        ¬KeyCollides profile work := by
    unfold DesktopProfileDraft.withoutRecords
    dsimp only
    rw [SortedMap.retain_eq_iff, collides_iff]
    simp only [decide_eq_decide]
    constructor
    · rintro same ⟨key, message, listed, other, held⟩
      exact (same key message listed).mpr other ((message_removed listed).mpr (.inr held))
    · intro apart key message listed
      rw [message_removed listed, not_or]
      refine ⟨And.left, fun other => ⟨other, fun held => ?_⟩⟩
      exact apart ⟨key, message, listed, other, held⟩
  rw [forget_eq, ← messages]
  constructor
  · exact fun kept => kept.messages
  · intro same
    refine ⟨same, rfl, rfl, rfl, ?_, rfl, rfl, rfl, rfl, ?_, ?_⟩
    · intro other
      unfold DesktopProfileDraft.withoutRecords
      rw [if_neg other]
    · intro other
      unfold DesktopProfileDraft.withoutRecords
      apply if_neg
      rw [removedPending_eq_true]
      rintro ⟨pending, held, owner⟩
      exact other pending held owner
    · intro other
      unfold DesktopProfileDraft.withoutRecords
      exact ⟨if_neg other, if_neg other, if_neg other⟩

theorem dropReferences_eq_self {draft : DesktopComposerDraft T}
    (none : ∀ reference ∈ draft.references, reference.workId ≠ work) :
    dropReferences work draft = draft := by
  unfold dropReferences
  rw [List.filter_eq_self.mpr]
  intro reference listed
  exact decide_eq_true (none reference listed)

theorem forget_nothing (valid : Valid host profile) (none : ¬OwnsRecord profile work) :
    profile.forgetConversation work = profile := by
  have noKeys : profile.removedKeys work = [] := by
    rw [List.eq_nil_iff_forall_not_mem]
    intro key removed
    rcases mem_removedKeys.mp removed with ⟨message, listed, owner⟩ | ⟨_, _, listed, owner, _⟩
    · exact none (.message listed owner)
    · exact none (.promptEdit listed owner)
  have noPending : profile.removedPending work = false := by
    rw [← Bool.not_eq_true, removedPending_eq_true]
    rintro ⟨pending, held, owner⟩
    exact none (.pending held owner)
  have noComposer : profile.composer.workId ≠ some work := fun owner => none (.composer owner)
  have noNew : profile.newConversation ≠ some work := fun owner => none (.newConversation owner)
  have fence : fenceAfter profile work = profile.uncertain := by
    unfold fenceAfter
    simp [noKeys, noPending]
  rw [forget_eq, fence]
  unfold DesktopProfileDraft.withoutRecords
  simp only [noKeys, noPending, noComposer, noNew, if_false, List.not_mem_nil, not_false_eq_true,
    decide_true, Bool.false_eq_true]
  apply DesktopProfileDraft.ext <;> dsimp only
  · exact SortedMap.retain_eq_self fun _ _ _ => rfl
  · apply SortedMap.retain_eq_self
    intro review draft listed
    exact decide_eq_true fun owner => none (.promptEdit listed owner)
  · exact List.filter_eq_self.mpr fun _ _ => rfl
  · exact dropReferences_eq_self fun _ listed target => none (.reference listed target)
  · rw [SortedMap.retain_eq_self]
    · apply SortedMap.mapValues_eq_self
      intro key draft listed
      exact dropReferences_eq_self fun _ known target =>
        none (.parkedReference listed known target)
    · intro key draft listed
      apply decide_eq_true
      rintro rfl
      exact none (.parked listed (valid.parked _ listed).1)
  · apply SortedMap.retain_eq_self
    intro key settings listed
    apply decide_eq_true
    rintro rfl
    exact none (.execution listed)
  · apply List.filter_eq_self.mpr
    intro question listed
    exact decide_eq_true fun owner => none (.question listed owner)

theorem hasUnresolved_eq_true : profile.hasUnresolved = true ↔
    (∃ key message, (key, message) ∈ profile.messages.entries ∧ message.state ≠ .failed) ∨
      (∃ review draft, (review, draft) ∈ profile.promptEdits.entries ∧
        (draft.handbackPending = true ∨ draft.pendingSend.isSome = true)) ∨
      ∃ directory draft, (directory, draft) ∈ profile.ordinary.entries ∧
        draft.unconfirmed ≠ [] := by
  unfold DesktopProfileDraft.hasUnresolved isWaiting
  simp only [Bool.or_eq_true, List.any_eq_true, SortedMap.mem_values, decide_eq_true_eq,
    Bool.not_eq_true', List.isEmpty_eq_false_iff]
  grind

/-- What is unresolved and stays: a removal takes nothing unresolved from another owner. -/
theorem unresolved_kept (valid : Valid host profile) (none : ¬OwnsUnresolved profile work)
    (unresolved : profile.hasUnresolved = true) :
    (profile.withoutRecords work).hasUnresolved = true := by
  rw [hasUnresolved_eq_true] at unresolved ⊢
  rcases unresolved with ⟨key, message, listed, waits⟩ | ⟨review, draft, listed, waits⟩ | ordinary
  · left
    refine ⟨key, message, SortedMap.mem_retain.mpr ⟨listed, decide_eq_true fun removed => ?_⟩,
      waits⟩
    rcases (message_removed listed).mp removed with owner | ⟨_, _, known, owner, held⟩
    · exact none (.message listed owner waits)
    · exact none (.promptEdit known owner (waits_of_key (valid.edits _ known).2 held))
  · right
    left
    refine ⟨review, draft, SortedMap.mem_retain.mpr ⟨listed, decide_eq_true fun owner => ?_⟩,
      waits⟩
    exact none (.promptEdit listed owner waits)
  · exact .inr (.inr ordinary)

theorem unresolved_before (unresolved : (profile.withoutRecords work).hasUnresolved = true) :
    profile.hasUnresolved = true := by
  rw [hasUnresolved_eq_true] at unresolved ⊢
  rcases unresolved with ⟨key, message, listed, waits⟩ | ⟨review, draft, listed, waits⟩ | ordinary
  · exact .inl ⟨key, message, (SortedMap.mem_retain.mp listed).1, waits⟩
  · exact .inr (.inl ⟨review, draft, (SortedMap.mem_retain.mp listed).1, waits⟩)
  · exact .inr (.inr ordinary)

theorem forget_unconfirmed : (profile.forgetConversation work).hasUnconfirmedDelivery =
    (fenceAfter profile work || (profile.withoutRecords work).hasUnresolved) := by
  rw [forget_eq]
  rfl

/-- Where the fence stands alone, it falls with the failed messages. -/
theorem fence_falls (alone : FenceAlone profile work) :
    ¬KeepsFence profile work (profile.forgetConversation work) := by
  obtain ⟨stands, noPending, resolved, ⟨message, listed, owner⟩, commands⟩ := alone
  obtain ⟨key, listed⟩ := SortedMap.mem_values.mp listed
  intro keeps
  have removed : (profile.removedKeys work).isEmpty = false := by
    rw [List.isEmpty_eq_false_iff]
    exact List.ne_nil_of_mem ((message_removed listed).mpr (.inl owner))
  have settled : (profile.withoutRecords work).hasUnresolved = false := by
    rw [← Bool.not_eq_true]
    intro unresolved
    rw [unresolved_before unresolved] at resolved
    cases resolved
  have noneLeft : (profile.withoutRecords work).unconfirmedCommands = [] := by
    unfold DesktopProfileDraft.withoutRecords
    apply List.filter_eq_nil_iff.mpr
    intro id known
    simpa using commands id known
  have nonePending : (profile.withoutRecords work).pending = none := by
    unfold DesktopProfileDraft.withoutRecords
    dsimp only
    rw [noPending, ite_self]
  have before : profile.hasUnconfirmedDelivery = true := by
    unfold DesktopProfileDraft.hasUnconfirmedDelivery
    rw [stands, Bool.true_or]
  have after : (profile.forgetConversation work).hasUnconfirmedDelivery = false := by
    rw [forget_unconfirmed, settled, Bool.or_false]
    unfold fenceAfter
    simp [removed, settled, noneLeft, nonePending]
  have unresolved : profile.hasUnresolved = true := by
    rw [hasUnresolved_eq_true]
    cases keeps before after with
    | message known _ waits => exact .inl ⟨_, _, known, waits⟩
    | pending held _ =>
      rw [noPending] at held
      cases held
    | promptEdit known _ waits => exact .inr (.inl ⟨_, _, known, waits⟩)
  rw [unresolved] at resolved
  cases resolved

/-- Otherwise it falls only with something unresolved. -/
theorem fence_kept (valid : Valid host profile) (shared : ¬FenceAlone profile work) :
    KeepsFence profile work (profile.forgetConversation work) := by
  intro before after
  by_contra none
  rw [forget_unconfirmed, Bool.or_eq_false_iff] at after
  obtain ⟨fence, settled⟩ := after
  have resolved : profile.hasUnresolved = false := by
    rw [← Bool.not_eq_true]
    intro unresolved
    rw [unresolved_kept valid none unresolved] at settled
    cases settled
  have stands : profile.uncertain = true := by
    unfold DesktopProfileDraft.hasUnconfirmedDelivery at before
    rwa [resolved, Bool.or_false] at before
  have noPending : profile.removedPending work = false := by
    rw [← Bool.not_eq_true, removedPending_eq_true]
    rintro ⟨pending, held, owner⟩
    exact none (.pending held owner)
  unfold fenceAfter at fence
  dsimp only at fence
  split at fence
  · rename_i some
    simp only [noPending, Bool.false_or, Bool.not_eq_true', List.isEmpty_eq_false_iff] at some
    obtain ⟨key, removed⟩ := List.exists_mem_of_ne_nil _ some
    simp only [Bool.or_eq_false_iff] at fence
    obtain ⟨⟨pendingNone, commandsNone⟩, _⟩ := fence
    apply shared
    refine ⟨stands, ?_, resolved, ?_, ?_⟩
    · unfold DesktopProfileDraft.withoutRecords at pendingNone
      simpa [noPending] using pendingNone
    · rcases mem_removedKeys.mp removed with ⟨message, listed, owner⟩ | ⟨_, _, listed, owner, held⟩
      · exact ⟨message, SortedMap.mem_values.mpr ⟨key, listed⟩, owner⟩
      · exact absurd (.promptEdit listed owner (waits_of_key (valid.edits _ listed).2 held)) none
    · unfold DesktopProfileDraft.withoutRecords at commandsNone
      simpa using commandsNone
  · rw [stands] at fence
    cases fence

/-- Forgetting is exact except where keys collide and where the fence stands alone. -/
theorem forgetting_is_exact_iff (host : PromptHost T.Number) (profile : DesktopProfileDraft T)
    (work : String) (valid : profile.validate host = .ok ()) :
    ForgetsExactly host profile work ↔
      ¬KeyCollides profile work ∧ ¬FenceAlone profile work := by
  rw [validate_eq_ok] at valid
  have validAfter : Valid host (profile.forgetConversation work) := forget_valid valid
  constructor
  · intro exactly
    exact ⟨forget_keepsOthers_iff.mp exactly.others,
      fun alone => fence_falls alone exactly.fence⟩
  · rintro ⟨apart, shared⟩
    exact ⟨validate_eq_ok.mpr validAfter, forget_erased valid,
      forget_keepsOthers_iff.mpr apart, fence_kept valid shared, forget_nothing valid,
      forget_nothing validAfter (forget_erased valid)⟩

abbrev plainTypes : DraftTypes := ⟨Unit, Unit, Unit, Unit, Unit, Unit, Unit⟩

def emptyProfile : DesktopProfileDraft plainTypes where
  messages := .empty
  newConversation := none
  newConversationWorkspace := none
  newConversationPermissions := none
  promptEdits := .empty
  ordinary := .empty
  unconfirmedCommands := []
  composer := .default
  parked := .empty
  execution := .empty
  executionRevision := 0
  questions := []
  uncertain := false
  pending := none

/-- An unconfirmed message, an edit that waits and settings of a conversation, and an editor of
another one that refers to it. -/
def busyProfile : DesktopProfileDraft plainTypes :=
  { emptyProfile with
    messages := .single "sent-1" ⟨.send, (), some "work", none, "hello", .unconfirmed, none⟩
    promptEdits := .single sampleToken sampleEdit
    unconfirmedCommands := ["sent-1"]
    parked := .single "kept"
      ⟨none, some "kept", none, "keep this", [], [⟨"work", "thread", "reference"⟩]⟩
    execution := .single "work" (1, ())
    executionRevision := 1
    uncertain := true }

theorem busy_conversation_is_forgotten :
    busyProfile.validate sampleInputHost = .ok () ∧
      ForgetsExactly sampleInputHost busyProfile "work" := by
  have valid : busyProfile.validate sampleInputHost = .ok () := by decide +kernel
  have apart : ¬KeyCollides busyProfile "work" := by
    rintro ⟨draft, _, _, key, _, message, listed, other⟩
    cases List.mem_singleton.mp listed
    exact other rfl
  have shared : ¬FenceAlone busyProfile "work" := by
    rintro ⟨_, _, resolved, _⟩
    cases resolved
  constructor
  · exact valid
  · exact (@forgetting_is_exact_iff plainTypes sampleInputHost busyProfile "work" valid).mpr
      ⟨apart, shared⟩

/-- A message that failed, and a fence that stands for a delivery without a record. -/
def unrecordedProfile : DesktopProfileDraft plainTypes :=
  { emptyProfile with
    messages := .single "sent-1" ⟨.send, (), some "gone", none, "hello", .failed, none⟩
    uncertain := true }

/-- Forgetting the failed message releases the fence: nothing unresolved was removed. -/
theorem unrecorded_delivery_loses_its_fence :
    unrecordedProfile.validate sampleInputHost = .ok () ∧
      unrecordedProfile.hasUnconfirmedDelivery = true ∧
      (unrecordedProfile.forgetConversation "gone").hasUnconfirmedDelivery = false ∧
      ¬OwnsUnresolved unrecordedProfile "gone" ∧
      ¬ForgetsExactly sampleInputHost unrecordedProfile "gone" := by
  have before : unrecordedProfile.hasUnconfirmedDelivery = true := rfl
  have after : (unrecordedProfile.forgetConversation "gone").hasUnconfirmedDelivery = false := by
    decide
  have none : ¬OwnsUnresolved unrecordedProfile "gone" := by
    intro owns
    cases owns with
    | message listed _ waits =>
      cases List.mem_singleton.mp listed
      exact waits rfl
    | pending held _ => cases held
    | promptEdit listed _ _ => cases listed
  exact ⟨by decide, before, after, none, fun exactly => none (exactly.fence before after)⟩

end Decodex.Guarantees.ForgottenConversations
