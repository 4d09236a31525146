import Decodex.Guarantees.SessionTasks

/-!
# The completion of a session

Source: crates/decodex-runtime/src/websocket.rs:2779-2820 and 2891-2969. The messages that a session
accepts are those that its task writes and has still to write; and when a task has returned, its
completion has the classification that its transport calls for. One race is left: a task whose
opening messages could not be written has shut its queue before it is harvested, and when a send
finds the queue shut first, the two reasons are not reconciled and the completion is invalid.
-/
namespace Decodex.Guarantees.SessionCompletions

open Decodex.Source.Protocol.SessionMessages Decodex.Source.Runtime.Publication
open Decodex.Guarantees.SessionTasks

variable {V : Vocabulary}

def messages (items : List (OutboundItem V)) : List (ServerMessage V) := items.map (·.message)

/-- What a transport says was written. -/
def locallyWritten : SessionTransportDisposition → SessionOrdinalProgress
  | .drainedThrough written => written
  | .transportFailed written _ => written

/-- Where the task stands in the messages that were accepted. -/
def Told (session : Session V) (accepted written : List (ServerMessage V)) : Prop :=
  match session.task with
  | .absent | .lost _ => True
  | .opening | .registering => accepted = [] ∧ written = []
  | .initial _ => written = [] ∧ accepted = messages session.queue
  | .running _ item progress => progress = through written.length ∧
    accepted = written ++ messages (item.toList ++ session.queue)
  | .closing completion | .finished completion => written <+: accepted ∧
    ∀ reason transport, completion = .registered reason transport →
      locallyWritten transport = through written.length

/-- The message that a step of the task writes. -/
def wrote (session : Session V) : TaskEvent V → List (ServerMessage V)
  | .itemWritten => match session.task with
    | .running _ (some item) _ => [item.message]
    | _ => []
  | _ => []

/-- The message, when it is accepted. -/
def acceptedOf (capacity : Nat) (session : Session V) (message : ServerMessage V) :
    List (ServerMessage V) :=
  if (session.acceptForSession capacity message).2.isAccepted then [message] else []

section Told

variable {session next : Session V} {accepted written : List (ServerMessage V)}

theorem Told.mono (told : Told session accepted written) (task : next.task = session.task)
    (queue : next.queue = session.queue) : Told next accepted written := by
  unfold Told at told ⊢
  rw [task, queue]
  exact told

theorem messages_append (first second : List (OutboundItem V)) :
    messages (first ++ second) = messages first ++ messages second := by
  unfold messages
  rw [List.map_append]

/-- The end of a task: a part of what was accepted was written. -/
theorem Told.endTask {reader : Reader} {item : Option (OutboundItem V)}
    {progress : SessionOrdinalProgress} (told : Told session accepted written)
    (stage : session.task = .running reader item progress)
    (requested : Option SessionSealReason) {transport : SessionTransportDisposition}
    (reported : locallyWritten transport = progress) :
    Told (session.endTask requested transport) accepted written := by
  unfold Told at told
  rw [stage] at told
  obtain ⟨same, split⟩ := told
  refine ⟨⟨_, split.symm⟩, ?_⟩
  intro reason other held
  cases held
  rw [reported, same]

theorem through_inj {first second : Nat} (same : through first = through second) :
    first = second := by
  cases first <;> cases second <;> simp [through] at same ⊢
  exact same

theorem Told.write (told : Told session accepted written) (sound : Sound session accepted.length)
    {reader : Reader} {item : OutboundItem V} {progress : SessionOrdinalProgress}
    (stage : session.task = .running reader (some item) progress) :
    Told { session with task := .running reader none (.through item.ordinal) } accepted
      (written ++ [item.message]) := by
  have side := sound.task
  unfold TaskSide at side
  unfold Told at told
  rw [stage] at told side
  obtain ⟨same, split⟩ := told
  obtain ⟨-, -, done, rest, reported, count, numbered⟩ := side
  have first : done = written.length := through_inj (reported.symm.trans same)
  have ordinal : item.ordinal = done + 1 := by
    cases rest with
    | zero => cases numbered
    | succ rest => exact (List.cons.inj numbered).1
  refine ⟨?_, ?_⟩
  · rw [ordinal, first, List.length_append]
    rfl
  · rw [split, List.append_assoc]
    rfl

theorem Told.taskStep (told : Told session accepted written)
    (sound : Sound session accepted.length) {serverId : String} {event : TaskEvent V}
    (moved : session.taskStep serverId event = some next) :
    Told next accepted (written ++ wrote session event) := by
  have side := told
  unfold Told at side
  unfold Session.taskStep at moved
  split at moved
  case h_1 stage =>
    cases moved
    rw [stage] at side
    obtain ⟨rfl, rfl⟩ := side
    refine ⟨List.prefix_refl _, ?_⟩
    intro reason transport held
    cases held
  case h_2 stage =>
    split at moved
    · cases moved
      rw [stage] at side
      rw [side.2]
      exact ⟨side.1, rfl⟩
    · cases moved
  case h_3 stage =>
    cases moved
    rw [stage] at side
    rw [side.1]
    exact ⟨rfl, side.2⟩
  case h_4 cause _ _ stage =>
    split at moved
    · cases moved
      rw [stage] at side
      obtain ⟨rfl, -⟩ := side
      refine ⟨List.nil_prefix, ?_⟩
      intro reason transport held
      cases held
      rfl
    · cases moved
  case h_5 stage =>
    cases moved
    rw [stage] at side
    obtain ⟨rfl, queued⟩ := side
    exact ⟨rfl, queued⟩
  case h_6 stage =>
    cases moved
    rw [stage] at side
    simp only [wrote, List.append_nil]
    exact side
  case h_7 stage =>
    cases moved
    rw [stage] at side
    simp only [wrote, List.append_nil]
    exact side
  case h_8 stage =>
    split at moved
    · cases moved
      rw [stage] at side
      simp only [wrote, List.append_nil]
      exact side
    · cases moved
  case h_9 stage =>
    cases moved
    rw [stage] at side
    simp only [wrote, List.append_nil]
    exact side
  case h_10 stage =>
    cases moved
    rw [stage] at side
    simp only [wrote, List.append_nil]
    exact side
  case h_11 stage =>
    split at moved
    · cases moved
    · rename_i queue
      cases moved
      rw [stage, queue] at side
      simp only [wrote, List.append_nil]
      exact side
  case h_12 item _ stage =>
    cases moved
    simp only [wrote, stage]
    exact told.write sound stage
  case h_13 stage =>
    split at moved
    · cases moved
      simp only [wrote, List.append_nil]
      exact told.endTask stage _ rfl
    · cases moved
  case h_14 closeSent _ _ stage =>
    split at moved
    · cases moved
      simp only [wrote, List.append_nil]
      refine told.endTask stage _ ?_
      cases closeSent
      · rfl
      · rfl
    · cases moved
  case h_15 stage =>
    cases moved
    rw [stage] at side
    simp only [wrote, List.append_nil]
    exact side
  case h_16 =>
    split at moved
    · cases moved
      trivial
    · cases moved
  case h_17 => cases moved

end Told

section Acceptance

variable {session : Session V} {accepted written : List (ServerMessage V)}

/-- The session has no ordinal left. -/
def Exhausts (session : Session V) : Prop :=
  ∃ subscriber, session.subscriber = some subscriber ∧ 2 ^ 64 ≤ subscriber.nextOrdinal + 1

theorem exhausts_iff (owner : OwnerSide session accepted.length) (capacity : Nat)
    (message : ServerMessage V) :
    directiveForAcceptance (session.acceptForSession capacity message).2 = .proceed ↔
      ¬Exhausts session := by
  constructor
  · rintro kept ⟨subscriber, subscribed, exhausted⟩
    unfold Session.acceptForSession at kept
    rw [subscribed] at kept
    dsimp only at kept
    rw [if_pos exhausted] at kept
    cases kept
  · intro spare
    rcases acceptForSession_cases capacity message owner with ⟨-, same⟩ |
      ⟨subscriber, subscribed, ⟨-, exhausted⟩ | ⟨reason, same, found⟩ | ⟨-, -, same⟩⟩
    · rw [same]
      rfl
    · refine absurd ⟨subscriber, subscribed, ?_⟩ spare
      rw [(owner.subscribed subscriber subscribed).1]
      exact exhausted
    · rw [same]
      rcases found with rfl | ⟨rfl, -⟩
      · rfl
      · rfl
    · rw [same]
      rfl

theorem sealed_of_unaccepted (owner : OwnerSide session accepted.length) {capacity : Nat}
    {message : ServerMessage V}
    (refused : (session.acceptForSession capacity message).2.isAccepted = false) :
    (session.acceptForSession capacity message).1.subscriber = none := by
  unfold Session.acceptForSession at refused ⊢
  cases subscribed : session.subscriber with
  | none => exact subscribed
  | some subscriber =>
    have unsealed := (owner.subscribed subscriber subscribed).2.2.1
    rw [subscribed] at refused
    dsimp only at refused ⊢
    split
    · rw [sealSession_of_subscriber _ subscribed unsealed]
    split
    · rw [sealSession_of_subscriber _ subscribed unsealed]
    split
    · rw [sealSession_of_subscriber _ subscribed unsealed]
    rename_i spare isOpen room
    rw [if_neg spare, if_neg isOpen, if_neg room] at refused
    cases refused

theorem subscriber_stays_none (capacity : Nat) (message : ServerMessage V)
    (unsubscribed : session.subscriber = none) :
    (session.acceptForSession capacity message).1 = session := by
  unfold Session.acceptForSession
  rw [unsubscribed]

theorem acceptForSession_task (capacity : Nat) (message : ServerMessage V)
    (owner : OwnerSide session accepted.length) :
    (session.acceptForSession capacity message).1.task = session.task := by
  unfold Session.acceptForSession
  cases subscribed : session.subscriber with
  | none => rfl
  | some subscriber =>
    have unsealed := (owner.subscribed subscriber subscribed).2.2.1
    dsimp only
    split
    · rw [sealSession_of_subscriber _ subscribed unsealed]
    split
    · rw [sealSession_of_subscriber _ subscribed unsealed]
    split
    · rw [sealSession_of_subscriber _ subscribed unsealed]
    · rfl

theorem acceptedOf_refused {capacity : Nat} {message : ServerMessage V}
    (refused : (session.acceptForSession capacity message).2.isAccepted = false) :
    acceptedOf capacity session message = [] := by
  rw [acceptedOf, refused, if_neg Bool.false_ne_true]

theorem acceptedOf_accepted {capacity : Nat} {message : ServerMessage V}
    (taken : (session.acceptForSession capacity message).2.isAccepted = true) :
    acceptedOf capacity session message = [message] := by
  rw [acceptedOf, taken, if_pos rfl]

theorem Sound.accepts (sound : Sound session accepted.length) (capacity : Nat)
    (message : ServerMessage V) (spare : ¬Exhausts session) :
    Sound (session.acceptForSession capacity message).1
      (accepted ++ acceptedOf capacity session message).length := by
  rcases acceptForSession_cases capacity message sound.owner with ⟨-, same⟩ |
    ⟨subscriber, subscribed, ⟨-, exhausted⟩ | ⟨reason, same, found⟩ | ⟨isOpen, -, same⟩⟩
  · rw [acceptedOf_refused (by rw [same]; rfl), same, List.append_nil]
    exact sound
  · refine absurd ⟨subscriber, subscribed, ?_⟩ spare
    rw [(sound.owner.subscribed subscriber subscribed).1]
    exact exhausted
  · rw [acceptedOf_refused (by rw [same]; rfl), same, List.append_nil]
    exact sound.sealSession found
  · rw [acceptedOf_accepted (by rw [same]; rfl), same, List.length_append]
    exact sound.grow subscribed isOpen message

/-- A message that is accepted is the next of the session. -/
theorem Told.accepts (told : Told session accepted written)
    (sound : Sound session accepted.length) (capacity : Nat) (message : ServerMessage V)
    (spare : ¬Exhausts session) :
    Told (session.acceptForSession capacity message).1
      (accepted ++ acceptedOf capacity session message) written := by
  rcases acceptForSession_cases capacity message sound.owner with ⟨-, same⟩ |
    ⟨subscriber, subscribed, ⟨-, exhausted⟩ | ⟨reason, same, found⟩ | ⟨-, -, same⟩⟩
  · rw [acceptedOf_refused (by rw [same]; rfl), same, List.append_nil]
    exact told
  · refine absurd ⟨subscriber, subscribed, ?_⟩ spare
    rw [(sound.owner.subscribed subscriber subscribed).1]
    exact exhausted
  · have unsealed := (sound.owner.subscribed subscriber subscribed).2.2.1
    rw [acceptedOf_refused (by rw [same]; rfl), same, List.append_nil,
      sealSession_of_subscriber reason subscribed unsealed]
    exact told.mono rfl rfl
  · rw [acceptedOf_accepted (by rw [same]; rfl), same]
    have registered : Registered session := .inl (by rw [subscribed]; rfl)
    have side := sound.task
    unfold TaskSide at side
    unfold Told at told ⊢
    dsimp only
    cases stage : session.task with
    | absent => trivial
    | lost panicked => trivial
    | opening =>
      rw [stage] at side
      exact absurd side.1 (not_unregistered registered)
    | registering =>
      rw [stage] at side
      exact absurd side.1 (not_unregistered registered)
    | initial rest =>
      rw [stage] at told
      refine ⟨told.1, ?_⟩
      rw [messages_append, told.2]
      rfl
    | running reader item progress =>
      rw [stage] at told
      refine ⟨told.1, ?_⟩
      rw [← List.append_assoc, messages_append, ← List.append_assoc, ← told.2]
      rfl
    | closing completion =>
      rw [stage] at told
      exact ⟨told.1.trans (List.prefix_append _ _), told.2⟩
    | finished completion =>
      rw [stage] at told
      exact ⟨told.1.trans (List.prefix_append _ _), told.2⟩

theorem Told.answerReader (told : Told session accepted written) (delivered : Bool) :
    Told (session.answerReader delivered) accepted written := by
  unfold Session.answerReader
  split
  · rename_i item progress stage
    unfold Told at told
    rw [stage] at told
    exact told
  · exact told

end Acceptance

section Harvest

variable {session : Session V} {count : Nat}

/-- What a transport calls for, when nothing speaks against it. -/
def classificationOfTransport : SessionTransportDisposition → SessionCompletionClassification
  | .drainedThrough _ => .exactDrained
  | .transportFailed _ cause => if cause.isEncoding then .transportFailed else .sessionLocal

/-- The opening messages failed, and a send found the queue shut before the harvest. -/
def Races (session : Session V) (reason : SessionSealReason) : Prop :=
  reason = .initialPrefixFailed ∧
    ∃ sealing, session.sealedSession = some sealing ∧ sealing.reason = .outboundClosed

theorem progressMatches_of_progress {sealing : SealedSession}
    {transport : SessionTransportDisposition} (all : sealing.acceptedThrough = through count)
    (progress : Progress count transport) : sealing.progressMatches transport = true := by
  unfold SealedSession.progressMatches
  cases transport with
  | drainedThrough written =>
    have whole : written = through count := progress
    simp only [all, whole, beq_self_eq_true]
  | transportFailed written cause =>
    unfold Progress at progress
    dsimp only at progress
    split at progress
    · rename_i closing
      subst closing
      simp only [all, progress, beq_self_eq_true]
    · rename_i other
      obtain ⟨done, le, rfl⟩ := progress
      have ordered := through_le le
      cases cause <;> simp_all

theorem reasonMatches_of_reason {sealing : SealedSession} {transport : SessionTransportDisposition}
    (fits : OwnReason sealing.reason transport ∨ sealing.reason = .outboundFull) :
    sealing.reasonMatches transport = true := by
  unfold SealedSession.reasonMatches
  obtain ⟨through, reason, late⟩ := sealing
  dsimp only at fits ⊢
  rcases fits with (⟨rfl, failure⟩ | ⟨rfl, failure⟩ | rfl) | rfl
  · cases transport with
    | drainedThrough written => cases failure
    | transportFailed written cause => exact failure
  · cases transport with
    | drainedThrough written => cases failure
    | transportFailed written cause =>
      have later : cause.isInitialPrefix = false := failure
      simp only [later, Bool.not_false]
  · cases transport <;> rfl
  · cases transport <;> rfl

/-- A sealed session whose reason and progress fit is classified by its transport alone. -/
theorem reconcile_of_fits {sealing : SealedSession} {transport : SessionTransportDisposition}
    (all : sealing.acceptedThrough = through count) (timely : sealing.deadlineClassified = false)
    (progress : Progress count transport)
    (fits : OwnReason sealing.reason transport ∨ sealing.reason = .outboundFull) :
    sealing.reconcile transport = classificationOfTransport transport := by
  have progressed := progressMatches_of_progress all progress
  have reasoned := reasonMatches_of_reason fits
  unfold SealedSession.reconcile
  rw [progressed, reasoned, timely]
  obtain ⟨_, reason, _⟩ := sealing
  dsimp only at fits ⊢
  rcases fits with (⟨rfl, failure⟩ | ⟨rfl, failure⟩ | rfl) | rfl
  · cases transport with
    | drainedThrough written => cases failure
    | transportFailed written cause => cases cause <;> rfl
  · cases transport with
    | drainedThrough written => cases failure
    | transportFailed written cause => cases cause <;> rfl
  · cases transport with
    | drainedThrough written => rfl
    | transportFailed written cause => cases cause <;> rfl
  · cases transport with
    | drainedThrough written => rfl
    | transportFailed written cause => cases cause <;> rfl

/-- What a completion is classified as. -/
def Classified (session : Session V) (completion : SessionTaskCompletion)
    (classification : SessionCompletionClassification) : Prop :=
  match completion with
  | .unregistered => classification = .unregistered
  | .registered reason transport =>
    (Races session reason → classification = .invalid) ∧
      (¬Races session reason → classification = classificationOfTransport transport)

/-- The session is gone. -/
def Unowned (session : Session V) : Prop :=
  session.subscriber = none ∧ session.sealedSession = none

theorem classificationOfTransport_valid (transport : SessionTransportDisposition) :
    classificationOfTransport transport ≠ .invalid := by
  unfold classificationOfTransport
  split
  · simp
  · split <;> simp

/-- A sealed session that fits is taken out when it is harvested. -/
theorem reconcile_fits (sealing : SealedSession) {reason : SessionSealReason}
    {transport : SessionTransportDisposition}
    (held : ((session.sealSession reason).canonicalizeOutboundClosed reason).sealedSession =
      some sealing)
    (unsubscribed :
      ((session.sealSession reason).canonicalizeOutboundClosed reason).subscriber = none)
    (all : sealing.acceptedThrough = through count) (timely : sealing.deadlineClassified = false)
    (progress : Progress count transport)
    (fits : OwnReason sealing.reason transport ∨ sealing.reason = .outboundFull) :
    (session.reconcileSessionCompletion (.registered reason transport)).2 =
        classificationOfTransport transport ∧
      Unowned (session.reconcileSessionCompletion (.registered reason transport)).1 := by
  unfold Session.reconcileSessionCompletion
  dsimp only
  rw [held]
  dsimp only
  rw [timely, if_neg Bool.false_ne_true, reconcile_of_fits all timely progress fits,
    if_neg (classificationOfTransport_valid transport)]
  exact ⟨rfl, unsubscribed, rfl⟩

theorem canonicalize_of_other {reason : SessionSealReason} {sealing : SealedSession}
    (held : session.sealedSession = some sealing) (other : sealing.reason ≠ .outboundClosed) :
    session.canonicalizeOutboundClosed reason = session := by
  unfold Session.canonicalizeOutboundClosed
  split
  · rw [held, Option.map_some, if_neg other, ← held]
  · rfl

/-- The reason of a race is none that an outbound seal is canonicalized to. -/
theorem reconcile_of_race (owner : OwnerSide session count) {reason : SessionSealReason}
    (race : Races session reason) (transport : SessionTransportDisposition) :
    (session.reconcileSessionCompletion (.registered reason transport)).2 = .invalid := by
  obtain ⟨rfl, sealing, held, closed⟩ := race
  obtain ⟨unsubscribed, -, timely, -⟩ := owner.closed sealing held
  have kept : (session.sealSession .initialPrefixFailed).canonicalizeOutboundClosed
      .initialPrefixFailed = session := by
    rw [sealSession_of_unsubscribed _ unsubscribed]
    rfl
  have refused : sealing.reconcile transport = .invalid := by
    unfold SealedSession.reconcile
    have unfit : sealing.reasonMatches transport = false := by
      unfold SealedSession.reasonMatches
      rw [closed]
    rw [unfit]
    split
    · rfl
    · rfl
  unfold Session.reconcileSessionCompletion
  dsimp only
  rw [kept, held]
  dsimp only
  rw [timely, if_neg Bool.false_ne_true, refused, if_pos rfl]

/-- A completion is classified by its transport, unless it lost the race. -/
theorem Sound.reconciles (sound : Sound session count) {completion : SessionTaskCompletion}
    (returned : session.task = .finished completion) :
    Classified session completion (session.reconcileSessionCompletion completion).2 ∧
      ((session.reconcileSessionCompletion completion).2 ≠ .invalid →
        Unowned (session.reconcileSessionCompletion completion).1) := by
  have side := sound.task
  unfold TaskSide at side
  rw [returned] at side
  obtain ⟨side, -⟩ := side
  cases completion with
  | unregistered =>
    obtain ⟨unsubscribed, unsealed⟩ := side
    have absent : session.containsSession = false := by
      unfold Session.containsSession
      rw [unsubscribed, unsealed]
      rfl
    unfold Session.reconcileSessionCompletion
    rw [absent, if_neg Bool.false_ne_true]
    exact ⟨rfl, fun _ => ⟨unsubscribed, unsealed⟩⟩
  | registered reason transport =>
    obtain ⟨registered, progress, -, reasons⟩ := side
    suffices fits : ¬Races session reason →
        (session.reconcileSessionCompletion (.registered reason transport)).2 =
            classificationOfTransport transport ∧
          Unowned (session.reconcileSessionCompletion (.registered reason transport)).1 by
      by_cases race : Races session reason
      · have lost := reconcile_of_race sound.owner race transport
        exact ⟨⟨fun _ => lost, fun free => absurd race free⟩, fun valid => absurd lost valid⟩
      · exact ⟨⟨fun raced => absurd raced race, fun _ => (fits race).1⟩, fun _ => (fits race).2⟩
    intro free
    cases held : session.sealedSession with
    | none =>
      have unrefused : ¬Refused session := by
        rintro ⟨sealing, found, -⟩
        rw [held] at found
        cases found
      have own := reasons.resolve_right fun refused => unrefused refused.2
      have listed := registered.resolve_right (by rw [held]; decide)
      obtain ⟨subscriber, subscribed⟩ := Option.isSome_iff_exists.mp listed
      obtain ⟨-, all, -⟩ := sound.owner.subscribed subscriber subscribed
      have other : reason ≠ .outboundClosed := by
        rintro rfl
        rcases own with ⟨same, -⟩ | ⟨same, -⟩ | same <;> cases same
      have timely : (reason == .deadline) = false := by
        rcases own with ⟨rfl, -⟩ | ⟨rfl, -⟩ | rfl <;> rfl
      have sealing := sealSession_of_subscriber reason subscribed held
      refine reconcile_fits ⟨subscriber.acceptedThrough, reason, _⟩ ?_ ?_ all timely progress
        (.inl own)
      · rw [sealing, canonicalize_of_other rfl other]
      · rw [sealing, canonicalize_of_other rfl other]
    | some sealing =>
      obtain ⟨unsubscribed, all, timely, -, -, found⟩ := sound.owner.closed sealing held
      have kept := sealSession_of_unsubscribed reason unsubscribed
      rcases found with full | ⟨closed, -⟩
      · have other : sealing.reason ≠ .outboundClosed := by
          rw [full]
          decide
        refine reconcile_fits sealing ?_ ?_ all timely progress (.inr full)
        · rw [kept, canonicalize_of_other held other, held]
        · rw [kept, canonicalize_of_other held other, unsubscribed]
      · have unrefused : ¬Refused session := by
          rintro ⟨other, same, full⟩
          rw [held] at same
          cases same
          rw [closed] at full
          cases full
        have own := reasons.resolve_right fun refused => unrefused refused.2
        have canonical : reason.canonicalizesOutboundClosed = true := by
          rcases own with ⟨rfl, -⟩ | ⟨rfl, -⟩ | rfl
          · exact absurd ⟨rfl, sealing, held, closed⟩ free
          · rfl
          · rfl
        refine reconcile_fits { sealing with reason } ?_ ?_ all timely progress
          (.inl own)
        · rw [kept, Session.canonicalizeOutboundClosed, if_pos canonical]
          dsimp only
          rw [held, Option.map_some, if_pos closed]
        · rw [kept, Session.canonicalizeOutboundClosed, if_pos canonical]
          exact unsubscribed

end Harvest

end Decodex.Guarantees.SessionCompletions
