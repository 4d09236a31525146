import Decodex.Source.Runtime.PublicationOwner

/-!
# Owned sessions: the task and the owner agree

Source: crates/decodex-runtime/src/websocket.rs. What the owner keeps for a session fits what its
task has done, whatever the order of their steps: the ordinals that were written, taken and queued
are those that were accepted, and the reason that a task reports fits the one it was sealed with.
So the classification of a completion is known.
-/
namespace Decodex.Guarantees.SessionTasks

open Decodex.Source.Protocol.SessionMessages Decodex.Source.Runtime.Publication

variable {V : Vocabulary}

/-- Progress through the first ordinals. -/
def through : Nat → SessionOrdinalProgress
  | 0 => .empty
  | count + 1 => .through (count + 1)

theorem through_le {first second : Nat} (le : first ≤ second) :
    (through first).le (through second) = true := by
  cases first with
  | zero => rfl
  | succ first =>
    cases second with
    | zero => omega
    | succ second => simpa [through, SessionOrdinalProgress.le] using le

/-- What the owner keeps of a session that has accepted so many messages. -/
structure OwnerSide (session : Session V) (accepted : Nat) : Prop where
  subscribed : ∀ subscriber, session.subscriber = some subscriber →
    subscriber.nextOrdinal = accepted + 1 ∧ subscriber.acceptedThrough = through accepted ∧
      session.sealedSession = none ∧ session.senderOpen = true ∧ session.sealReason = none
  closed : ∀ sealing, session.sealedSession = some sealing →
    session.subscriber = none ∧ sealing.acceptedThrough = through accepted ∧
      sealing.deadlineClassified = false ∧ session.senderOpen = false ∧
      session.sealReason = some sealing.reason ∧
      (sealing.reason = .outboundFull ∨
        sealing.reason = .outboundClosed ∧ session.receiverOpen = false)

def Registered (session : Session V) : Prop :=
  session.subscriber.isSome = true ∨ session.sealedSession.isSome = true

def Unregistered (session : Session V) : Prop :=
  session.subscriber = none ∧ session.sealedSession = none

/-- The owner refused a message, and not because the task had closed its queue. -/
def Refused (session : Session V) : Prop :=
  ∃ sealing, session.sealedSession = some sealing ∧ sealing.reason = .outboundFull

/-- What the reader has done to the queue, and why it is done. -/
structure ReaderSide (session : Session V) (reader : Reader) : Prop where
  opened : reader.frozen? = none → session.receiverOpen = true
  frozen : ∀ completion, reader = .frozen completion → session.receiverOpen = false ∧
    (completion = .peerClose ∨ completion = .reason .peerDisconnected ∨
      completion = .reason .actorUnavailable ∧ Refused session)
  refused : reader = .answered false → Refused session

/-- The transport reports what was accepted: all of it where it says so, else a part. -/
def Progress (accepted : Nat) : SessionTransportDisposition → Prop
  | .drainedThrough written => written = through accepted
  | .transportFailed written cause =>
    if cause = .closeWrite then written = through accepted
    else ∃ done, done ≤ accepted ∧ written = through done

/-- The transport ended after its queue did. -/
def Drains : SessionTransportDisposition → Prop
  | .drainedThrough _ => True
  | .transportFailed _ cause => cause = .closeWrite

def InitialFailure : SessionTransportDisposition → Prop
  | .drainedThrough _ => False
  | .transportFailed _ cause => cause.isInitialPrefix = true

def LaterFailure : SessionTransportDisposition → Prop
  | .drainedThrough _ => False
  | .transportFailed _ cause => cause.isInitialPrefix = false

/-- A reason that the task itself gives. -/
def OwnReason (reason : SessionSealReason) (transport : SessionTransportDisposition) : Prop :=
  reason = .initialPrefixFailed ∧ InitialFailure transport ∨
    reason = .writerFailed ∧ LaterFailure transport ∨ reason = .peerDisconnected

/-- What a completion says of its session. -/
def CompletionSide (session : Session V) (accepted : Nat) : SessionTaskCompletion → Prop
  | .unregistered => Unregistered session
  | .registered reason transport => Registered session ∧ Progress accepted transport ∧
    (Drains transport → session.senderOpen = false ∨ session.receiverOpen = false) ∧
    (OwnReason reason transport ∨ reason = .outboundFull ∧ Refused session)

def ordinals (items : List (OutboundItem V)) : List Nat := items.map (·.ordinal)

/-- Where the task stands in what was accepted. -/
def TaskSide (session : Session V) (accepted : Nat) : Prop :=
  match session.task with
  | .absent | .lost _ => True
  | .opening | .registering => Unregistered session ∧ session.queue = [] ∧ accepted = 0 ∧
    session.receiverOpen = true ∧ session.senderOpen = true ∧ session.sealReason = none
  | .initial _ => Registered session ∧ session.receiverOpen = true ∧
    ordinals session.queue = List.range' 1 accepted
  | .running reader item written => Registered session ∧ ReaderSide session reader ∧
    ∃ done rest, written = through done ∧ accepted = done + rest ∧
      ordinals (item.toList ++ session.queue) = List.range' (done + 1) rest
  | .closing completion => CompletionSide session accepted completion
  | .finished completion => CompletionSide session accepted completion ∧
    session.receiverOpen = false

structure Sound (session : Session V) (accepted : Nat) : Prop where
  owner : OwnerSide session accepted
  task : TaskSide session accepted

section Moves

variable {session session' : Session V} {accepted : Nat}

theorem not_unregistered (registered : Registered session) : ¬Unregistered session := by
  rintro ⟨unsubscribed, unsealed⟩
  rw [Registered, unsubscribed, unsealed] at registered
  simp at registered

theorem CompletionSide.mono {completion : SessionTaskCompletion}
    (side : CompletionSide session accepted completion) (registered : Registered session)
    (registered' : Registered session')
    (receiver : session.receiverOpen = false → session'.receiverOpen = false)
    (sender : session.senderOpen = false → session'.senderOpen = false)
    (refused : Refused session → Refused session') :
    CompletionSide session' accepted completion := by
  cases completion with
  | unregistered => exact absurd side (not_unregistered registered)
  | registered reason transport =>
    obtain ⟨-, progress, drains, reasons⟩ := side
    refine ⟨registered', progress, ?_, ?_⟩
    · intro drained
      exact (drains drained).imp sender receiver
    · exact reasons.imp id (And.imp id refused)

theorem ReaderSide.mono {reader : Reader} (side : ReaderSide session reader)
    (receiver : session'.receiverOpen = session.receiverOpen)
    (refused : Refused session → Refused session') : ReaderSide session' reader := by
  refine ⟨?_, ?_, ?_⟩
  · intro running
    rw [receiver, side.opened running]
  · intro completion same
    obtain ⟨closed, reasons⟩ := side.frozen completion same
    rw [receiver]
    exact ⟨closed, reasons.imp id (Or.imp id (And.imp id refused))⟩
  · intro same
    exact refused (side.refused same)

/-- What the owner changes of a registered session leaves its task where it stands. -/
theorem TaskSide.mono (side : TaskSide session accepted) (registered : Registered session)
    (registered' : Registered session') (task : session'.task = session.task)
    (queue : session'.queue = session.queue)
    (receiver : session'.receiverOpen = session.receiverOpen)
    (sender : session.senderOpen = false → session'.senderOpen = false)
    (refused : Refused session → Refused session') : TaskSide session' accepted := by
  unfold TaskSide at side ⊢
  rw [task, queue]
  cases stage : session.task with
  | absent => trivial
  | lost panicked => trivial
  | opening =>
    rw [stage] at side
    exact absurd side.1 (not_unregistered registered)
  | registering =>
    rw [stage] at side
    exact absurd side.1 (not_unregistered registered)
  | initial rest =>
    rw [stage] at side
    exact ⟨registered', receiver.trans side.2.1, side.2.2⟩
  | running reader item written =>
    rw [stage] at side
    exact ⟨registered', side.2.1.mono receiver refused, side.2.2⟩
  | closing completion =>
    rw [stage] at side
    exact CompletionSide.mono side registered registered' receiver.trans sender refused
  | finished completion =>
    rw [stage] at side
    exact ⟨CompletionSide.mono side.1 registered registered' receiver.trans sender refused,
      receiver.trans side.2⟩

theorem sealSession_of_subscriber {subscriber : Subscriber} (reason : SessionSealReason)
    (subscribed : session.subscriber = some subscriber) (unsealed : session.sealedSession = none) :
    session.sealSession reason = { session with
      subscriber := none
      sealedSession := some ⟨subscriber.acceptedThrough, reason, reason == .deadline⟩
      sealReason := some reason
      senderOpen := false } := by
  unfold Session.sealSession
  rw [subscribed, unsealed]

theorem sealSession_of_unsubscribed (reason : SessionSealReason)
    (unsubscribed : session.subscriber = none) : session.sealSession reason = session := by
  unfold Session.sealSession
  rw [unsubscribed]
  cases session.sealedSession <;> rfl

/-- Sealing keeps the session sound, for the reasons that the owner finds itself. -/
theorem Sound.sealSession (sound : Sound session accepted) {reason : SessionSealReason}
    (found : reason = .outboundFull ∨ reason = .outboundClosed ∧ session.receiverOpen = false) :
    Sound (session.sealSession reason) accepted := by
  cases subscribed : session.subscriber with
  | none =>
    rw [sealSession_of_unsubscribed reason subscribed]
    exact sound
  | some subscriber =>
    obtain ⟨-, accepted', unsealed, -⟩ := sound.owner.subscribed subscriber subscribed
    rw [sealSession_of_subscriber reason subscribed unsealed]
    refine ⟨⟨?_, ?_⟩, ?_⟩
    · intro subscriber held
      cases held
    · intro sealing held
      cases held
      refine ⟨rfl, accepted', ?_, rfl, rfl, found⟩
      rcases found with rfl | ⟨rfl, -⟩ <;> rfl
    · refine sound.task.mono (.inl (by rw [subscribed]; rfl)) (.inr rfl) rfl rfl rfl (fun _ => rfl) ?_
      rintro ⟨sealing, held, -⟩
      rw [unsealed] at held
      cases held

/-- What `accept_for_session` does, by what it answers. -/
theorem acceptForSession_cases (capacity : Nat) (message : ServerMessage V)
    (owner : OwnerSide session accepted) :
    (session.subscriber = none ∧
      session.acceptForSession capacity message = (session, .unavailable)) ∨
    ∃ subscriber, session.subscriber = some subscriber ∧
      ((session.acceptForSession capacity message).2 = .sealed .ordinalExhausted ∧
          2 ^ 64 ≤ accepted + 2 ∨
        (∃ reason, session.acceptForSession capacity message =
            (session.sealSession reason, .sealed reason) ∧
          (reason = .outboundFull ∨ reason = .outboundClosed ∧ session.receiverOpen = false)) ∨
        session.receiverOpen = true ∧ session.queue.length < capacity ∧
          session.acceptForSession capacity message = ({ session with
            queue := session.queue ++ [⟨accepted + 1, message⟩]
            subscriber := some { subscriber with
              nextOrdinal := accepted + 2
              acceptedThrough := through (accepted + 1) } }, .accepted (accepted + 1))) := by
  unfold Session.acceptForSession
  cases held : session.subscriber with
  | none => exact .inl ⟨rfl, rfl⟩
  | some subscriber =>
    right
    refine ⟨subscriber, rfl, ?_⟩
    obtain ⟨next, -⟩ := owner.subscribed subscriber held
    obtain ⟨version, ordinal, progress⟩ := subscriber
    dsimp only at next ⊢
    subst next
    by_cases exhausted : 2 ^ 64 ≤ accepted + 1 + 1
    · left
      rw [if_pos exhausted]
      exact ⟨rfl, exhausted⟩
    right
    rw [if_neg exhausted]
    cases isOpen : session.receiverOpen with
    | false =>
      left
      refine ⟨.outboundClosed, ?_, .inr ⟨rfl, rfl⟩⟩
      rw [Bool.not_false, if_pos rfl]
    | true =>
      rw [Bool.not_true, if_neg Bool.false_ne_true]
      by_cases full : capacity ≤ session.queue.length
      · left
        refine ⟨.outboundFull, ?_, .inl rfl⟩
        rw [if_pos full]
      · right
        rw [if_neg full]
        exact ⟨rfl, by omega, rfl⟩

theorem ordinals_append (first second : List (OutboundItem V)) :
    ordinals (first ++ second) = ordinals first ++ ordinals second := by
  unfold ordinals
  rw [List.map_append]

theorem range'_succ_last (first count : Nat) :
    List.range' first (count + 1) = List.range' first count ++ [first + count] := by
  rw [List.range'_concat, Nat.one_mul]

/-- A later acceptance leaves a part a part. -/
theorem CompletionSide.grow {completion : SessionTaskCompletion}
    (side : CompletionSide session accepted completion) (registered : Registered session)
    (registered' : Registered session') (sender : session.senderOpen = true)
    (receiver : session.receiverOpen = true) (refused : Refused session → Refused session') :
    CompletionSide session' (accepted + 1) completion := by
  cases completion with
  | unregistered => exact absurd side (not_unregistered registered)
  | registered reason transport =>
    obtain ⟨-, progress, drains, reasons⟩ := side
    have undrained : ¬Drains transport := by
      intro drained
      rcases drains drained with closed | closed
      · rw [sender] at closed
        cases closed
      · rw [receiver] at closed
        cases closed
    refine ⟨registered', ?_, fun drained => absurd drained undrained,
      reasons.imp id (And.imp id refused)⟩
    cases transport with
    | drainedThrough written => exact absurd trivial undrained
    | transportFailed written cause =>
      have other : cause ≠ .closeWrite := undrained
      simp only [Progress, if_neg other] at progress ⊢
      obtain ⟨done, le, same⟩ := progress
      exact ⟨done, by omega, same⟩

/-- An accepted message is one more. -/
theorem Sound.grow {subscriber : Subscriber} (sound : Sound session accepted)
    (subscribed : session.subscriber = some subscriber) (isOpen : session.receiverOpen = true)
    (message : ServerMessage V) :
    Sound { session with
      queue := session.queue ++ [⟨accepted + 1, message⟩]
      subscriber := some { subscriber with
        nextOrdinal := accepted + 2
        acceptedThrough := through (accepted + 1) } } (accepted + 1) := by
  obtain ⟨-, -, unsealed, sender, pending⟩ := sound.owner.subscribed subscriber subscribed
  have registered : Registered session := .inl (by rw [subscribed]; rfl)
  have unrefused : ¬Refused session := by
    rintro ⟨sealing, held, -⟩
    rw [unsealed] at held
    cases held
  refine ⟨⟨?_, ?_⟩, ?_⟩
  · intro other held
    cases held
    exact ⟨rfl, rfl, unsealed, sender, pending⟩
  · intro sealing held
    rw [unsealed] at held
    cases held
  · have side := sound.task
    unfold TaskSide at side ⊢
    dsimp only
    cases stage : session.task with
    | absent => trivial
    | lost panicked => trivial
    | opening =>
      rw [stage] at side
      exact absurd side.1 (not_unregistered registered)
    | registering =>
      rw [stage] at side
      exact absurd side.1 (not_unregistered registered)
    | initial rest =>
      rw [stage] at side
      refine ⟨.inl rfl, isOpen, ?_⟩
      rw [ordinals_append, side.2.2, range'_succ_last, Nat.add_comm 1 accepted]
      rfl
    | running reader item written =>
      rw [stage] at side
      obtain ⟨-, readerSide, done, rest, progress, count, numbered⟩ := side
      refine ⟨.inl rfl, readerSide.mono rfl (fun refused => absurd refused unrefused), done,
        rest + 1, progress, by omega, ?_⟩
      rw [← List.append_assoc, ordinals_append, numbered, range'_succ_last]
      have last : done + 1 + rest = accepted + 1 := by omega
      rw [last]
      rfl
    | closing completion =>
      rw [stage] at side
      exact CompletionSide.grow side registered (.inl rfl) sender isOpen
        fun refused => absurd refused unrefused
    | finished completion =>
      rw [stage] at side
      rw [isOpen] at side
      cases side.2

/-- A reader is told of a loss only by an owner that refused a message. -/
theorem Sound.answerReader (sound : Sound session accepted) {delivered : Bool}
    (lost : delivered = false → session.subscriber = none) :
    Sound (session.answerReader delivered) accepted := by
  unfold Session.answerReader
  split
  · rename_i item written stage
    have side := sound.task
    unfold TaskSide at side
    rw [stage] at side
    obtain ⟨registered, readerSide, numbered⟩ := side
    have isOpen := readerSide.opened rfl
    refine ⟨⟨sound.owner.subscribed, sound.owner.closed⟩, registered, ⟨fun _ => isOpen, ?_, ?_⟩,
      numbered⟩
    · intro completion same
      cases same
    · intro same
      cases same
      have unsubscribed := lost rfl
      rw [Registered, unsubscribed] at registered
      obtain ⟨sealing, held⟩ := Option.isSome_iff_exists.mp (registered.resolve_left (by simp))
      obtain ⟨-, -, -, -, -, full | ⟨-, closed⟩⟩ := sound.owner.closed sealing held
      · exact ⟨sealing, held, full⟩
      · rw [isOpen] at closed
        cases closed
  · exact sound

theorem sound_opened : Sound ({ ({} : Session V) with task := .opening }) 0 := by
  refine ⟨⟨?_, ?_⟩, ⟨rfl, rfl⟩, rfl, rfl, rfl, rfl, rfl⟩
  · intro subscriber held
    cases held
  · intro sealing held
    cases held

theorem Sound.refused (sound : Sound session accepted) (stage : session.task = .registering) :
    Sound { session with task := .closing .unregistered } accepted := by
  have side := sound.task
  unfold TaskSide at side
  rw [stage] at side
  exact ⟨⟨sound.owner.subscribed, sound.owner.closed⟩, side.1⟩

theorem Sound.registered (sound : Sound session accepted) (stage : session.task = .registering)
    (version : ProtocolVersion) (messages : List (ServerMessage V)) :
    Sound { session with subscriber := some { version }, task := .initial messages } 0 := by
  have side := sound.task
  unfold TaskSide at side
  rw [stage] at side
  obtain ⟨⟨-, unsealed⟩, empty, -, receiver, sender, pending⟩ := side
  refine ⟨⟨?_, ?_⟩, .inl rfl, receiver, ?_⟩
  · intro subscriber held
    cases held
    exact ⟨rfl, rfl, unsealed, sender, pending⟩
  · intro sealing held
    rw [unsealed] at held
    cases held
  · dsimp only
    rw [empty]
    rfl

end Moves

section Tasks

variable {session next : Session V} {accepted : Nat}

/-- The task changes nothing that the owner keeps, and opens no queue again. -/
theorem OwnerSide.task (owner : OwnerSide session accepted)
    (subscriber : next.subscriber = session.subscriber)
    (sealed : next.sealedSession = session.sealedSession)
    (sender : next.senderOpen = session.senderOpen) (reason : next.sealReason = session.sealReason)
    (receiver : session.receiverOpen = false → next.receiverOpen = false) :
    OwnerSide next accepted := by
  refine ⟨?_, ?_⟩
  · intro other held
    rw [subscriber] at held
    rw [sealed, sender, reason]
    exact owner.subscribed other held
  · intro sealing held
    rw [sealed] at held
    obtain ⟨unsubscribed, progress, deadline, closed, same, found⟩ := owner.closed sealing held
    rw [subscriber, sender, reason]
    exact ⟨unsubscribed, progress, deadline, closed, same, found.imp id (And.imp id receiver)⟩

/-- The reason that a task takes at its end is its own, or that of an owner that refused. -/
theorem finalize_reason (owner : OwnerSide session accepted) (registered : Registered session)
    {requested : Option SessionSealReason} {transport : SessionTransportDisposition}
    (own : ∀ reason, requested = some reason → ¬Refused session → OwnReason reason transport ∧
      (session.receiverOpen = false → reason.canonicalizesOutboundClosed = true))
    (asked : requested = none → session.subscriber = none ∧ session.receiverOpen = true) :
    OwnReason (finalizeSealReason session.sealReason requested) transport ∨
      finalizeSealReason session.sealReason requested = .outboundFull ∧ Refused session := by
  cases held : session.sealedSession with
  | none =>
    have unrefused : ¬Refused session := by
      rintro ⟨sealing, found, -⟩
      rw [held] at found
      cases found
    rw [Registered, held] at registered
    obtain ⟨subscriber, subscribed⟩ :=
      Option.isSome_iff_exists.mp (registered.resolve_right (by simp))
    obtain ⟨-, -, -, -, pending⟩ := owner.subscribed subscriber subscribed
    rw [pending]
    cases requested with
    | none =>
      rw [(asked rfl).1] at subscribed
      cases subscribed
    | some reason => exact .inl (own reason rfl unrefused).1
  | some sealing =>
    obtain ⟨-, -, -, -, same, found⟩ := owner.closed sealing held
    rw [same]
    rcases found with full | ⟨closed, receiver⟩
    · rw [full]
      exact .inr ⟨rfl, sealing, held, full⟩
    · have unrefused : ¬Refused session := by
        rintro ⟨other, found, full⟩
        rw [held] at found
        cases found
        rw [closed] at full
        cases full
      rw [closed]
      cases requested with
      | none =>
        rw [(asked rfl).2] at receiver
        cases receiver
      | some reason =>
        obtain ⟨mine, canonical⟩ := own reason rfl unrefused
        left
        simpa [finalizeSealReason, Option.filter, canonical receiver] using mine

/-- The end of a task keeps the session sound. -/
theorem Sound.endTask (sound : Sound session accepted) (registered : Registered session)
    {requested : Option SessionSealReason} {transport : SessionTransportDisposition}
    (progress : Progress accepted transport)
    (drains : Drains transport → session.senderOpen = false ∨ session.receiverOpen = false)
    (own : ∀ reason, requested = some reason → ¬Refused session → OwnReason reason transport ∧
      (session.receiverOpen = false → reason.canonicalizesOutboundClosed = true))
    (asked : requested = none → session.subscriber = none ∧ session.receiverOpen = true) :
    Sound (session.endTask requested transport) accepted :=
  ⟨⟨sound.owner.subscribed, sound.owner.closed⟩, registered, progress, drains,
    finalize_reason sound.owner registered own asked⟩

/-- What a frozen reader asks for is the loss of its peer, unless the owner refused. -/
theorem frozen_request {reader : Reader} (side : ReaderSide session reader)
    {reason : SessionSealReason} (unrefused : ¬Refused session)
    (asks : reader.frozen?.map SessionReaderCompletion.requestedSeal = some reason) :
    reason = .peerDisconnected := by
  cases reader with
  | frozen completion =>
    rcases (side.frozen completion rfl).2 with rfl | rfl | ⟨-, refused⟩
    · exact (Option.some.inj asks).symm
    · exact (Option.some.inj asks).symm
    · exact absurd refused unrefused
  | _ => cases asks

/-- All that was accepted was written, when nothing is left. -/
theorem drained_progress {item : Option (OutboundItem V)} {done rest : Nat}
    (numbered : ordinals (item.toList ++ session.queue) = List.range' (done + 1) rest)
    (empty : session.queue = []) (none : item = none) : rest = 0 := by
  subst none
  rw [empty] at numbered
  cases rest with
  | zero => rfl
  | succ rest => cases numbered

theorem Sound.failOpening (sound : Sound session accepted) (stage : session.task = .opening) :
    Sound { session with task := .closing .unregistered } accepted := by
  have side := sound.task
  unfold TaskSide at side
  rw [stage] at side
  exact ⟨⟨sound.owner.subscribed, sound.owner.closed⟩, side.1⟩

theorem Sound.failInitial (sound : Sound session accepted) {message : ServerMessage V}
    {rest : List (ServerMessage V)} (stage : session.task = .initial (message :: rest))
    {cause : SessionTransportFailure} (initial : cause.isInitialPrefix = true) :
    Sound (session.endTask (some .initialPrefixFailed) (.transportFailed .empty cause))
      accepted := by
  have side := sound.task
  unfold TaskSide at side
  rw [stage] at side
  obtain ⟨registered, isOpen, -⟩ := side
  have other : cause ≠ .closeWrite := by
    rintro rfl
    cases initial
  refine sound.endTask registered ?_ (fun drains => absurd drains other) ?_ ?_
  · rw [Progress, if_neg other]
    exact ⟨0, Nat.zero_le _, rfl⟩
  · rintro reason same -
    cases same
    refine ⟨.inl ⟨rfl, initial⟩, fun closed => ?_⟩
    rw [isOpen] at closed
    cases closed
  · intro same
    cases same

theorem Sound.start (sound : Sound session accepted) (stage : session.task = .initial []) :
    Sound { session with task := .running .reading none .empty } accepted := by
  have side := sound.task
  unfold TaskSide at side
  rw [stage] at side
  obtain ⟨registered, isOpen, numbered⟩ := side
  refine ⟨⟨sound.owner.subscribed, sound.owner.closed⟩, registered, ⟨fun _ => isOpen, ?_, ?_⟩, 0,
    accepted, rfl, (Nat.zero_add _).symm, numbered⟩
  · intro completion same
    cases same
  · intro same
    cases same

theorem Sound.finish (sound : Sound session accepted) {completion : SessionTaskCompletion}
    (stage : session.task = .closing completion) :
    Sound { session with receiverOpen := false, task := .finished completion } accepted := by
  have side := sound.task
  unfold TaskSide at side
  rw [stage] at side
  refine ⟨sound.owner.task rfl rfl rfl rfl fun _ => rfl, ?_, rfl⟩
  cases completion with
  | unregistered => exact side
  | registered reason transport =>
    obtain ⟨registered, progress, -, reasons⟩ := side
    exact ⟨registered, progress, fun _ => .inr rfl, reasons⟩

/-- A reader that goes on to read or to wait changes nothing else. -/
theorem Sound.goOn (sound : Sound session accepted) {reader reader' : Reader}
    {item : Option (OutboundItem V)} {written : SessionOrdinalProgress}
    (stage : session.task = .running reader item written) (running : reader.frozen? = none)
    (goes : reader' = .reading ∨ reader' = .waiting) :
    Sound { session with task := .running reader' item written } accepted := by
  have side := sound.task
  unfold TaskSide at side
  rw [stage] at side
  obtain ⟨registered, readerSide, numbered⟩ := side
  refine ⟨⟨sound.owner.subscribed, sound.owner.closed⟩, registered,
    ⟨fun _ => readerSide.opened running, ?_, ?_⟩, numbered⟩
  · rintro completion rfl
    rcases goes with same | same <;> cases same
  · rintro rfl
    rcases goes with same | same <;> cases same

theorem Sound.freeze (sound : Sound session accepted) {reader : Reader}
    {item : Option (OutboundItem V)} {written : SessionOrdinalProgress}
    (stage : session.task = .running reader item written) {completion : SessionReaderCompletion}
    (why : completion = .peerClose ∨ completion = .reason .peerDisconnected ∨
      completion = .reason .actorUnavailable ∧ Refused session) :
    Sound (session.freeze completion item written) accepted := by
  have side := sound.task
  unfold TaskSide at side
  rw [stage] at side
  obtain ⟨registered, -, numbered⟩ := side
  refine ⟨sound.owner.task rfl rfl rfl rfl fun _ => rfl, registered, ⟨?_, ?_, ?_⟩, numbered⟩
  · intro running
    cases running
  · intro other same
    cases same
    exact ⟨rfl, why⟩
  · intro same
    cases same

theorem Sound.take (sound : Sound session accepted) {reader : Reader}
    {written : SessionOrdinalProgress} (stage : session.task = .running reader none written)
    {item : OutboundItem V} {rest : List (OutboundItem V)} (queue : session.queue = item :: rest) :
    Sound { session with queue := rest, task := .running reader (some item) written } accepted := by
  have side := sound.task
  unfold TaskSide at side
  rw [stage] at side
  obtain ⟨registered, readerSide, done, left, progress, count, numbered⟩ := side
  refine ⟨⟨sound.owner.subscribed, sound.owner.closed⟩, registered, readerSide.mono rfl id, done,
    left, progress, count, ?_⟩
  rw [queue] at numbered
  exact numbered

theorem Sound.write (sound : Sound session accepted) {reader : Reader} {item : OutboundItem V}
    {written : SessionOrdinalProgress}
    (stage : session.task = .running reader (some item) written) :
    Sound { session with task := .running reader none (.through item.ordinal) } accepted := by
  have side := sound.task
  unfold TaskSide at side
  rw [stage] at side
  obtain ⟨registered, readerSide, done, left, -, count, numbered⟩ := side
  cases left with
  | zero => cases numbered
  | succ left =>
    rw [List.range'_succ] at numbered
    obtain ⟨first, others⟩ := List.cons.inj numbered
    refine ⟨⟨sound.owner.subscribed, sound.owner.closed⟩, registered, readerSide.mono rfl id,
      done + 1, left, ?_, by omega, others⟩
    have ordinal : item.ordinal = done + 1 := first
    rw [ordinal]
    rfl

theorem Sound.fail (sound : Sound session accepted) {reader : Reader} {item : OutboundItem V}
    {written : SessionOrdinalProgress}
    (stage : session.task = .running reader (some item) written) {cause : SessionTransportFailure}
    (later : cause.isInitialPrefix = false) (other : cause ≠ .closeWrite) :
    Sound (session.endTask
      (some ((reader.frozen?.map SessionReaderCompletion.requestedSeal).getD .writerFailed))
      (.transportFailed written cause)) accepted := by
  have side := sound.task
  unfold TaskSide at side
  rw [stage] at side
  obtain ⟨registered, readerSide, done, left, progress, count, -⟩ := side
  refine sound.endTask registered ?_ (fun drains => absurd drains other) ?_ ?_
  · rw [Progress, if_neg other]
    exact ⟨done, by omega, progress⟩
  · intro reason same unrefused
    rw [Option.some.injEq] at same
    cases asks : reader.frozen?.map SessionReaderCompletion.requestedSeal with
    | none =>
      rw [asks] at same
      subst same
      exact ⟨.inr (.inl ⟨rfl, later⟩), fun _ => rfl⟩
    | some requested =>
      rw [asks] at same
      obtain rfl := frozen_request readerSide unrefused asks
      subst same
      exact ⟨.inr (.inr rfl), fun _ => rfl⟩
  · intro same
    cases same

theorem Sound.drain (sound : Sound session accepted) {reader : Reader}
    {written : SessionOrdinalProgress} (stage : session.task = .running reader none written)
    (empty : session.queue = []) (closed : session.senderOpen = false ∨ session.receiverOpen = false)
    (closeSent : Bool) :
    Sound (session.endTask (reader.frozen?.map SessionReaderCompletion.requestedSeal)
      (if closeSent then .drainedThrough written
        else .transportFailed written .closeWrite)) accepted := by
  have side := sound.task
  unfold TaskSide at side
  rw [stage] at side
  obtain ⟨registered, readerSide, done, left, progress, count, numbered⟩ := side
  have all : left = 0 := drained_progress numbered empty rfl
  have whole : written = through accepted := by
    rw [progress, count, all]
    rfl
  refine sound.endTask registered ?_ (fun _ => closed) ?_ ?_
  · cases closeSent
    · exact whole
    · exact whole
  · intro reason same unrefused
    obtain rfl := frozen_request readerSide unrefused same
    exact ⟨.inr (.inr rfl), fun _ => rfl⟩
  · intro running
    have isOpen := readerSide.opened (Option.map_eq_none_iff.mp running)
    refine ⟨?_, isOpen⟩
    have sender : session.senderOpen = false :=
      closed.resolve_right fun shut => by rw [isOpen] at shut; cases shut
    cases subscribed : session.subscriber with
    | none => rfl
    | some subscriber =>
      obtain ⟨-, -, -, isOpen, -⟩ := sound.owner.subscribed subscriber subscribed
      rw [sender] at isOpen
      cases isOpen

theorem Sound.taskStep (sound : Sound session accepted) {serverId : String} {event : TaskEvent V}
    (moved : session.taskStep serverId event = some next) : Sound next accepted := by
  have owner := sound.owner
  have side := sound.task
  unfold Session.taskStep at moved
  split at moved
  case h_1 stage =>
    cases moved
    exact sound.failOpening stage
  case h_2 stage =>
    split at moved
    · cases moved
      unfold TaskSide at side
      rw [stage] at side
      exact ⟨owner.task rfl rfl rfl rfl id, side⟩
    · cases moved
  case h_3 stage =>
    cases moved
    unfold TaskSide at side
    rw [stage] at side
    exact ⟨owner.task rfl rfl rfl rfl id, side⟩
  case h_4 stage =>
    split at moved
    · rename_i initial
      cases moved
      exact sound.failInitial stage initial
    · cases moved
  case h_5 stage =>
    cases moved
    exact sound.start stage
  case h_6 stage =>
    cases moved
    exact sound.goOn stage rfl (.inr rfl)
  case h_7 stage =>
    cases moved
    exact sound.goOn stage rfl (.inr rfl)
  case h_8 stage =>
    split at moved
    · rename_i why
      cases moved
      exact sound.freeze stage (why.imp id .inl)
    · cases moved
  case h_9 stage =>
    cases moved
    exact sound.goOn stage rfl (.inl rfl)
  case h_10 stage =>
    cases moved
    unfold TaskSide at side
    rw [stage] at side
    exact sound.freeze stage (.inr (.inr ⟨rfl, side.2.1.refused rfl⟩))
  case h_11 stage =>
    split at moved
    · cases moved
    · rename_i queue
      cases moved
      exact sound.take stage queue
  case h_12 stage =>
    cases moved
    exact sound.write stage
  case h_13 stage =>
    split at moved
    · rename_i causes
      cases moved
      rcases causes with rfl | rfl | rfl
      · exact sound.fail stage rfl (by decide)
      · exact sound.fail stage rfl (by decide)
      · exact sound.fail stage rfl (by decide)
    · cases moved
  case h_14 stage =>
    split at moved
    · rename_i ended
      cases moved
      rw [Bool.and_eq_true, List.isEmpty_iff, Bool.or_eq_true, Bool.not_eq_true',
        Bool.not_eq_true'] at ended
      exact sound.drain stage ended.1 ended.2 _
    · cases moved
  case h_15 stage =>
    cases moved
    exact sound.finish stage
  case h_16 =>
    split at moved
    · cases moved
      exact ⟨owner.task rfl rfl rfl rfl fun _ => rfl, trivial⟩
    · cases moved
  case h_17 => cases moved

end Tasks

end Decodex.Guarantees.SessionTasks
