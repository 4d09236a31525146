import Decodex.Guarantees.SessionCompletions

/-!
# The order of the publication owner

Source: crates/decodex-runtime/src/websocket.rs:1732-2530. What holds between the steps of an owner
that accepts: its sessions are sound, each registration that waits belongs to a task that waits for
it, a turn answers one connection, and nothing is published while a registration has its cut. Each
handler keeps it.
-/
namespace Decodex.Guarantees.OwnerOrder

open Decodex.Source.Protocol.SessionMessages Decodex.Source.Runtime.Publication
open Decodex.Guarantees.SessionTasks Decodex.Guarantees.SessionCompletions

variable {V : Vocabulary}

/-- The messages that each session has accepted, and those that its task has written. -/
structure Ledger (V : Vocabulary) where
  accepted : Nat → List (ServerMessage V) := fun _ => []
  written : Nat → List (ServerMessage V) := fun _ => []

variable (server : Server V)

def Ledger.after (owner : Owner V) (event : OwnerEvent V) (ledger : Ledger V) : Ledger V :=
  match event with
  | .task connection event =>
    { ledger with
      written := fun other =>
        if other = connection then
          ledger.written other ++ wrote (owner.sessions other) event
        else ledger.written other }
  | .worked (.send connection message _) =>
    { ledger with
      accepted := fun other =>
        if other = connection then
          ledger.accepted other ++
            acceptedOf server.outboundQueueCapacity (owner.sessions other) message
        else ledger.accepted other }
  | _ => ledger

/-- A step, with what it accepts and writes. -/
def LoggedStep (before : Owner V × Ledger V) (event : OwnerEvent V) (next : Owner V × Ledger V) :
    Prop :=
  Step server before.1 event next.1 ∧ next.2 = before.2.after server before.1 event

/-- What the owner stops for. -/
def Faulty (owner : Owner V) : OwnerEvent V → Prop
  | .shutdownRequested | .ingressClosed | .eventsEnded | .taskFailed _ => True
  | .listenerHealth refusal => refusal.isSome = true
  | .refused refusal => refusal.invalidatesListener = true
  | .connected _ => 2 ^ 64 ≤ owner.nextSpawnId server + 1
  | .worked (.publish _ _) => 2 ^ 64 ≤ owner.cursor + 1
  | .worked (.send connection _ _) => Exhausts (owner.sessions connection)
  | .completed (.command none) | .completed (.snapshot none) => True
  | .harvested connection _ => ∃ reason transport,
    (owner.sessions connection).task = .finished (.registered reason transport) ∧
      (transport.isEncodingFailure = true ∨ Races (owner.sessions connection) reason)
  | _ => False

/-- The connection of a registration. -/
def registrationOf : Request V → Option Nat
  | .register connection _ _ => some connection
  | _ => none

/-- The connections whose registration is not answered yet. -/
def registrations (owner : Owner V) : List Nat :=
  (match owner.operation with
    | some (.registrationSnapshot pending) => [pending.connection]
    | _ => []) ++ (owner.deferredRequests ++ owner.ingress).filterMap registrationOf

/-- A work that answers no other connection. -/
def Answers (connection : Nat) : Work V → Prop
  | .send other _ true | .reply other _ => other = connection
  | _ => True

def isReply : Work V → Prop
  | .reply _ _ => True
  | _ => False

def isPublication : Work V → Prop
  | .publish _ _ => True
  | _ => False

/-- What holds between the steps of an owner that accepts. -/
structure Orderly (owner : Owner V) (ledger : Ledger V) : Prop where
  sound : ∀ connection, Sound (owner.sessions connection) (ledger.accepted connection).length
  told : ∀ connection, Told (owner.sessions connection) (ledger.accepted connection)
    (ledger.written connection)
  fresh : ∀ connection, owner.connectionIds ≤ connection →
    owner.sessions connection = {} ∧ ledger.accepted connection = [] ∧
      ledger.written connection = []
  distinct : (registrations owner).Nodup
  registering : ∀ connection ∈ registrations owner,
    (owner.sessions connection).task = .registering
  answers : ∃ connection, (∀ work ∈ owner.agenda, Answers connection work) ∧
    ((∃ work ∈ owner.agenda, isReply work) → owner.delivered = false →
      (owner.sessions connection).subscriber = none)
  cut : ∀ pending, owner.operation = some (.registrationSnapshot pending) →
    pending.baseCursor = owner.cursor
  quiet : owner.operation.isSome = true → ∀ work ∈ owner.agenda, ¬isPublication work

section Steps

variable {server : Server V} {owner : Owner V} {ledger : Ledger V}

theorem sound_absent : Sound ({} : Session V) 0 := by
  refine ⟨⟨?_, ?_⟩, trivial⟩
  · intro subscriber held
    cases held
  · intro sealing held
    cases held

theorem orderly_start : Orderly ({} : Owner V) ({} : Ledger V) := by
  refine ⟨fun _ => sound_absent, fun _ => trivial, fun _ _ => ⟨rfl, rfl, rfl⟩, .nil, ?_,
    ⟨0, ?_, ?_⟩, ?_, ?_⟩
  · intro connection member
    cases member
  · intro work member
    cases member
  · rintro ⟨work, member, -⟩
    cases member
  · intro pending held
    cases held
  · intro active
    cases active

@[simp] theorem withSession_self (connection : Nat) (change : Session V → Session V) :
    (owner.withSession connection change).sessions connection =
      change (owner.sessions connection) := by
  simp [Owner.withSession]

theorem withSession_other {connection other : Nat} (change : Session V → Session V)
    (different : other ≠ connection) :
    (owner.withSession connection change).sessions other = owner.sessions other := by
  simp [Owner.withSession, different]

/-- One session changes. -/
theorem Orderly.change (orderly : Orderly owner ledger) {connection : Nat}
    (change : Session V → Session V) (next : Ledger V)
    (sound : Sound (change (owner.sessions connection)) (next.accepted connection).length)
    (told : Told (change (owner.sessions connection)) (next.accepted connection)
      (next.written connection))
    (others : ∀ other, other ≠ connection → next.accepted other = ledger.accepted other ∧
      next.written other = ledger.written other)
    (fresh : owner.connectionIds ≤ connection → change (owner.sessions connection) = {} ∧
      next.accepted connection = [] ∧ next.written connection = [])
    (registering : connection ∈ registrations owner →
      (change (owner.sessions connection)).task = .registering)
    (unsubscribed : (owner.sessions connection).subscriber = none →
      (∃ work ∈ owner.agenda, isReply work) →
        (change (owner.sessions connection)).subscriber = none) :
    Orderly (owner.withSession connection change) next := by
  refine ⟨?_, ?_, ?_, orderly.distinct, ?_, ?_, orderly.cut, orderly.quiet⟩
  · intro other
    by_cases same : other = connection
    · subst same
      rw [withSession_self]
      exact sound
    · rw [withSession_other change same, (others other same).1]
      exact orderly.sound other
  · intro other
    by_cases same : other = connection
    · subst same
      rw [withSession_self]
      exact told
    · rw [withSession_other change same, (others other same).1, (others other same).2]
      exact orderly.told other
  · intro other above
    by_cases same : other = connection
    · subst same
      rw [withSession_self]
      exact fresh above
    · rw [withSession_other change same, (others other same).1, (others other same).2]
      exact orderly.fresh other above
  · intro other member
    by_cases same : other = connection
    · subst same
      rw [withSession_self]
      exact registering member
    · rw [withSession_other change same]
      exact orderly.registering other member
  · obtain ⟨answered, answers, lost⟩ := orderly.answers
    refine ⟨answered, answers, ?_⟩
    intro reply undelivered
    have none := lost reply undelivered
    by_cases same : answered = connection
    · subst same
      rw [withSession_self]
      exact unsubscribed none reply
    · rw [withSession_other change same]
      exact none

/-- One session changes; it is known, and no registration waits for it. -/
theorem Orderly.withSession (orderly : Orderly owner ledger) {connection : Nat}
    (change : Session V → Session V)
    (sound : Sound (change (owner.sessions connection)) (ledger.accepted connection).length)
    (told : Told (change (owner.sessions connection)) (ledger.accepted connection)
      (ledger.written connection))
    (known : connection < owner.connectionIds) (settled : connection ∉ registrations owner)
    (unsubscribed : (owner.sessions connection).subscriber = none →
      (∃ work ∈ owner.agenda, isReply work) →
        (change (owner.sessions connection)).subscriber = none) :
    Orderly (owner.withSession connection change) ledger := by
  refine orderly.change change ledger sound told (fun _ _ => ⟨rfl, rfl⟩) ?_ ?_ unsubscribed
  · intro above
    omega
  · intro member
    exact absurd member settled

/-- An owner whose sessions are as before. -/
theorem Orderly.rearrange (orderly : Orderly owner ledger) {next : Owner V}
    (sessions : next.sessions = owner.sessions) (ids : next.connectionIds = owner.connectionIds)
    (distinct : (registrations next).Nodup)
    (registering : ∀ connection ∈ registrations next,
      (owner.sessions connection).task = .registering)
    (answers : ∃ connection, (∀ work ∈ next.agenda, Answers connection work) ∧
      ((∃ work ∈ next.agenda, isReply work) → next.delivered = false →
        (owner.sessions connection).subscriber = none))
    (cut : ∀ pending, next.operation = some (.registrationSnapshot pending) →
      pending.baseCursor = next.cursor)
    (quiet : next.operation.isSome = true → ∀ work ∈ next.agenda, ¬isPublication work) :
    Orderly next ledger := by
  refine ⟨?_, ?_, ?_, distinct, ?_, ?_, cut, quiet⟩
  · rw [sessions]
    exact orderly.sound
  · rw [sessions]
    exact orderly.told
  · rw [sessions, ids]
    exact orderly.fresh
  · rw [sessions]
    exact registering
  · rw [sessions]
    exact answers

theorem answers_nil {sessions : Nat → Session V} {delivered : Bool} : ∃ connection,
    (∀ work ∈ ([] : List (Work V)), Answers connection work) ∧
      ((∃ work ∈ ([] : List (Work V)), isReply work) → delivered = false →
        (sessions connection).subscriber = none) := by
  refine ⟨0, List.forall_mem_nil _, ?_⟩
  rintro ⟨work, member, -⟩
  cases member

/-- A request that waits in none of the queues. -/
def Taken (owner : Owner V) (request : Request V) : Prop :=
  ∀ connection, registrationOf request = some connection →
    connection ∉ registrations owner ∧ (owner.sessions connection).task = .registering

/-- Taking a request out of its queue. -/
theorem Orderly.take (orderly : Orderly owner ledger) (next : Owner V)
    {request : Request V} (sessions : next.sessions = owner.sessions)
    (ids : next.connectionIds = owner.connectionIds) (agenda : next.agenda = [])
    (operation : next.operation = owner.operation) (cursor : next.cursor = owner.cursor)
    (taken : ((registrationOf request).toList ++ registrations next).Perm (registrations owner)) :
    Orderly next ledger ∧ Taken next request := by
  have distinct := taken.nodup_iff.mpr orderly.distinct
  have inner : ∀ connection ∈ registrations next, connection ∈ registrations owner :=
    fun connection member => taken.mem_iff.mp (List.mem_append_right _ member)
  refine ⟨orderly.rearrange sessions ids distinct.of_append_right ?_ ?_ ?_ ?_, ?_⟩
  · intro connection member
    exact orderly.registering connection (inner connection member)
  · rw [agenda]
    exact answers_nil
  · rw [operation, cursor]
    exact orderly.cut
  · rw [agenda]
    exact fun _ => List.forall_mem_nil _
  · intro connection held
    rw [held] at taken distinct
    rw [sessions]
    have apart := List.nodup_cons.mp distinct
    exact ⟨apart.1, orderly.registering connection (taken.mem_iff.mp (by simp))⟩

theorem filterMap_single (request : Request V) :
    [request].filterMap registrationOf = (registrationOf request).toList := by
  cases held : registrationOf request <;> simp [held]

theorem take_received {request : Request V} {rest : List (Request V)}
    (next : owner.ingress = request :: rest) :
    ((registrationOf request).toList ++ registrations { owner with ingress := rest }).Perm
      (registrations owner) := by
  unfold registrations
  dsimp only
  rw [next, ← List.singleton_append, ← List.append_assoc owner.deferredRequests]
  simp only [List.filterMap_append, filterMap_single, ← List.append_assoc]
  refine List.Perm.append_right _ ?_
  rw [List.append_assoc]
  exact List.perm_append_comm

theorem take_resumed {request : Request V} {rest : List (Request V)}
    (next : owner.deferredRequests = request :: rest) :
    ((registrationOf request).toList ++ registrations { owner with deferredRequests := rest }).Perm
      (registrations owner) := by
  unfold registrations
  dsimp only
  rw [next, ← List.singleton_append]
  simp only [List.filterMap_append, filterMap_single, ← List.append_assoc]
  refine List.Perm.append_right _ (List.Perm.append_right _ ?_)
  exact List.perm_append_comm

/-- Deferring a request. -/
theorem Orderly.defer (orderly : Orderly owner ledger) (ended : owner.agenda = [])
    {request : Request V} (taken : Taken owner request) :
    Orderly { owner with deferredRequests := owner.deferredRequests ++ [request] } ledger := by
  have put : (registrations { owner with
      deferredRequests := owner.deferredRequests ++ [request] }).Perm
        ((registrationOf request).toList ++ registrations owner) := by
    unfold registrations
    dsimp only
    simp only [List.filterMap_append, filterMap_single, ← List.append_assoc]
    refine List.Perm.append_right _ ?_
    rw [List.append_assoc (registrationOf request).toList]
    exact List.perm_append_comm
  refine orderly.rearrange rfl rfl ?_ ?_ ?_ orderly.cut ?_
  · rw [put.nodup_iff]
    cases held : registrationOf request with
    | none => exact orderly.distinct
    | some connection =>
      exact List.nodup_cons.mpr ⟨(taken connection held).1, orderly.distinct⟩
  · intro connection member
    rcases List.mem_append.mp (put.mem_iff.mp member) with new | old
    · exact (taken connection (by simpa using new)).2
    · exact orderly.registering connection old
  · dsimp only
    rw [ended]
    exact answers_nil
  · dsimp only
    rw [ended]
    exact fun _ => List.forall_mem_nil _

/-- Publications on an agenda answer nobody. -/
theorem Orderly.flush (orderly : Orderly owner ledger) (ended : owner.agenda = []) :
    Orderly owner.flushDeferredEvents ledger := by
  unfold Owner.flushDeferredEvents
  split
  · exact orderly
  · rename_i idle
    have idle : owner.operation = none := by simpa using idle
    refine orderly.rearrange rfl rfl orderly.distinct orderly.registering ⟨0, ?_, ?_⟩ orderly.cut ?_
    · dsimp only
      rw [ended, List.nil_append]
      simp [Answers]
    · dsimp only
      rw [ended, List.nil_append]
      simp [isReply]
    · dsimp only
      rw [idle]
      intro active
      cases active

theorem nothing_of_registering {session : Session V} {accepted written : List (ServerMessage V)}
    (told : Told session accepted written) (stage : session.task = .registering) :
    accepted = [] ∧ written = [] := by
  unfold Told at told
  rw [stage] at told
  exact told

theorem Orderly.known (orderly : Orderly owner ledger) {connection : Nat}
    (owned : (owner.sessions connection).task ≠ .absent) : connection < owner.connectionIds := by
  by_contra above
  rw [(orderly.fresh connection (by omega)).1] at owned
  exact owned rfl

theorem Orderly.refuse (orderly : Orderly owner ledger) {connection : Nat}
    (settled : connection ∉ registrations owner)
    (stage : (owner.sessions connection).task = .registering) :
    Orderly (owner.refuseRegistration connection) ledger := by
  have told := orderly.told connection
  obtain ⟨none, nothing⟩ := nothing_of_registering told stage
  refine orderly.withSession _ ((orderly.sound connection).refused stage) ⟨?_, ?_⟩
    (orderly.known (by simp [stage])) settled fun unsubscribed _ => unsubscribed
  · rw [nothing]
    exact List.nil_prefix
  · intro reason transport held
    cases held

theorem Orderly.register (orderly : Orderly owner ledger) (ended : owner.agenda = [])
    {connection : Nat} (settled : connection ∉ registrations owner)
    (stage : (owner.sessions connection).task = .registering) (version : ProtocolVersion)
    (messages : List (ServerMessage V)) :
    Orderly (owner.registerSession connection version messages) ledger := by
  have told := orderly.told connection
  obtain ⟨none, nothing⟩ := nothing_of_registering told stage
  have sound := orderly.sound connection
  have side := sound.task
  unfold TaskSide at side
  rw [stage] at side
  unfold Owner.registerSession
  refine orderly.withSession _ ?_ ?_ (orderly.known (by simp [stage])) settled ?_
  · rw [none]
    dsimp only
    rw [stage]
    exact sound.registered stage version messages
  · rw [none, nothing]
    dsimp only
    rw [stage]
    refine ⟨rfl, ?_⟩
    dsimp only
    rw [side.2.1]
    rfl
  · rw [ended]
    rintro - ⟨work, member, -⟩
    cases member

theorem unowned_of_registering {session : Session V} {count : Nat} (sound : Sound session count)
    (stage : session.task = .registering) : session.containsSession = false := by
  have side := sound.task
  unfold TaskSide at side
  rw [stage] at side
  unfold Session.containsSession
  rw [side.1.1, side.1.2]
  rfl

/-- A registration is answered, and only the application's panic stops the owner. -/
theorem Orderly.finishRegistration (server : Server V) (orderly : Orderly owner ledger)
    (ended : owner.agenda = [])
    {pending : PendingRegistrationSnapshot} (settled : pending.connection ∉ registrations owner)
    (stage : (owner.sessions pending.connection).task = .registering)
    (cut : pending.baseCursor = owner.cursor) (items : List V.SnapshotItem) :
    Orderly (owner.finishRegistrationSnapshot server pending (some items)) ledger ∧
      (owner.finishRegistrationSnapshot server pending (some items)).directive =
        owner.directive := by
  have absent := unowned_of_registering (orderly.sound pending.connection) stage
  have kept : ∀ owner : Owner V, owner.flushDeferredEvents.directive = owner.directive := by
    intro owner
    unfold Owner.flushDeferredEvents
    split <;> rfl
  unfold Owner.finishRegistrationSnapshot
  dsimp only
  split
  · exact ⟨(orderly.refuse settled stage).flush ended, kept _⟩
  · rw [if_neg (by simp [cut, absent])]
    exact ⟨(orderly.register ended settled stage _ _).flush ended, kept _⟩

/-- What a turn sends and answers is for one connection. -/
theorem Orderly.answer (orderly : Orderly owner ledger) (idle : owner.operation = none)
    (connection : Nat) (receipt : CommandReceipt) (result : CommandResultEnvelope V) :
    Orderly (owner.answerCommand connection receipt result) ledger := by
  refine orderly.rearrange rfl rfl orderly.distinct orderly.registering ⟨connection, ?_, ?_⟩
    orderly.cut ?_
  · simp [Owner.answerCommand, Answers]
  · intro reply undelivered
    cases undelivered
  · intro active
    have active : owner.operation.isSome = true := active
    rw [idle] at active
    cases active

theorem Orderly.start (orderly : Orderly owner ledger) (ended : owner.agenda = [])
    (idle : owner.operation = none) {operation : Operation V}
    (settled : ∀ pending, operation = .registrationSnapshot pending →
      pending.connection ∉ registrations owner ∧
        (owner.sessions pending.connection).task = .registering ∧
        pending.baseCursor = owner.cursor) :
    Orderly { owner with operation := some operation } ledger := by
  have listed : ∀ connection,
      connection ∈ registrations { owner with operation := some operation } →
      connection ∈ registrations owner ∨ ∃ pending,
        operation = .registrationSnapshot pending ∧ connection = pending.connection := by
    intro connection member
    unfold registrations at member ⊢
    rw [idle]
    cases operation with
    | command active => exact .inl member
    | registrationSnapshot pending =>
      rcases List.mem_cons.mp member with same | old
      · exact .inr ⟨pending, rfl, same⟩
      · exact .inl old
  refine orderly.rearrange rfl rfl ?_ ?_ ?_ ?_ ?_
  · have distinct := orderly.distinct
    unfold registrations at distinct settled ⊢
    rw [idle] at distinct settled
    cases operation with
    | command active => exact distinct
    | registrationSnapshot pending =>
      exact List.nodup_cons.mpr ⟨(settled pending rfl).1, distinct⟩
  · intro connection member
    rcases listed connection member with old | ⟨pending, same, rfl⟩
    · exact orderly.registering connection old
    · exact (settled pending same).2.1
  · dsimp only
    rw [ended]
    exact answers_nil
  · intro pending held
    cases held
    exact (settled pending rfl).2.2
  · dsimp only
    rw [ended]
    exact fun _ => List.forall_mem_nil _

theorem Orderly.handleCommand (orderly : Orderly owner ledger) (ended : owner.agenda = [])
    (idle : owner.operation = none) (connection : Nat) (command : CommandEnvelope V)
    (version : ProtocolVersion) :
    Orderly (owner.handleCommandRequest server connection command version) ledger ∧
      (owner.handleCommandRequest server connection command version).directive =
        owner.directive := by
  unfold Owner.handleCommandRequest
  dsimp only
  split
  · exact ⟨orderly.answer idle _ _ _, rfl⟩
  · split
    · exact ⟨orderly.answer idle _ _ _, rfl⟩
    · refine ⟨orderly.start ended idle ?_, rfl⟩
      intro pending held
      cases held

/-- A request that is taken stops no owner. -/
theorem Orderly.handleRequest (server : Server V) (orderly : Orderly owner ledger)
    (ended : owner.agenda = [])
    {request : Request V} (taken : Taken owner request)
    (independent : Option (List V.SnapshotItem)) :
    Orderly (owner.handleRequest server independent request) ledger ∧
      (owner.handleRequest server independent request).directive = owner.directive := by
  unfold Owner.handleRequest
  split
  · rename_i connection hello version
    obtain ⟨settled, stage⟩ := taken connection rfl
    have absent := unowned_of_registering (orderly.sound connection) stage
    split
    · exact ⟨orderly.defer ended taken, rfl⟩
    rename_i ready
    rw [absent, if_neg Bool.false_ne_true]
    dsimp only
    split
    · exact orderly.finishRegistration server ended settled stage rfl _
    · have idle : owner.operation = none := by simpa using ready
      refine ⟨orderly.start ended idle ?_, rfl⟩
      intro pending held
      cases held
      exact ⟨settled, stage, rfl⟩
  · rename_i connection message
    refine ⟨orderly.rearrange rfl rfl orderly.distinct orderly.registering ⟨connection, ?_, ?_⟩
      orderly.cut ?_, rfl⟩
    · simp [Answers]
    · intro reply undelivered
      cases undelivered
    · simp [isPublication]
  · split
    · exact ⟨orderly.defer ended taken, rfl⟩
    · rename_i idle
      exact orderly.handleCommand ended (by simpa using idle) _ _ _

theorem stop_beginStopping (owner : Owner V) (cause : StopCause) :
    (owner.stop (.beginStopping cause)).directive ≠ .proceed := by
  unfold Owner.stop
  cases owner.directive <;> simp [OwnerDirective.combine]

theorem stop_proceed (owner : Owner V) : owner.stop .proceed = owner := by
  unfold Owner.stop
  cases held : owner.directive <;> simp only [OwnerDirective.combine, ← held]

/-- What a step does: it stops the owner for a fault, and keeps the order otherwise. -/
def Proceeds (server : Server V) (owner : Owner V) (ledger : Ledger V) (event : OwnerEvent V)
    (next : Owner V) : Prop :=
  (Faulty server owner event → next.directive ≠ .proceed) ∧
    (¬Faulty server owner event →
      Orderly next (ledger.after server owner event) ∧ next.directive = .proceed)

theorem Orderly.finishCommand (orderly : Orderly owner ledger)
    (accepting : owner.directive = .proceed) {active : ActiveCommand V}
    (idle : owner.operation = none)
    (execution : Except (CommandError V) (ApplicationPublication V)) :
    Orderly (owner.finishActiveCommand server active (some execution)) ledger ∧
      (owner.finishActiveCommand server active (some execution)).directive = .proceed := by
  unfold Owner.finishActiveCommand
  dsimp only
  refine ⟨orderly.rearrange ?_ ?_ ?_ ?_ ⟨active.connection, ?_, ?_⟩ ?_ ?_, ?_⟩
  · split <;> rfl
  · split <;> rfl
  · split <;> exact orderly.distinct
  · split <;> exact orderly.registering
  · intro work member
    simp only [List.mem_append, List.mem_cons, List.not_mem_nil, or_false, List.mem_map] at member
    rcases member with ((sent | published) | ⟨publication, -, rfl⟩) | rfl
    · rcases sent with rfl | rfl <;> rfl
    · cases held : (resultFromExecution server active.command active.version execution).2 with
      | none =>
        rw [held] at published
        cases published
      | some publication =>
        rw [held] at published
        simp only [Option.map_some, Option.getD_some] at published
        unfold Owner.publicationOf at published
        split at published
        · rw [List.mem_singleton] at published
          subst published
          trivial
        · cases published
    · trivial
    · rfl
  · intro reply undelivered
    cases undelivered
  · split <;> exact orderly.cut
  · intro active
    split at active
    · have active : owner.operation.isSome = true := active
      rw [idle] at active
      cases active
    · have active : owner.operation.isSome = true := active
      rw [idle] at active
      cases active
  · split <;> exact accepting

theorem Orderly.finishOperation (orderly : Orderly owner ledger) (waits : owner.Waits)
    {completion : Completion V} (expected : owner.expects completion = true) :
    Proceeds server owner ledger (.completed completion)
      (owner.finishOperation server completion) := by
  unfold Owner.expects at expected
  unfold Owner.finishOperation
  cases held : owner.operation with
  | none =>
    rw [held] at expected
    cases completion <;> cases expected
  | some operation =>
    have idle : Orderly { owner with operation := none } ledger := by
      have sub : ∀ connection ∈ registrations { owner with operation := none },
          connection ∈ registrations owner := by
        intro connection member
        unfold registrations at member ⊢
        rw [List.nil_append] at member
        exact List.mem_append_right _ member
      have distinct := orderly.distinct
      unfold registrations at distinct
      refine orderly.rearrange rfl rfl distinct.of_append_right
        (fun connection member => orderly.registering connection (sub connection member))
        orderly.answers ?_ ?_
      · intro pending none
        cases none
      · intro active
        cases active
    have waiting : ({ owner with operation := none } : Owner V).directive = .proceed :=
      waits.directive
    cases completion with
    | command execution =>
      cases operation with
      | registrationSnapshot pending =>
        rw [held] at expected
        cases expected
      | command active =>
        dsimp only
        cases execution with
        | none =>
          refine ⟨fun _ => ?_, fun sane => absurd trivial sane⟩
          exact stop_beginStopping { owner with operation := none } .ownerIntegrity
        | some execution =>
          refine ⟨fun faulty => absurd faulty id, fun _ => ?_⟩
          exact idle.finishCommand waits.directive rfl execution
    | snapshot items =>
      cases operation with
      | command active =>
        rw [held] at expected
        cases expected
      | registrationSnapshot pending =>
        dsimp only
        have distinct := orderly.distinct
        have listed : registrations owner =
            pending.connection :: registrations { owner with operation := none } := by
          unfold registrations
          rw [held]
          rfl
        rw [listed] at distinct
        cases items with
        | none =>
          refine ⟨fun _ => ?_, fun sane => absurd trivial sane⟩
          exact stop_beginStopping _ .ownerIntegrity
        | some items =>
          refine ⟨fun faulty => absurd faulty id, fun _ => ?_⟩
          obtain ⟨next, directive⟩ := idle.finishRegistration server waits.agenda
            (List.nodup_cons.mp distinct).1
            (orderly.registering _ (by rw [listed]; exact List.mem_cons_self))
            (orderly.cut pending held) items
          exact ⟨next, directive.trans waiting⟩

theorem Orderly.handleAccepted (orderly : Orderly owner ledger) (waits : owner.Waits) :
    Proceeds server owner ledger (.connected owner.connectionIds)
      (owner.handleAccepted server (.ok ())) := by
  have absent := orderly.fresh owner.connectionIds le_rfl
  have grown : Orderly { owner with connectionIds := owner.connectionIds + 1 } ledger := by
    refine ⟨orderly.sound, orderly.told, ?_, orderly.distinct, orderly.registering, orderly.answers,
      orderly.cut, orderly.quiet⟩
    intro connection above
    have above : owner.connectionIds + 1 ≤ connection := above
    exact orderly.fresh connection (by omega)
  unfold Owner.handleAccepted
  dsimp only
  rw [if_neg (not_not.mpr waits.directive)]
  refine ⟨fun exhausted => ?_, fun spare => ?_⟩
  · have exhausted : 2 ^ 64 ≤ owner.nextSpawnId server + 1 := exhausted
    rw [if_pos exhausted]
    exact stop_beginStopping _ _
  have spare : ¬2 ^ 64 ≤ owner.nextSpawnId server + 1 := spare
  rw [if_neg spare]
  refine ⟨?_, waits.directive⟩
  refine grown.withSession (fun session => { session with task := .opening }) ?_ ?_
    (Nat.lt_succ_self _) ?_ fun unsubscribed _ => unsubscribed
  · dsimp only
    rw [absent.1, absent.2.1]
    exact sound_opened
  · exact ⟨absent.2.1, absent.2.2⟩
  · intro member
    have stage := orderly.registering _ member
    rw [absent.1] at stage
    cases stage

/-- A connection that was refused stops the owner when the refusal is of the listener. -/
theorem Orderly.handleRefused (orderly : Orderly owner ledger)
    (accepting : owner.directive = .proceed) (refusal : LocalTransportRefusal) :
    Proceeds server owner ledger (.refused refusal)
      (owner.handleAccepted server (.error refusal)) := by
  unfold Owner.handleAccepted
  dsimp only
  refine ⟨fun invalid => ?_, fun valid => ?_⟩
  · have invalid : refusal.invalidatesListener = true := invalid
    rw [if_pos invalid]
    exact stop_beginStopping _ _
  · have valid : ¬refusal.invalidatesListener = true := valid
    rw [if_neg valid]
    exact ⟨orderly, accepting⟩

theorem harvestFailure_stops (server : Server V) (owner : Owner V) (failure : TaskFailure) :
    (owner.harvestFailure server failure).directive ≠ .proceed := by
  unfold Owner.harvestFailure
  split <;> exact stop_beginStopping _ _

theorem directiveForClassification_proceed (identity : OwnedTaskIdentity)
    (classification : SessionCompletionClassification) (other : classification ≠ .deadline) :
    Owner.directiveForClassification identity classification = .proceed ↔
      classification ≠ .invalid ∧ classification ≠ .transportFailed := by
  cases classification <;> simp_all [Owner.directiveForClassification]

theorem stop_directive (owner : Owner V) {directive : OwnerDirective}
    (accepting : owner.directive = .proceed) : (owner.stop directive).directive = directive := by
  unfold Owner.stop
  rw [accepting]
  rfl

theorem classificationOfTransport_failed (transport : SessionTransportDisposition) :
    (classificationOfTransport transport = .transportFailed ↔
      transport.isEncodingFailure = true) ∧ classificationOfTransport transport ≠ .deadline := by
  cases transport with
  | drainedThrough written =>
    simp [classificationOfTransport, SessionTransportDisposition.isEncodingFailure]
  | transportFailed written cause =>
    simp only [classificationOfTransport, SessionTransportDisposition.isEncodingFailure]
    split
    · rename_i encoding
      simp [encoding]
    · rename_i sent
      simp [sent]

/-- The classification of a harvest is that of a fault, or it is not. -/
theorem Orderly.harvest (orderly : Orderly owner ledger) (accepting : owner.directive = .proceed)
    {connection : Nat} {completion : SessionTaskCompletion}
    (returned : (owner.sessions connection).task = .finished completion) :
    Proceeds server owner ledger (.harvested connection (owner.harvestTask server connection completion).2)
      (owner.harvestTask server connection completion).1 := by
  have sound := orderly.sound connection
  obtain ⟨classified, taken⟩ := Sound.reconciles sound returned
  have settled : connection ∉ registrations owner := by
    intro member
    have stage := orderly.registering connection member
    rw [returned] at stage
    cases stage
  have timely :
      ((owner.sessions connection).reconcileSessionCompletion completion).2 ≠ .deadline := by
    cases completion with
    | unregistered =>
      rw [show _ = SessionCompletionClassification.unregistered from classified]
      decide
    | registered reason transport =>
      by_cases race : Races (owner.sessions connection) reason
      · rw [classified.1 race]
        decide
      · rw [classified.2 race]
        exact (classificationOfTransport_failed transport).2
  have proceeds : (owner.harvestTask server connection completion).1.directive = .proceed ↔
      ((owner.sessions connection).reconcileSessionCompletion completion).2 ≠ .invalid ∧
        ((owner.sessions connection).reconcileSessionCompletion completion).2 ≠
          .transportFailed := by
    rw [← directiveForClassification_proceed (Owner.sessionIdentity server connection) _ timely]
    unfold Owner.harvestTask
    dsimp only
    rw [stop_directive (owner.withSession _ _) accepting]
  have sane : (owner.harvestTask server connection completion).1.directive = .proceed ↔
      ¬Faulty server owner (.harvested connection (owner.harvestTask server connection completion).2) := by
    rw [proceeds]
    constructor
    · rintro ⟨valid, sent⟩ ⟨reason, transport, stage, cause⟩
      rw [returned] at stage
      cases stage
      by_cases race : Races (owner.sessions connection) reason
      · exact valid (classified.1 race)
      · rw [classified.2 race] at sent
        exact sent ((classificationOfTransport_failed transport).1.mpr (cause.resolve_right race))
    · intro sane
      cases completion with
      | unregistered =>
        rw [show _ = SessionCompletionClassification.unregistered from classified]
        decide
      | registered reason transport =>
        have free : ¬Races (owner.sessions connection) reason :=
          fun race => sane ⟨reason, transport, returned, .inr race⟩
        rw [classified.2 free]
        refine ⟨classificationOfTransport_valid transport, fun failed => ?_⟩
        exact sane ⟨reason, transport, returned,
          .inl ((classificationOfTransport_failed transport).1.mp failed)⟩
  refine ⟨fun faulty going => (sane.mp going) faulty, fun clean => ?_⟩
  have going := sane.mpr clean
  refine ⟨?_, going⟩
  have valid := (proceeds.mp going).1
  obtain ⟨unsubscribed, unsealed⟩ := taken valid
  unfold Owner.harvestTask
  dsimp only
  rw [if_neg valid, (directiveForClassification_proceed _ _ timely).mpr (proceeds.mp going),
    stop_proceed]
  refine orderly.withSession _ ⟨⟨?_, ?_⟩, trivial⟩ trivial
    (orderly.known (by simp [returned])) settled fun _ _ => unsubscribed
  · intro subscriber held
    rw [unsubscribed] at held
    cases held
  · intro sealing held
    rw [unsealed] at held
    cases held

theorem taskStep_subscriber {session next : Session V} {serverId : String} {event : TaskEvent V}
    (moved : session.taskStep serverId event = some next) :
    next.subscriber = session.subscriber := by
  unfold Session.taskStep at moved
  split at moved <;> (try split at moved) <;> cases moved <;> rfl

/-- What is left of an agenda. -/
theorem Orderly.pop (orderly : Orderly owner ledger) {work : Work V} {rest : List (Work V)}
    (next : owner.agenda = work :: rest) : Orderly { owner with agenda := rest } ledger := by
  obtain ⟨connection, answers, lost⟩ := orderly.answers
  rw [next] at answers lost
  refine orderly.rearrange rfl rfl orderly.distinct orderly.registering ⟨connection, ?_, ?_⟩
    orderly.cut ?_
  · intro other member
    exact answers other (List.mem_cons_of_mem _ member)
  · rintro ⟨other, member, reply⟩
    exact lost ⟨other, List.mem_cons_of_mem _ member, reply⟩
  · intro active other member
    have quiet := orderly.quiet active
    rw [next] at quiet
    exact quiet other (List.mem_cons_of_mem _ member)

theorem Orderly.workPublish (orderly : Orderly owner ledger)
    (accepting : owner.directive = .proceed) {version : ProtocolVersion}
    {publication : EventPublication V} {rest : List (Work V)}
    (next : owner.agenda = .publish version publication :: rest) (visited : List Nat) :
    Proceeds server owner ledger (.worked (.publish version publication))
      (owner.work server visited) := by
  unfold Owner.work
  rw [next]
  unfold Owner.publishEventLocked
  dsimp only
  refine ⟨fun exhausted => ?_, fun spare => ?_⟩
  · have exhausted : 2 ^ 64 ≤ owner.cursor + 1 := exhausted
    rw [if_pos exhausted]
    exact stop_beginStopping _ _
  · have spare : ¬2 ^ 64 ≤ owner.cursor + 1 := spare
    rw [if_neg spare]
    have idle : owner.operation = none := by
      by_contra active
      have quiet := orderly.quiet (Option.isSome_iff_ne_none.mpr active)
      rw [next] at quiet
      exact quiet _ List.mem_cons_self trivial
    obtain ⟨connection, answers, lost⟩ := orderly.answers
    rw [next] at answers lost
    have silent : ∀ work ∈ ({ owner with agenda := rest } : Owner V).eventSends
        visited (Owner.eventOf server version (owner.cursor + 1) publication),
        ∃ other message, work = .send other message false := by
      intro work member
      unfold Owner.eventSends at member
      obtain ⟨other, -, sent⟩ := List.mem_filterMap.mp member
      obtain ⟨subscriber, -, supported⟩ := Option.bind_eq_some_iff.mp sent
      split at supported
      · exact ⟨other, _, (Option.some.inj supported).symm⟩
      · cases supported
    refine ⟨orderly.rearrange rfl rfl orderly.distinct orderly.registering
      ⟨connection, ?_, ?_⟩ ?_ ?_, accepting⟩
    · intro work member
      rcases List.mem_append.mp member with sent | old
      · obtain ⟨other, message, rfl⟩ := silent work sent
        trivial
      · exact answers work (List.mem_cons_of_mem _ old)
    · rintro ⟨work, member, reply⟩
      rcases List.mem_append.mp member with sent | old
      · obtain ⟨other, message, rfl⟩ := silent work sent
        cases reply
      · exact lost ⟨work, List.mem_cons_of_mem _ old, reply⟩
    · intro pending held
      have held : owner.operation = some (.registrationSnapshot pending) := held
      rw [idle] at held
      cases held
    · intro active
      have active : owner.operation.isSome = true := active
      rw [idle] at active
      cases active

theorem answerReader_eq (session : Session V) (delivered : Bool) :
    session.answerReader delivered = session ∨ ∃ item progress,
      session.task = .running .waiting item progress ∧ session.answerReader delivered =
        { session with task := .running (.answered delivered) item progress } := by
  unfold Session.answerReader
  split
  · rename_i item progress stage
    exact .inr ⟨item, progress, stage, rfl⟩
  · exact .inl rfl

theorem Orderly.workReply (orderly : Orderly owner ledger)
    (accepting : owner.directive = .proceed) {connection : Nat} {whileSubscribed : Bool}
    {rest : List (Work V)} (next : owner.agenda = .reply connection whileSubscribed :: rest)
    (visited : List Nat) :
    Proceeds server owner ledger (.worked (.reply connection whileSubscribed))
      (owner.work server visited) := by
  have popped := orderly.pop next
  obtain ⟨answered, answers, lost⟩ := orderly.answers
  rw [next] at answers lost
  obtain rfl : connection = answered := answers _ List.mem_cons_self
  unfold Owner.work
  rw [next]
  dsimp only
  refine ⟨fun faulty => absurd faulty id, fun _ => ⟨?_, accepting⟩⟩
  refine popped.change (fun session => session.answerReader
    (owner.delivered && (!whileSubscribed || session.subscriber.isSome))) ledger ?_ ?_
    (fun _ _ => ⟨rfl, rfl⟩) ?_ ?_ ?_
  · refine (orderly.sound connection).answerReader ?_
    intro undelivered
    rw [Bool.and_eq_false_iff] at undelivered
    rcases undelivered with undelivered | unsubscribed
    · exact lost ⟨_, List.mem_cons_self, trivial⟩ undelivered
    · cases whileSubscribed with
      | false => cases unsubscribed
      | true => simpa using unsubscribed
  · exact (orderly.told connection).answerReader _
  · intro above
    have absent := orderly.fresh connection above
    dsimp only
    rw [absent.1]
    exact ⟨rfl, absent.2⟩
  · intro member
    have stage := orderly.registering connection member
    dsimp only
    unfold Session.answerReader
    rw [stage]
    exact stage
  · intro unsubscribed _
    dsimp only
    rcases answerReader_eq (owner.sessions connection) (owner.delivered && (!whileSubscribed ||
        (owner.sessions connection).subscriber.isSome)) with same | ⟨item, progress, -, same⟩
    · rw [same]
      exact unsubscribed
    · rw [same]
      exact unsubscribed

theorem Orderly.workSend (orderly : Orderly owner ledger)
    (accepting : owner.directive = .proceed) {connection : Nat} {message : ServerMessage V}
    {counted : Bool} {rest : List (Work V)}
    (next : owner.agenda = .send connection message counted :: rest) (visited : List Nat) :
    Proceeds server owner ledger (.worked (.send connection message counted))
      (owner.work server visited) := by
  have sound := orderly.sound connection
  have told := orderly.told connection
  have popped := orderly.pop next
  have kept := exhausts_iff sound.owner server.outboundQueueCapacity message
  unfold Owner.work
  rw [next]
  dsimp only
  refine ⟨fun exhausted going => ?_, fun spare => ?_⟩
  · exact kept.mp ((stop_directive (owner.withSession connection _) accepting).symm.trans going)
      exhausted
  have spare : ¬Exhausts (owner.sessions connection) := spare
  rw [kept.mpr spare, stop_proceed]
  refine ⟨?_, accepting⟩
  have changed : Orderly ({ owner with agenda := rest }.withSession connection fun _ =>
      ((owner.sessions connection).acceptForSession server.outboundQueueCapacity message).1)
      (ledger.after server owner (.worked (.send connection message counted))) := by
    refine popped.change _ _ ?_ ?_ ?_ ?_ ?_ ?_
    · simp only [Ledger.after, if_pos]
      exact Sound.accepts sound _ message spare
    · simp only [Ledger.after, if_pos]
      exact told.accepts sound _ message spare
    · intro other different
      simp only [Ledger.after, if_neg different]
      exact ⟨trivial, trivial⟩
    · intro above
      have absent := orderly.fresh connection above
      have unsubscribed : (owner.sessions connection).subscriber = none := by
        rw [absent.1]
      have unsent : acceptedOf server.outboundQueueCapacity (owner.sessions connection) message =
          [] := by
        rw [absent.1]
        rfl
      simp only [Ledger.after, if_pos]
      rw [subscriber_stays_none _ message unsubscribed, unsent, absent.2.1]
      exact ⟨absent.1, rfl, absent.2.2⟩
    · intro member
      rw [acceptForSession_task _ message sound.owner]
      exact orderly.registering connection member
    · intro unsubscribed _
      have unsubscribed : (owner.sessions connection).subscriber = none := unsubscribed
      rw [subscriber_stays_none _ message unsubscribed]
      exact unsubscribed
  refine changed.rearrange rfl rfl changed.distinct changed.registering ?_ changed.cut changed.quiet
  obtain ⟨answered, answers, lost⟩ := orderly.answers
  rw [next] at answers lost
  refine ⟨answered, fun work member => answers work (List.mem_cons_of_mem _ member), ?_⟩
  rintro ⟨work, member, reply⟩ undelivered
  have undelivered : (owner.delivered && (!counted ||
      ((owner.sessions connection).acceptForSession server.outboundQueueCapacity
        message).2.isAccepted)) = false := undelivered
  rw [Bool.and_eq_false_iff] at undelivered
  rcases undelivered with undelivered | refused
  · have unsubscribed := lost ⟨work, List.mem_cons_of_mem _ member, reply⟩ undelivered
    by_cases same : answered = connection
    · subst same
      rw [withSession_self, subscriber_stays_none _ message unsubscribed]
      exact unsubscribed
    · rw [withSession_other _ same]
      exact unsubscribed
  · rw [Bool.or_eq_false_iff, Bool.not_eq_false'] at refused
    obtain ⟨rfl, refused⟩ := refused
    obtain rfl : connection = answered := answers _ List.mem_cons_self
    rw [withSession_self]
    exact sealed_of_unaccepted sound.owner refused

theorem taskStep_of_registering {session next : Session V} {serverId : String}
    {event : TaskEvent V} (moved : session.taskStep serverId event = some next) :
    session.task ≠ .registering ∧ session.task ≠ .absent := by
  unfold Session.taskStep at moved
  constructor
  · intro stage
    rw [stage] at moved
    cases event <;> cases moved
  · intro stage
    rw [stage] at moved
    cases event <;> cases moved

/-- The registration that a task asks for is its own, and it waits for it. -/
theorem taskStep_registration {session next : Session V} {serverId : String} {connection : Nat}
    {event : TaskEvent V} (moved : session.taskStep serverId event = some next) :
    (requestsOf connection event).filterMap registrationOf = [] ∨
      (requestsOf connection event).filterMap registrationOf = [connection] ∧
        next.task = .registering := by
  cases event with
  | helloReceived hello =>
    right
    unfold Session.taskStep at moved
    cases stage : session.task <;> rw [stage] at moved <;> try cases moved
    dsimp only at moved
    split at moved
    · cases moved
      exact ⟨rfl, rfl⟩
    · cases moved
  | _ => exact .inl rfl

theorem Orderly.task (orderly : Orderly owner ledger) {connection : Nat} {event : TaskEvent V}
    {session : Session V}
    (moved : (owner.sessions connection).taskStep server.serverId event = some session) :
    Orderly { owner.withSession connection fun _ => session with
      ingress := owner.ingress ++ requestsOf connection event }
      (ledger.after server owner (.task connection event)) := by
  obtain ⟨waiting, owned⟩ := taskStep_of_registering moved
  have settled : connection ∉ registrations owner :=
    fun member => waiting (orderly.registering connection member)
  have known := orderly.known owned
  have changed : Orderly (owner.withSession connection fun _ => session)
      (ledger.after server owner (.task connection event)) := by
    refine orderly.change _ _ ?_ ?_ ?_ ?_ ?_ ?_
    · exact (orderly.sound connection).taskStep moved
    · simp only [Ledger.after, if_pos]
      exact (orderly.told connection).taskStep (orderly.sound connection) moved
    · intro other different
      simp only [Ledger.after, if_neg different]
      exact ⟨trivial, trivial⟩
    · intro above
      omega
    · exact fun member => absurd member settled
    · intro unsubscribed _
      rw [taskStep_subscriber moved]
      exact unsubscribed
  have listed : registrations { owner.withSession connection fun _ => session with
      ingress := owner.ingress ++ requestsOf connection event } =
        registrations owner ++ (requestsOf connection event).filterMap registrationOf := by
    unfold registrations
    dsimp only
    rw [← List.append_assoc, List.filterMap_append, ← List.append_assoc]
    rfl
  refine changed.rearrange rfl rfl ?_ ?_ changed.answers changed.cut changed.quiet
  · rw [listed]
    rcases taskStep_registration moved with none | ⟨own, -⟩
    · rw [none, List.append_nil]
      exact orderly.distinct
    · rw [own]
      exact List.nodup_append.mpr ⟨orderly.distinct, List.nodup_singleton _, by
        rintro first member second last rfl
        rw [List.mem_singleton] at last
        subst last
        exact settled member⟩
  · intro other member
    rw [listed] at member
    rcases taskStep_registration moved with none | ⟨own, stage⟩
    · rw [none, List.append_nil] at member
      exact changed.registering other member
    · rw [own] at member
      rcases List.mem_append.mp member with old | new
      · exact changed.registering other old
      · rw [List.mem_singleton] at new
        subst new
        rw [withSession_self]
        exact stage

theorem Orderly.applicationEvent (orderly : Orderly owner ledger) (waits : owner.Waits)
    {publication : EventPublication V}
    (room : owner.operation = none ∨ owner.deferredEvents.length < server.eventCapacity) :
    Orderly (owner.handleApplicationEvent server (some publication)) ledger ∧
      (owner.handleApplicationEvent server (some publication)).directive = .proceed := by
  unfold Owner.handleApplicationEvent
  dsimp only
  split
  · rename_i active
    have room := room.resolve_left (Option.isSome_iff_ne_none.mp active)
    rw [if_neg (by omega)]
    exact ⟨orderly.rearrange rfl rfl orderly.distinct orderly.registering orderly.answers
      orderly.cut orderly.quiet, waits.directive⟩
  · rename_i idle
    refine ⟨orderly.rearrange rfl rfl orderly.distinct orderly.registering ⟨0, ?_, ?_⟩
      orderly.cut ?_, waits.directive⟩
    · simp [Answers]
    · simp [isReply]
    · intro active
      exact absurd active idle

end Steps

end Decodex.Guarantees.OwnerOrder
