import Decodex.Guarantees.PublicationStream

/-!
# Sessions of the publication

Source: crates/decodex-runtime/src/websocket.rs:503-554 and 1858-2530. What each handler does to the
sessions keeps the publication, so that over every run of the owner and its tasks, while the owner
accepts, each session opens with what its hello asks for and is sent what is published from there
on.
-/
namespace Decodex.Guarantees.SubscribedSessions

open Decodex.Library Decodex.Source.Protocol.SessionMessages
open Decodex.Source.Runtime.Publication Decodex.Guarantees.SessionTasks
open Decodex.Guarantees.SessionCompletions Decodex.Guarantees.OwnerOrder
open Decodex.Guarantees.AcceptingOwner Decodex.Guarantees.PublicationStream

variable {V : Vocabulary}

/-- What a handler does to a session. -/
inductive Turned (server : Server V) (record : Record V) (connection : Nat) (session : Session V) :
    Session V → Prop
  | same : Turned server record connection session session
  | connected (absent : session.task = .absent) (unopened : record.opening connection = [])
      (unwritten : record.wire connection = []) (ungreeted : record.hello connection = none) :
      Turned server record connection session { session with task := .opening }
  | refused (stage : session.task = .registering) :
      Turned server record connection session { session with task := .closing .unregistered }
  | registered (hello : ClientHello) (messages : List (ServerMessage V)) (start : Nat)
      (stage : session.task = .registering) (greeted : record.hello connection = some hello)
      (opened : Opened server record.published hello messages start)
      (whole : eventsOf messages = record.published.drop start) :
      Turned server record connection session { session with
        subscriber := some { version := currentVersion }
        task := .initial messages }
  | harvested (next : Session V) (task : next.task = .absent) (started : session.task ≠ .registering)
      (unsubscribed : next.subscriber = none) : Turned server record connection session next

/-- What a handler does. -/
structure Turn (server : Server V) (owner : Owner V) (record : Record V) (next : Owner V) :
    Prop where
  cursor : next.cursor = owner.cursor
  events : next.events = owner.events
  ids : owner.connectionIds ≤ next.connectionIds
  agenda : ∀ work ∈ next.agenda, isEventSend work = false ∧ FairWork server work
  sessions : ∀ connection, Turned server record connection (owner.sessions connection)
    (next.sessions connection)
  requests : ∀ request ∈ next.deferredRequests ++ next.ingress, FairRequest server record request
  operation : ∀ operation, next.operation = some operation → FairOperation record operation
  receipts : ∀ key stored, next.receipts.find? key = some stored →
    stored.result.serverId = server.serverId

section Turns

variable {server : Server V} {owner next : Owner V} {ledger : Ledger V} {record : Record V}
  {session : Session V} {connection : Nat}

theorem opened_nonempty {published : List (EventEnvelope V)} {hello : ClientHello}
    {messages : List (ServerMessage V)} {start : Nat}
    (opened : Opened server published hello messages start) : messages ≠ [] := by
  cases opened <;> exact List.cons_ne_nil _ _

theorem openedWith_other {after : Session V} {earlier : List (ServerMessage V)}
    (started : session.task ≠ .registering) : openedWith session after earlier = earlier := by
  unfold openedWith
  split
  · rename_i stage _
    exact absurd stage started
  · rfl

theorem Turned.flow {after : Session V} {accepted written : List (ServerMessage V)}
    (turned : Turned server record connection session after)
    (flow : Flow server record.published (record.hello connection) (record.opening connection)
      accepted written (record.wire connection) session [])
    (told : Told session accepted written) :
    Flow server record.published (record.hello connection)
      (openedWith session after (record.opening connection)) accepted written
      (record.wire connection) after [] := by
  have wired := flow.wired.2
  cases turned with
  | same =>
    have kept : openedWith session session (record.opening connection) =
        record.opening connection := by
      unfold openedWith
      split
      · rename_i stage opened
        cases stage.symm.trans opened
      · rfl
    rw [kept]
    exact flow
  | connected absent unopened unwritten ungreeted =>
    rw [openedWith_other (by simp [absent])]
    refine ⟨flow.fair, ⟨flow.wired.1, unopened, unwritten⟩, fun _ => ungreeted, flow.unopened,
      fun opened => ?_⟩
    exact absurd unopened opened
  | refused stage =>
    have kept : openedWith session { session with task := .closing .unregistered }
        (record.opening connection) = record.opening connection := by
      unfold openedWith
      rw [stage]
    rw [stage] at wired
    rw [kept]
    refine ⟨flow.fair, ⟨flow.wired.1, trivial⟩, fun stage => (by cases stage), flow.unopened,
      fun opened => ?_⟩
    exact absurd wired.1 opened
  | registered hello messages start stage greeted opened whole =>
    have begun : openedWith session { session with
        subscriber := some { version := currentVersion }
        task := .initial messages } (record.opening connection) = messages := by
      unfold openedWith
      rw [stage]
    obtain ⟨nothing, -⟩ := nothing_of_registering told stage
    rw [stage] at wired
    rw [begun, nothing, wired.2]
    refine ⟨List.forall_mem_nil _, ⟨List.nil_prefix, List.nil_append _⟩,
      fun stage => (by cases stage), fun none => ?_,
      fun _ => ⟨hello, start, greeted, opened, ?_, fun _ => ?_⟩⟩
    · exact absurd none (opened_nonempty opened)
    · exact ⟨[], by rw [List.append_nil, List.append_nil, whole]⟩
    · rw [List.append_nil, List.append_nil, whole]
  | harvested _ task started unsubscribed =>
    rw [openedWith_other started]
    refine ⟨flow.fair, ⟨flow.wired.1, ?_⟩, fun stage => ?_,
      fun none => ⟨(flow.unopened none).1, unsubscribed⟩, fun opened => ?_⟩
    · rw [task]
      trivial
    · rw [task] at stage
      cases stage
    · obtain ⟨greeting, start, greeted, stream⟩ := flow.streams opened
      refine ⟨greeting, start, greeted, stream.opened, stream.events, fun subscribed => ?_⟩
      rw [unsubscribed] at subscribed
      cases subscribed

/-- A handler keeps the publication. -/
theorem Streaming.turn (streaming : Streaming server owner ledger record)
    (orderly : Orderly owner ledger) (ended : owner.agenda = [])
    (turn : Turn server owner record next) (event : OwnerEvent V)
    (after : record.after server owner event next =
      ⟨record.published, record.hello, fun connection => openedWith (owner.sessions connection)
        (next.sessions connection) (record.opening connection), record.wire⟩) :
    Streaming server next ledger (record.after server owner event next) := by
  have quiet : ∀ work ∈ next.agenda, isEventSend work = false :=
    fun work member => (turn.agenda work member).1
  rw [after]
  refine streaming.keep turn.cursor turn.events rfl ⟨[], next.agenda, rfl, List.forall_mem_nil _,
    quiet⟩ ⟨?_, ?_, turn.receipts, ?_, fun work member => (turn.agenda work member).2⟩ ?_ ?_
  · exact fun request member => (turn.requests request member).mono fun _ _ => rfl
  · exact fun operation held => (turn.operation operation held).mono fun _ _ => rfl
  · intro connection subscriber held
    have turned := turn.sessions connection
    generalize next.sessions connection = session at turned held
    cases turned with
    | same => exact streaming.current.subscribers connection subscriber held
    | connected => exact streaming.current.subscribers connection subscriber held
    | refused => exact streaming.current.subscribers connection subscriber held
    | registered =>
      cases held
      rfl
    | harvested _ task started unsubscribed =>
      rw [unsubscribed] at held
      cases held
  · intro connection above
    have above := Nat.le_trans turn.ids above
    have absent := (orderly.fresh connection above).1
    dsimp only
    rw [openedWith_other (by simp [absent])]
    exact streaming.fresh connection above
  · intro connection
    have flow := streaming.flows connection
    rw [ended] at flow
    rw [pendingEvents_of_quiet quiet]
    exact (turn.sessions connection).flow flow (orderly.told connection)

theorem eventsOf_map (events : List (EventEnvelope V)) :
    eventsOf (events.map .event) = events := by
  unfold eventsOf
  rw [List.filterMap_map]
  exact List.filterMap_some

/-- What a session that resumes is sent: all events after its cursor. -/
theorem resumed_events (retains : Retains server owner record) {resume : ResumeCursor}
    (able : owner.canResume server resume currentVersion = true) :
    ((owner.events.filter fun event => resume.cursor < event.cursor).map fun event =>
        (.event { event with version := currentVersion } : ServerMessage V)) =
      (record.published.drop resume.cursor).map .event := by
  have covers : record.published.length - server.replayCapacity ≤ resume.cursor := by
    have positive := server.replayPositive
    unfold Owner.canResume at able
    simp only [Bool.and_eq_true] at able
    have oldest := able.2
    have kept := retains.retained
    cases held : owner.events with
    | nil =>
      rw [held] at kept
      have short := congrArg List.length kept
      rw [List.length_drop] at short
      have short : 0 = record.published.length -
        (record.published.length - server.replayCapacity) := short
      omega
    | cons first others =>
      rw [held] at kept oldest
      have bound : first.cursor ≤ min (resume.cursor + 1) (2 ^ 64 - 1) := by
        simpa using oldest
      have found : record.published[record.published.length - server.replayCapacity]? =
          some (asCurrent first) := by
        rw [← List.head?_drop, ← kept]
        rfl
      have stamp := retains.numbered.number_eq found
      have same : (asCurrent first).cursor = first.cursor := rfl
      omega
  have window := retains.numbered.filter_window covers
  simp only [zero_add, Nat.cast_lt] at window
  rw [← retains.retained, List.filter_map] at window
  rw [← window, List.map_map]
  rfl

/-- What a registration opens with. -/
theorem reconnectMessages_opened (retains : Retains server owner record) (hello : ClientHello)
    {items : List V.SnapshotItem} (few : items.length ≤ server.maximumSnapshotItems) :
    ∃ start, Opened server record.published hello
        (.welcome ⟨currentVersion, server.serverId, server.instanceId, owner.cursor,
            (owner.reconnectMessages server hello.resume currentVersion items).1⟩ ::
          (owner.reconnectMessages server hello.resume currentVersion items).2) start ∧
      eventsOf (.welcome ⟨currentVersion, server.serverId, server.instanceId, owner.cursor,
            (owner.reconnectMessages server hello.resume currentVersion items).1⟩ ::
          (owner.reconnectMessages server hello.resume currentVersion items).2) =
        record.published.drop start := by
  have length := retains.length
  unfold Owner.reconnectMessages
  split
  · rename_i resume held
    obtain ⟨asked, able⟩ := Option.filter_eq_some_iff.mp held
    have events := resumed_events retains able
    have whole : record.published.take owner.cursor = record.published :=
      List.take_of_length_le (Nat.le_of_eq length)
    refine ⟨resume.cursor, ?_, ?_⟩
    · rw [events]
      unfold Owner.canResume at able
      simp only [Bool.and_eq_true, beq_iff_eq, decide_eq_true_eq] at able
      obtain ⟨⟨⟨⟨⟨-, sameInstance⟩, identified⟩, sameServer⟩, later⟩, -⟩ := able
      have opened := Opened.resumed resume owner.cursor asked sameServer sameInstance identified
        later (Nat.le_of_eq length.symm)
      rw [whole] at opened
      exact opened
    · rw [events]
      exact eventsOf_map _
  · refine ⟨owner.cursor, .snapshot owner.cursor items few (Nat.le_of_eq length.symm), ?_⟩
    rw [← length, List.drop_length]
    rfl

/-- What follows an operation: the deferred events are published. -/
theorem Turn.flush (turn : Turn server owner record next) :
    Turn server owner record next.flushDeferredEvents := by
  unfold Owner.flushDeferredEvents
  split
  · exact turn
  · refine ⟨turn.cursor, turn.events, turn.ids, fun work member => ?_, turn.sessions, turn.requests,
      turn.operation, turn.receipts⟩
    rcases List.mem_append.mp member with old | new
    · exact turn.agenda work old
    · obtain ⟨publication, -, rfl⟩ := List.mem_map.mp new
      exact ⟨rfl, trivial⟩

/-- A turn that begins with nothing to do. -/
theorem Turn.refl (current : Current server owner record) (ended : owner.agenda = []) :
    Turn server owner record owner := by
  refine ⟨rfl, rfl, Nat.le_refl _, ?_, fun _ => .same, current.requests, current.operation,
    current.receipts⟩
  rw [ended]
  exact List.forall_mem_nil _

/-- One session is turned. -/
theorem Turn.withSession (turn : Turn server owner record next)
    (kept : next.sessions = owner.sessions) (change : Session V → Session V)
    (turned : Turned server record connection (owner.sessions connection)
      (change (owner.sessions connection))) :
    Turn server owner record (next.withSession connection change) := by
  refine ⟨turn.cursor, turn.events, turn.ids, turn.agenda, fun other => ?_, turn.requests,
    turn.operation, turn.receipts⟩
  by_cases same : other = connection
  · subst same
    rw [withSession_self, kept]
    exact turned
  · rw [withSession_other _ same, kept]
    exact .same

theorem Turn.stop (turn : Turn server owner record next) (directive : OwnerDirective) :
    Turn server owner record (next.stop directive) :=
  ⟨turn.cursor, turn.events, turn.ids, turn.agenda, turn.sessions, turn.requests, turn.operation,
    turn.receipts⟩

theorem turn_finishRegistration (current : Current server owner record)
    (retains : Retains server owner record) (ended : owner.agenda = [])
    {pending : PendingRegistrationSnapshot}
    (stage : (owner.sessions pending.connection).task = .registering)
    (cut : pending.baseCursor = owner.cursor) (version : pending.version = currentVersion)
    (greeted : record.hello pending.connection = some pending.hello)
    (items : Option (List V.SnapshotItem)) :
    Turn server owner record (owner.finishRegistrationSnapshot server pending items) := by
  have begun := Turn.refl current ended
  unfold Owner.finishRegistrationSnapshot
  split
  · exact (begun.withSession rfl _ (.refused stage)).stop _
  · rename_i items
    split
    · exact (begun.withSession rfl _ (.refused stage)).flush
    rename_i few
    split
    · exact (begun.withSession rfl _ (.refused stage)).stop _
    dsimp only
    rw [version, cut]
    obtain ⟨start, opened, whole⟩ :=
      reconnectMessages_opened retains pending.hello (Nat.le_of_not_lt few)
    refine Turn.flush (begun.withSession rfl _ ?_)
    dsimp only
    rw [stage]
    exact .registered pending.hello _ start stage greeted opened whole

theorem turn_answer (current : Current server owner record) (ended : owner.agenda = [])
    (connection : Nat) {receipt : CommandReceipt} {result : CommandResultEnvelope V}
    (receipts : receipt.version = currentVersion ∧ receipt.serverId = server.serverId)
    (results : result.version = currentVersion ∧ result.serverId = server.serverId) :
    Turn server owner record (owner.answerCommand connection receipt result) := by
  have begun := Turn.refl current ended
  refine ⟨rfl, rfl, Nat.le_refl _, fun work member => ?_, begun.sessions, begun.requests,
    begun.operation, begun.receipts⟩
  have member : work ∈ [Work.send connection (.commandReceipt receipt) true,
    .send connection (.commandResult result) true, .reply connection false] := member
  simp only [List.mem_cons, List.not_mem_nil, or_false] at member
  rcases member with rfl | rfl | rfl
  · exact ⟨rfl, receipts⟩
  · exact ⟨rfl, results⟩
  · exact ⟨rfl, trivial⟩

theorem turn_handleCommand (current : Current server owner record) (ended : owner.agenda = [])
    (connection : Nat) (command : CommandEnvelope V) :
    Turn server owner record
      (owner.handleCommandRequest server connection command currentVersion) := by
  unfold Owner.handleCommandRequest
  dsimp only
  split
  · rename_i stored kept
    have own := current.receipts _ stored kept
    refine turn_answer current ended connection ⟨rfl, rfl⟩ ?_
    unfold Owner.duplicateResult
    dsimp only
    split
    · exact ⟨rfl, own⟩
    · exact ⟨rfl, own⟩
  · split
    · exact turn_answer current ended connection ⟨rfl, rfl⟩ ⟨rfl, rfl⟩
    · have begun := Turn.refl current ended
      refine ⟨rfl, rfl, Nat.le_refl _, begun.agenda, begun.sessions, begun.requests, ?_,
        begun.receipts⟩
      intro operation held
      cases held
      rfl

theorem resultFromExecution_own (server : Server V) (command : CommandEnvelope V)
    (version : ProtocolVersion) (execution : Except (CommandError V) (ApplicationPublication V)) :
    (resultFromExecution server command version execution).1.version = version ∧
      (resultFromExecution server command version execution).1.serverId = server.serverId := by
  cases execution <;> exact ⟨rfl, rfl⟩

theorem turn_finishCommand (current : Current server owner record) (ended : owner.agenda = [])
    {active : ActiveCommand V} (version : active.version = currentVersion)
    (execution : Option (Except (CommandError V) (ApplicationPublication V))) :
    Turn server owner record (owner.finishActiveCommand server active execution) := by
  have begun := Turn.refl current ended
  unfold Owner.finishActiveCommand
  cases execution with
  | none =>
    refine ⟨rfl, rfl, Nat.le_refl _, fun work member => ?_, begun.sessions, begun.requests,
      begun.operation, begun.receipts⟩
    rw [List.mem_singleton.mp member]
    exact ⟨rfl, trivial⟩
  | some execution =>
    have own := resultFromExecution_own server active.command active.version execution
    dsimp only
    refine ⟨?_, ?_, ?_, fun work member => ?_, ?_, ?_, ?_, ?_⟩
    · split <;> rfl
    · split <;> rfl
    · split <;> exact Nat.le_refl _
    · simp only [List.mem_append, List.mem_cons, List.not_mem_nil, or_false, List.mem_map] at member
      rcases member with ((sent | published) | ⟨publication, -, rfl⟩) | rfl
      · rcases sent with rfl | rfl
        · exact ⟨rfl, version, rfl⟩
        · exact ⟨rfl, own.1.trans version, own.2⟩
      · cases held : (resultFromExecution server active.command active.version execution).2 with
        | none =>
          rw [held] at published
          cases published
        | some publication =>
          rw [held] at published
          simp only [Option.map_some, Option.getD_some] at published
          unfold Owner.publicationOf at published
          split at published
          · rw [List.mem_singleton.mp published]
            exact ⟨rfl, trivial⟩
          · cases published
      · exact ⟨rfl, trivial⟩
      · exact ⟨rfl, trivial⟩
    · split <;> exact begun.sessions
    · split <;> exact begun.requests
    · split <;> exact begun.operation
    · split
      · intro key stored held
        rw [KeyedMap.find?_insert] at held
        split at held
        · cases held
          exact own.2
        · exact current.receipts key stored held
      · exact begun.receipts

theorem fair_of_mayEnqueue {message : ServerMessage V} {counted : Bool}
    (allowed : mayEnqueue server message = true) :
    isEventSend (.send connection message counted) = false ∧
      FairWork server (.send connection message counted) := by
  cases message with
  | queryResult result =>
    have allowed : (result.version == currentVersion && result.serverId == server.serverId) =
      true := allowed
    rw [Bool.and_eq_true, beq_iff_eq, beq_iff_eq] at allowed
    exact ⟨rfl, allowed⟩
  | accountLogin status => exact ⟨rfl, trivial⟩
  | refusal refusal =>
    have allowed : (refusal.serverId == server.serverId) = true := allowed
    exact ⟨rfl, beq_iff_eq.mp allowed⟩
  | _ => cases allowed

theorem turn_handleRequest (current : Current server owner record)
    (retains : Retains server owner record) (ended : owner.agenda = []) {request : Request V}
    (fair : FairRequest server record request) (taken : Taken owner request)
    (independent : Option (List V.SnapshotItem)) :
    Turn server owner record (owner.handleRequest server independent request) := by
  have begun := Turn.refl current ended
  have deferred : Turn server owner record
      { owner with deferredRequests := owner.deferredRequests ++ [request] } := by
    refine ⟨rfl, rfl, Nat.le_refl _, begun.agenda, begun.sessions, fun other member => ?_,
      begun.operation, begun.receipts⟩
    simp only [List.append_assoc, List.mem_append, List.mem_singleton] at member
    rcases member with old | rfl | new
    · exact current.requests other (List.mem_append_left _ old)
    · exact fair
    · exact current.requests other (List.mem_append_right _ new)
  unfold Owner.handleRequest
  split
  · rename_i connection hello version
    obtain ⟨version, greeted⟩ := fair
    have stage := (taken connection rfl).2
    split
    · exact deferred
    split
    · exact (begun.withSession rfl _ (.refused stage)).stop _
    dsimp only
    split
    · exact turn_finishRegistration current retains ended stage rfl version greeted _
    · refine ⟨rfl, rfl, Nat.le_refl _, begun.agenda, begun.sessions, begun.requests, ?_,
        begun.receipts⟩
      intro operation held
      cases held
      exact ⟨version, greeted⟩
  · rename_i connection message
    refine ⟨rfl, rfl, Nat.le_refl _, fun work member => ?_, begun.sessions, begun.requests,
      begun.operation, begun.receipts⟩
    simp only [List.mem_cons, List.not_mem_nil, or_false] at member
    rcases member with rfl | rfl
    · exact fair_of_mayEnqueue fair
    · exact ⟨rfl, trivial⟩
  · rename_i connection command version
    obtain rfl : version = currentVersion := fair
    split
    · exact deferred
    · exact turn_handleCommand current ended connection command

theorem turn_applicationEvent (current : Current server owner record) (ended : owner.agenda = [])
    (publication : EventPublication V) :
    Turn server owner record (owner.handleApplicationEvent server (some publication)) := by
  have begun := Turn.refl current ended
  unfold Owner.handleApplicationEvent
  dsimp only
  split
  · split
    · exact begun.stop _
    · exact ⟨rfl, rfl, Nat.le_refl _, begun.agenda, begun.sessions, begun.requests,
        begun.operation, begun.receipts⟩
  · refine ⟨rfl, rfl, Nat.le_refl _, fun work member => ?_, begun.sessions, begun.requests,
      begun.operation, begun.receipts⟩
    rw [List.mem_singleton.mp member]
    exact ⟨rfl, trivial⟩

theorem turn_handleAccepted (current : Current server owner record) (orderly : Orderly owner ledger)
    (waits : owner.Waits) (going : (owner.handleAccepted server (.ok ())).directive = .proceed)
    (fresh : record.opening owner.connectionIds = [] ∧ record.wire owner.connectionIds = [] ∧
      record.hello owner.connectionIds = none) :
    Turn server owner record (owner.handleAccepted server (.ok ())) := by
  unfold Owner.handleAccepted at going ⊢
  dsimp only at going ⊢
  rw [if_neg (not_not.mpr waits.directive)] at going ⊢
  split at going
  · exact absurd going (stop_beginStopping _ _)
  rename_i spare
  rw [if_neg spare]
  have absent := (orderly.fresh owner.connectionIds (Nat.le_refl _)).1
  have turned : Turn server owner record
      (owner.withSession owner.connectionIds fun session => { session with task := .opening }) :=
    (Turn.refl current waits.agenda).withSession rfl _
      (.connected (by rw [absent]) fresh.1 fresh.2.1 fresh.2.2)
  exact ⟨rfl, rfl, Nat.le_succ _, turned.agenda, turned.sessions, turned.requests,
    turned.operation, turned.receipts⟩

theorem turn_finishOperation (streaming : Streaming server owner ledger record)
    (orderly : Orderly owner ledger) (ended : owner.agenda = []) {completion : Completion V}
    (expected : owner.expects completion = true) :
    Turn server owner record (owner.finishOperation server completion) := by
  have retains : Retains server { owner with operation := none } record :=
    ⟨streaming.length, streaming.bounded, streaming.numbered, streaming.own, streaming.retained⟩
  have current : Current server { owner with operation := none } record := by
    refine ⟨streaming.current.requests, fun operation none => ?_, streaming.current.receipts,
      streaming.current.subscribers, streaming.current.agenda⟩
    cases none
  have fair := streaming.current.operation
  unfold Owner.expects at expected
  unfold Owner.finishOperation
  split
  · rename_i active execution held
    have turn := turn_finishCommand current ended (fair _ held) execution
    exact ⟨turn.cursor, turn.events, turn.ids, turn.agenda, turn.sessions, turn.requests,
      turn.operation, turn.receipts⟩
  · rename_i pending items held
    obtain ⟨version, greeted⟩ := fair _ held
    have stage := orderly.registering _ (registrations_of_operation held)
    have turn := turn_finishRegistration current retains ended stage (orderly.cut pending held)
      version greeted items
    exact ⟨turn.cursor, turn.events, turn.ids, turn.agenda, turn.sessions, turn.requests,
      turn.operation, turn.receipts⟩
  · exact (Turn.refl streaming.current ended).stop _

theorem turn_harvest (current : Current server owner record) (orderly : Orderly owner ledger)
    (ended : owner.agenda = []) {completion : SessionTaskCompletion}
    (returned : (owner.sessions connection).task = .finished completion)
    (going : (owner.harvestTask server connection completion).1.directive = .proceed) :
    Turn server owner record (owner.harvestTask server connection completion).1 := by
  have valid : ((owner.sessions connection).reconcileSessionCompletion completion).2 ≠ .invalid := by
    intro invalid
    unfold Owner.harvestTask at going
    dsimp only at going
    rw [invalid] at going
    exact stop_beginStopping _ _ going
  obtain ⟨unsubscribed, -⟩ :=
    (Sound.reconciles (orderly.sound connection) returned).2 valid
  unfold Owner.harvestTask
  dsimp only
  rw [if_neg valid]
  refine ((Turn.refl current ended).withSession rfl _ ?_).stop _
  exact .harvested _ rfl (by simp [returned]) unsubscribed

/-- Taking a request out of its queue. -/
theorem turn_take (streaming : Streaming server owner ledger record) {taking : Owner V}
    {request : Request V} {independent : Option (List V.SnapshotItem)}
    (orderly : Orderly taking ledger ∧ Taken taking request)
    (same : taking.cursor = owner.cursor ∧ taking.events = owner.events ∧
      taking.connectionIds = owner.connectionIds ∧ taking.sessions = owner.sessions ∧
      taking.operation = owner.operation ∧ taking.receipts = owner.receipts)
    (ended : taking.agenda = [])
    (requests : ∀ other ∈ request :: (taking.deferredRequests ++ taking.ingress),
      other ∈ owner.deferredRequests ++ owner.ingress) :
    Turn server owner record (taking.handleRequest server independent request) := by
  obtain ⟨cursor, events, ids, sessions, operation, receipts⟩ := same
  have fair := streaming.current.requests
  have current : Current server taking record := by
    refine ⟨fun other member => fair other (requests other (List.mem_cons_of_mem _ member)),
      ?_, ?_, ?_, ?_⟩
    · rw [operation]
      exact streaming.current.operation
    · rw [receipts]
      exact streaming.current.receipts
    · rw [sessions]
      exact streaming.current.subscribers
    · rw [ended]
      exact List.forall_mem_nil _
  have retains : Retains server taking record := by
    refine ⟨?_, ?_, streaming.numbered, streaming.own, ?_⟩
    · rw [cursor]
      exact streaming.length
    · rw [cursor]
      exact streaming.bounded
    · rw [events]
      exact streaming.retained
  have turn := turn_handleRequest current retains ended
    (fair request (requests request List.mem_cons_self)) orderly.2 independent
  refine ⟨turn.cursor.trans cursor, turn.events.trans events, ?_, turn.agenda, ?_, turn.requests,
    turn.operation, turn.receipts⟩
  · rw [← ids]
    exact turn.ids
  · rw [← sessions]
    exact turn.sessions

theorem streaming_step (streaming : Streaming server owner ledger record)
    (orderly : Orderly owner ledger) {event : OwnerEvent V} (moved : Step server owner event next)
    (going : next.directive = .proceed) :
    Streaming server next (ledger.after server owner event)
      (record.after server owner event next) := by
  cases moved with
  | task moved allowed room => exact streaming.task orderly moved allowed rfl
  | connected waits room =>
    exact Streaming.turn streaming orderly waits.agenda
      (turn_handleAccepted streaming.current orderly waits going
        (streaming.fresh owner.connectionIds (Nat.le_refl _))) _ rfl
  | @received request rest independent waits room ingress =>
    have taken := orderly.take { owner with ingress := rest } rfl rfl waits.agenda rfl rfl
      (take_received ingress)
    refine Streaming.turn streaming orderly waits.agenda (turn_take streaming taken
      ⟨rfl, rfl, rfl, rfl, rfl, rfl⟩ waits.agenda fun other member => ?_) _ rfl
    rw [ingress]
    dsimp only at member
    simp only [List.mem_cons, List.mem_append] at member ⊢
    tauto
  | @resumed request rest independent ended accepting idle deferred =>
    have taken := orderly.take { owner with deferredRequests := rest } rfl rfl ended rfl rfl
      (take_resumed deferred)
    refine Streaming.turn streaming orderly ended (turn_take streaming taken
      ⟨rfl, rfl, rfl, rfl, rfl, rfl⟩ ended fun other member => ?_) _ rfl
    rw [deferred]
    dsimp only at member
    simp only [List.mem_cons, List.mem_append] at member ⊢
    tauto
  | applicationEvent waits room =>
    exact Streaming.turn streaming orderly waits.agenda
      (turn_applicationEvent streaming.current waits.agenda _) _ rfl
  | completed waits expected =>
    exact Streaming.turn streaming orderly waits.agenda
      (turn_finishOperation streaming orderly waits.agenda expected) _ rfl
  | harvested waits returned =>
    exact Streaming.turn streaming orderly waits.agenda
      (turn_harvest streaming.current orderly waits.agenda returned going) _ rfl
  | refused waits room =>
    refine Streaming.turn streaming orderly waits.agenda ?_ _ rfl
    have begun := Turn.refl streaming.current waits.agenda
    unfold Owner.handleAccepted
    dsimp only
    split
    · exact begun.stop _
    · exact begun
  | ingressClosed waits room next => exact absurd going (stop_beginStopping _ _)
  | eventsEnded waits polls => exact absurd going (stop_beginStopping _ _)
  | taskFailed waits fails => exact absurd going (harvestFailure_stops _ _ _)
  | shutdownRequested waits => exact absurd going (stop_beginStopping _ _)
  | listenerHealth waits =>
    exact Streaming.turn streaming orderly waits.agenda
      ((Turn.refl streaming.current waits.agenda).stop _) _ rfl
  | @worked work rest visited agenda visits =>
    cases work with
    | send connection message counted => exact streaming.send orderly agenda
    | publish version publication =>
      refine streaming.publish orderly agenda visits ?_
      by_contra exhausted
      unfold Owner.work Owner.publishEventLocked at going
      rw [agenda] at going
      dsimp only at going
      rw [if_pos (by omega)] at going
      exact stop_beginStopping _ _ going
    | reply connection whileSubscribed => exact streaming.reply agenda

end Turns

section Runs

variable {server : Server V} {trace : List (OwnerEvent V)}
  {state : (Owner V × Ledger V) × Record V}

/-- A logged step, with what it publishes and writes. -/
def RecordedStep (server : Server V) (before : (Owner V × Ledger V) × Record V)
    (event : OwnerEvent V) (next : (Owner V × Ledger V) × Record V) : Prop :=
  LoggedStep server before.1 event next.1 ∧
    next.2 = before.2.after server before.1.1 event next.1.1

def Streams (server : Server V) (state : (Owner V × Ledger V) × Record V) : Prop :=
  state.1.1.directive = .proceed →
    Orderly state.1.1 state.1.2 ∧ Streaming server state.1.1 state.1.2 state.2

theorem streaming_start (server : Server V) :
    Streaming server ({} : Owner V) ({} : Ledger V) ({} : Record V) := by
  refine ⟨⟨rfl, Nat.two_pow_pos 64, trivial, List.forall_mem_nil _,
    List.drop_nil.symm⟩,
    ⟨[], [], rfl, List.forall_mem_nil _, List.forall_mem_nil _⟩,
    ⟨List.forall_mem_nil _, ?_, ?_, ?_, List.forall_mem_nil _⟩, fun _ _ => ⟨rfl, rfl, rfl⟩,
    fun connection => ⟨List.forall_mem_nil _, ⟨List.prefix_refl _, trivial⟩, fun _ => rfl,
      fun _ => ⟨rfl, rfl⟩,
      fun opened => absurd rfl opened⟩⟩
  · intro operation held
    cases held
  · intro key stored held
    cases held
  · intro connection subscriber held
    cases held

theorem streams_step : ∀ before event next, RecordedStep server before event next →
    Streams server before → Streams server next := by
  rintro before event next ⟨⟨moved, logged⟩, recorded⟩ kept accepting
  by_cases going : before.1.1.directive = .proceed
  · obtain ⟨orderly, streaming⟩ := kept going
    have proceeds := orderly_step orderly going moved
    rw [logged, recorded]
    exact ⟨(proceeds.2 fun faulty => proceeds.1 faulty accepting).1,
      streaming_step streaming orderly moved accepting⟩
  · exact absurd accepting (step_stopped going moved)

theorem run_streams (run : Run (RecordedStep server) (({}, {}), {}) trace state)
    (accepting : state.1.1.directive = .proceed) :
    Orderly state.1.1 state.1.2 ∧ Streaming server state.1.1 state.1.2 state.2 := by
  have start : Streams server ((({} : Owner V), ({} : Ledger V)), ({} : Record V)) :=
    fun _ => ⟨orderly_start, streaming_start server⟩
  have kept := run.invariant streams_step start
  exact kept accepting

/-- Over every run of the owner and its tasks, while it accepts: it retains the last events that
were published; and what a task has written is the beginning of what its session opened with and
accepted, whose events are the published ones from the session's start on, each once and in their
order, and all of them while the session is subscribed. -/
theorem sessions_follow_publication (run : Run (RecordedStep server) (({}, {}), {}) trace state)
    (accepting : state.1.1.directive = .proceed) :
    Retains server state.1.1 state.2 ∧ ∀ connection,
      state.2.wire connection <+: state.2.opening connection ++ state.1.2.accepted connection ∧
      (state.2.opening connection = [] → state.1.2.accepted connection = []) ∧
      (state.2.opening connection ≠ [] → ∃ hello start,
        state.2.hello connection = some hello ∧
        Stream server state.2.published (state.2.opening connection)
          (state.1.2.accepted connection) (state.1.1.sessions connection)
          (pendingEvents state.1.1.agenda connection) hello start) := by
  obtain ⟨-, streaming⟩ := run_streams run accepting
  refine ⟨streaming.toRetains, fun connection => ?_⟩
  have flow := streaming.flows connection
  exact ⟨flow.wired.1, fun unopened => (flow.unopened unopened).1, flow.streams⟩

theorem recorded {start : (Owner V × Ledger V) × Record V} {owner next : Owner V}
    {ledger : Ledger V} {record : Record V}
    (run : Run (RecordedStep server) start trace ((owner, ledger), record))
    (event : OwnerEvent V) (moved : Step server owner event next) :
    Run (RecordedStep server) start (trace ++ [event])
      ((next, ledger.after server owner event), record.after server owner event next) :=
  run.snoc event ⟨⟨moved, rfl⟩, rfl⟩

theorem example_session_follows : ∃ trace state,
    Run (RecordedStep exampleServer) (({}, {}), {}) trace state ∧
      state.1.1.directive = .proceed ∧ state.2.published.length = 1 ∧
      (eventsOf (state.2.opening 1 ++ state.1.2.accepted 1)).map EventEnvelope.cursor = [1] ∧
      ∃ hello start, state.2.hello 1 = some hello ∧
        Stream exampleServer state.2.published (state.2.opening 1) (state.1.2.accepted 1)
          (state.1.1.sessions 1) (pendingEvents state.1.1.agenda 1) hello start := by
  have begun : Run (RecordedStep exampleServer) (({}, {}), {}) [] (({}, {}), {}) := .nil _
  have connected := recorded begun (.connected 1) (.connected ⟨rfl, rfl, fun _ => rfl⟩ (by decide))
  have greeted := recorded connected (.task 1 (.helloReceived exampleHello))
    (.task rfl rfl (by decide))
  have registered := recorded greeted
    (.received (.register 1 exampleHello currentVersion) (some []))
    (.received ⟨rfl, rfl, fun _ => rfl⟩ (by decide) rfl)
  have announced := recorded registered (.applicationEvent examplePublication)
    (.applicationEvent ⟨rfl, rfl, fun _ => rfl⟩ ⟨rfl, .inl rfl⟩)
  have published := recorded announced (.worked _) (.worked rfl (.refl _))
  have sent := recorded published (.worked _) (.worked rfl (.refl _))
  have follows := sessions_follow_publication sent rfl
  exact ⟨_, _, sent, rfl, rfl, rfl, (follows.2 1).2.2 (List.cons_ne_nil _ _)⟩

end Runs

end Decodex.Guarantees.SubscribedSessions
