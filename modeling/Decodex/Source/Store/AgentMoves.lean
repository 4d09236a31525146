import Decodex.Source.Store.AgentCalls

/-!
# Agent dispatch: what each call does to lanes and claims

The lane of a work item is its dispatch state with its thread and turn. A call that belongs to
the dispatch protocol moves the lane of one work item, and says of each delivery that is still
open what became of it. Every other call is quiet: it keeps all lanes, and what it leaves
undisposed keeps its delivery.
-/
namespace Decodex.Source.Store.AgentDispatch

open Decodex.Library Decodex.Source.Core

variable {host : PayloadHost} {store middle after : AgentStore} {moving back linking : Prop} {now : Int}
  {id turn work note : String}

/-- Every work item stands, in the lane that `move` gives it. -/
def Lanes (move : String → Lane → Lane) (works works' : Table workItemTable) : Prop :=
  ∀ id item, works.find? id = some item →
    ∃ item', works'.find? id = some item' ∧ laneOf item' = move id (laneOf item)

/-- The columns that trigger `agent_inbox_source_immutable` protects, with the key. -/
def originOf (row : AgentInboxEvent) : Nat × String × String × String × String × Int :=
  (row.id, row.sourceEventId, row.workItemId, row.eventKind, row.payload, row.createdAtMicros)

/-- Every event stands with its origin. One that is not disposed was not disposed before either, or is new. -/
structure Traced (relates : Option Delivery → Option Delivery → Prop)
    (events events' : Table inboxEventTable) : Prop where
  stands : ∀ row ∈ events.rows, ∃ row' ∈ events'.rows, originOf row' = originOf row
  traced : ∀ row ∈ events'.rows, row.disposal = none →
    (∃ old ∈ events.rows, old.id = row.id ∧ old.disposal = none ∧
      relates old.delivery row.delivery) ∨
    ((∀ old ∈ events.rows, old.id ≠ row.id) ∧ relates none row.delivery)

structure Effect (move : String → Lane → Lane)
    (relates : Option Delivery → Option Delivery → Prop) (store after : AgentStore) : Prop where
  lanes : Lanes move store.agentWorkItems after.agentWorkItems
  events : Traced relates store.agentInboxEvents after.agentInboxEvents

/-- Nothing moves. -/
abbrev Quiet : AgentStore → AgentStore → Prop :=
  Effect (fun _ lane => lane) (· = ·)

/-- The move of one lane. -/
def moveLane (id : String) (move : Lane → Lane) (other : String) (lane : Lane) : Lane :=
  if other = id then move lane else lane

/-- A claim of a work item, whether or not its event is disposed. -/
def claimOf (id : String) : Option Delivery := some ⟨id, ""⟩

/-- Claims of a work item get a turn. -/
def redirect (id turn : String) (delivery : Option Delivery) : Option Delivery :=
  if delivery = claimOf id then some ⟨id, turn⟩ else delivery

theorem Lanes.refl (works : Table workItemTable) : Lanes (fun _ lane => lane) works works :=
  fun _ item found => ⟨item, found, rfl⟩

theorem Traced.refl (events : Table inboxEventTable) : Traced (· = ·) events events where
  stands row member := ⟨row, member, rfl⟩
  traced row member undisposed := .inl ⟨row, member, rfl, undisposed, rfl⟩

theorem Quiet.refl (store : AgentStore) : Quiet store store :=
  ⟨Lanes.refl _, Traced.refl _⟩

theorem Lanes.trans {first second : String → Lane → Lane} {before mid last : Table workItemTable}
    (early : Lanes first before mid) (later : Lanes second mid last) :
    Lanes (fun id lane => second id (first id lane)) before last := by
  intro id item found
  obtain ⟨middle, foundMiddle, laneMiddle⟩ := early id item found
  obtain ⟨item', found', lane'⟩ := later id middle foundMiddle
  exact ⟨item', found', by rw [lane', laneMiddle]⟩

theorem Traced.trans {first second both : Option Delivery → Option Delivery → Prop}
    {events mid last : Table inboxEventTable} (before : Traced first events mid)
    (later : Traced second mid last) (undelivered : first none none)
    (joined : ∀ a b c, first a b → second b c → both a c) : Traced both events last := by
  refine ⟨?_, ?_⟩
  · intro row member
    obtain ⟨middle, middle_mem, sameMiddle⟩ := before.stands row member
    obtain ⟨row', member', same⟩ := later.stands middle middle_mem
    exact ⟨row', member', same.trans sameMiddle⟩
  · intro row member undisposed
    rcases later.traced row member undisposed with ⟨mid, mid_mem, same, open', related⟩ | fresh
    · rcases before.traced mid mid_mem open' with ⟨old, old_mem, sameOld, oldOpen, relatedOld⟩ | new
      · exact .inl ⟨old, old_mem, sameOld.trans same, oldOpen, joined _ _ _ relatedOld related⟩
      · exact .inr ⟨fun old old_mem => same ▸ new.1 old old_mem, joined _ _ _ new.2 related⟩
    · refine .inr ⟨?_, joined _ _ _ undelivered fresh.2⟩
      intro old old_mem same
      obtain ⟨mid, mid_mem, sameMid⟩ := before.stands old old_mem
      exact fresh.1 mid mid_mem ((congrArg Prod.fst sameMid).trans same)

/-- A quiet part changes nothing about an effect that follows it. -/
theorem Effect.after_quiet {move : String → Lane → Lane}
    {relates : Option Delivery → Option Delivery → Prop} (quiet : Quiet store middle)
    (effect : Effect move relates middle after) : Effect move relates store after where
  lanes := quiet.lanes.trans effect.lanes
  events := quiet.events.trans effect.events rfl fun _ _ _ same related => same ▸ related

/-- Nor about one that it follows. -/
theorem Effect.then_quiet {move : String → Lane → Lane}
    {relates : Option Delivery → Option Delivery → Prop} (effect : Effect move relates store middle)
    (quiet : Quiet middle after) (undelivered : relates none none) :
    Effect move relates store after where
  lanes := effect.lanes.trans quiet.lanes
  events := effect.events.trans quiet.events undelivered fun _ _ _ related same => same ▸ related

/-- A move of lanes, and then of deliveries. -/
theorem Effect.then_events {move : String → Lane → Lane}
    {relates : Option Delivery → Option Delivery → Prop} (effect : Effect move (· = ·) store middle)
    (later : Effect (fun _ lane => lane) relates middle after) :
    Effect move relates store after where
  lanes := effect.lanes.trans later.lanes
  events := effect.events.trans later.events rfl fun _ _ _ same related => same ▸ related

theorem effect_of_updateWork {change : AgentWorkItem → AgentWorkItem} (move : Lane → Lane)
    (done : updateWork store id change = .ok after)
    (keeps : ∀ item, (change item).id = item.id)
    (moves : ∀ item, laneOf (change item) = move (laneOf item)) :
    Effect (moveLane id move) (· = ·) store after := by
  obtain ⟨works, updated, rfl⟩ := updateWork_ok done
  refine ⟨?_, Traced.refl _⟩
  intro other item found
  have landed := Table.find?_updateKey updated keeps other
  rw [found] at landed
  unfold moveLane
  split
  · rename_i same
    rw [if_pos same] at landed
    exact ⟨change item, landed, moves item⟩
  · rename_i apart
    rw [if_neg apart] at landed
    exact ⟨item, landed, rfl⟩

theorem moveLane_id (id other : String) (lane : Lane) : moveLane id (fun lane => lane) other lane =
    lane := by
  unfold moveLane
  split <;> rfl

/-- An update of deliveries and dispositions. -/
theorem traced_of_updateEvents {relates : Option Delivery → Option Delivery → Prop}
    {selected : AgentInboxEvent → Bool} {change : AgentInboxEvent → AgentInboxEvent}
    (done : updateEvents store selected change = .ok after)
    (same : ∀ row, originOf (change row) = originOf row)
    (hit : ∀ row, selected row = true → (change row).disposal = none →
      row.disposal = none ∧ relates row.delivery (change row).delivery)
    (miss : ∀ row, selected row = false → row.disposal = none →
      relates row.delivery row.delivery) :
    Effect (fun _ lane => lane) relates store after := by
  obtain ⟨_, events, updated, rfl⟩ := updateEvents_ok done
  refine ⟨Lanes.refl _, ?_, ?_⟩
  · intro row member
    refine ⟨_, Table.mem_updateWhere updated member, ?_⟩
    split
    · exact same row
    · rfl
  · intro row member undisposed
    rw [Table.updateWhere_rows updated] at member
    obtain ⟨old, old_mem, rfl⟩ := List.mem_map.mp member
    by_cases chosen : selected old = true
    · simp only [chosen, if_true] at undisposed ⊢
      obtain ⟨oldOpen, related⟩ := hit old chosen undisposed
      exact .inl ⟨old, old_mem, congrArg Prod.fst (same old).symm, oldOpen, related⟩
    · simp only [chosen, if_false, Bool.false_eq_true] at undisposed ⊢
      exact .inl ⟨old, old_mem, rfl, undisposed, miss old (by simpa using chosen) undisposed⟩

/-- An event that is recorded with an open delivery only where `relates` says so. -/
theorem effect_of_insertRow {relates : Option Delivery → Option Delivery → Prop}
    {input : EnqueueAgentEvent} {disposal : Option Disposal} {delivery : Option Delivery}
    (done : insertRow store input now disposal delivery = .ok after)
    (keeps : ∀ delivery, relates delivery delivery)
    (opened : disposal = none → relates none delivery) :
    Effect (fun _ lane => lane) relates store after := by
  obtain ⟨events, inserted, rfl⟩ := insertRow_ok done
  refine ⟨Lanes.refl _, ?_, ?_⟩
  · intro row member
    refine ⟨row, ?_, rfl⟩
    rw [Table.insert_rows inserted]
    exact List.mem_append_left _ member
  · intro row member undisposed
    rw [Table.insert_rows inserted, List.mem_append, List.mem_singleton] at member
    rcases member with member | rfl
    · exact .inl ⟨row, member, rfl, undisposed, keeps _⟩
    · refine .inr ⟨?_, opened undisposed⟩
      intro old old_mem same
      exact (Table.compatible_of_insert inserted old old_mem).1 same

theorem statement_quiet (step : Statement host False back linking store after) : Quiet store after := by
  cases step with
  | create inserted done =>
    subst done
    refine ⟨?_, Traced.refl _⟩
    intro id item found
    exact ⟨item, Table.grows_insert inserted id item found, rfl⟩
  | work done keeps =>
    have effect := effect_of_updateWork (fun lane => lane) done (fun item => (keeps item).1)
      (fun item => (keeps item).2)
    refine ⟨?_, effect.events⟩
    intro id item found
    obtain ⟨item', found', lane⟩ := effect.lanes id item found
    exact ⟨item', found', lane.trans (moveLane_id _ _ _)⟩
  | lane allowed done keeps => exact allowed.elim
  | delegate done =>
    subst done
    exact ⟨Lanes.refl _, Traced.refl _⟩
  | record done closed =>
    exact effect_of_insertRow done (fun _ => rfl) fun opened => (closed opened).symm
  | instruct allowed done => exact allowed.elim
  | deliver allowed done => exact allowed.elim
  | settle done =>
    exact traced_of_updateEvents done (fun _ => rfl) (fun _ _ disposed => nomatch disposed)
      fun _ _ _ => rfl
  | takeBack allowed done =>
    exact traced_of_updateEvents done (fun _ => rfl) (fun _ _ disposed => nomatch disposed)
      fun _ _ _ => rfl
  | retry done keeps =>
    obtain ⟨_, retries, _, rfl⟩ := updateRetries_ok done
    exact ⟨Lanes.refl _, Traced.refl _⟩
  | submit allowed done =>
    obtain ⟨_, retries, _, rfl⟩ := updateRetries_ok done
    exact ⟨Lanes.refl _, Traced.refl _⟩
  | schedule allowed done named =>
    obtain ⟨retries, _, rfl⟩ := scheduleRetry_ok done
    exact ⟨Lanes.refl _, Traced.refl _⟩

/-- Chains without moves are quiet. -/
theorem statements_quiet (steps : Statements host False back linking store after) : Quiet store after := by
  induction steps with
  | refl => exact Quiet.refl store
  | tail _ step ih => exact ih.after_quiet (statement_quiet step)

theorem quiet_of_statements (host : PayloadHost) (steps : Statements host False True True store after) :
    Quiet store after :=
  statements_quiet steps

/-- The calls that are no part of the dispatch protocol are quiet. -/
theorem quiet_of_perform {call : AgentCall} (still : ¬call.moves)
    (done : perform host store now call = .ok after) : Quiet store after := by
  have steps := perform_statements done
  simp only [still] at steps
  exact statements_quiet steps

def Lane.fence (lane : Lane) : Lane := { lane with state := .dispatching }
def Lane.bind (thread : String) (lane : Lane) : Lane :=
  { lane with state := .idle, thread := some thread }
def Lane.run (turn : String) (lane : Lane) : Lane :=
  { lane with state := .running, turn := some turn }
def Lane.rest (lane : Lane) : Lane := { lane with state := .idle, turn := none }
def Lane.lose (lane : Lane) : Lane := { lane with state := .unknown }
def Lane.refuse (lane : Lane) : Lane := { lane with state := .idle }

/-- A delivery stays, or one that is the work item's or nobody's becomes its claim. -/
def claims (id : String) (old new : Option Delivery) : Prop :=
  new = old ∨ new = claimOf id ∧ ∀ delivery, old = some delivery → delivery.workItemId = id

/-- The claims of a work item are gone; other deliveries stay. -/
def withdraws (id : String) (old new : Option Delivery) : Prop :=
  (old = claimOf id → ∀ other, new ≠ claimOf other) ∧ (old ≠ claimOf id → new = old)

theorem claims_trans {a b c : Option Delivery} (first : claims id a b) (second : claims id b c) :
    claims id a c := by
  rcases second with rfl | ⟨claimed, own⟩
  · exact first
  · rcases first with rfl | ⟨_, ownFirst⟩
    · exact .inr ⟨claimed, own⟩
    · exact .inr ⟨claimed, ownFirst⟩

theorem withdraws_redirect (named : turn ≠ "") (delivery : Option Delivery) :
    withdraws id delivery (redirect id turn delivery) := by
  unfold redirect
  refine ⟨?_, fun apart => if_neg apart⟩
  intro claimed other same
  rw [if_pos claimed] at same
  unfold claimOf at same
  simp only [Option.some.injEq, Delivery.mk.injEq] at same
  exact named same.2

theorem withdraws_self {delivery : Option Delivery} (apart : delivery ≠ claimOf id) :
    withdraws id delivery delivery :=
  ⟨fun claimed => absurd claimed apart, fun _ => rfl⟩

theorem withdraws_undelivered : withdraws id none none :=
  withdraws_self (by simp [claimOf])

theorem named_of_bounded {max : Nat} (bound : bounded turn max = .ok ()) : turn ≠ "" := by
  intro empty
  subst empty
  unfold bounded at bound
  rw [require_eq_ok] at bound
  exact bound (.inl (by decide))

theorem beginAgentThreadCreation_effect
    (done : beginAgentThreadCreation store id now = .ok after) :
    ∃ item, store.agentWorkItems.find? id = some item ∧ item.dispatchState = .idle ∧
      item.codexThreadId = none ∧ Effect (moveLane id Lane.fence) (· = ·) store after := by
  unfold beginAgentThreadCreation at done
  obtain ⟨item, read, done⟩ := bind_ok done
  obtain ⟨_, admitted, done⟩ := bind_ok done
  rw [require_eq_ok] at admitted
  exact ⟨item, readWork_ok read, admitted.1, admitted.2,
    effect_of_updateWork _ done (fun _ => rfl) fun _ => rfl⟩

theorem acknowledgeAgentThreadCreation_effect {thread : String}
    (done : acknowledgeAgentThreadCreation store id thread now = .ok after) :
    ∃ item, store.agentWorkItems.find? id = some item ∧ item.dispatchState = .dispatching ∧
      item.codexThreadId = none ∧ Effect (moveLane id (Lane.bind thread)) (· = ·) store after := by
  unfold acknowledgeAgentThreadCreation at done
  obtain ⟨_, _, done⟩ := bind_ok done
  obtain ⟨item, read, done⟩ := bind_ok done
  obtain ⟨_, admitted, done⟩ := bind_ok done
  rw [require_eq_ok] at admitted
  exact ⟨item, readWork_ok read, admitted.1, admitted.2,
    effect_of_updateWork _ done (fun _ => rfl) fun _ => rfl⟩

/-- The loop of claims, the reopened work and the saved instruction claim for one work item. -/
theorem claimEvent_effect {event : Nat} (done : claimEvent id store event = .ok after) :
    Effect (fun _ lane => lane) (claims id) store after := by
  unfold claimEvent at done
  obtain ⟨_, _, done⟩ := bind_ok done
  apply traced_of_updateEvents done (fun _ => rfl)
  · intro row chosen _
    simp only [claimable, Bool.and_eq_true, Option.isNone_iff_eq_none] at chosen
    refine ⟨chosen.2.1.1.1.1.2, .inr ⟨rfl, ?_⟩⟩
    intro delivery delivered
    have free := chosen.2.2
    simp only [delivered, Option.isNone_some, Option.any_some, Bool.false_or, Bool.and_eq_true,
      decide_eq_true_eq] at free
    exact free.1
  · intro row _ _
    exact .inl rfl

theorem Effect.weaken {move : String → Lane → Lane}
    {relates wider : Option Delivery → Option Delivery → Prop}
    (effect : Effect move relates store after) (contained : ∀ a b, relates a b → wider a b) :
    Effect move wider store after where
  lanes := effect.lanes
  events := by
    refine ⟨effect.events.stands, ?_⟩
    intro row member undisposed
    rcases effect.events.traced row member undisposed with ⟨old, old_mem, same, opened, related⟩ | fresh
    · exact .inl ⟨old, old_mem, same, opened, contained _ _ related⟩
    · exact .inr ⟨fresh.1, contained _ _ fresh.2⟩

theorem Effect.then_claims {move : String → Lane → Lane}
    (effect : Effect move (claims id) store middle)
    (later : Effect (fun _ lane => lane) (claims id) middle after) :
    Effect move (claims id) store after where
  lanes := effect.lanes.trans later.lanes
  events := effect.events.trans later.events (.inl rfl) fun _ _ _ => claims_trans

theorem beginAgentDispatchWithInput_effect {eventIds : List Nat} {instruction : Option String}
    {pending : Bool} {stale : Nat → Bool}
    (done : beginAgentDispatchWithInput host store id eventIds instruction pending stale now =
      .ok after) :
    ∃ item, store.agentWorkItems.find? id = some item ∧ item.dispatchState = .idle ∧
      item.codexThreadId ≠ none ∧ Effect (moveLane id Lane.fence) (claims id) store after := by
  unfold beginAgentDispatchWithInput at done
  obtain ⟨_, _, done⟩ := bind_ok done
  obtain ⟨_, _, done⟩ := bind_ok done
  obtain ⟨item, read, done⟩ := bind_ok done
  obtain ⟨_, admitted, done⟩ := bind_ok done
  obtain ⟨cancelled, cancel, done⟩ := bind_ok done
  obtain ⟨dispatching, fence, done⟩ := bind_ok done
  obtain ⟨_, _, done⟩ := bind_ok done
  obtain ⟨claimed, claim, done⟩ := bind_ok done
  obtain ⟨reopened, reopen, done⟩ := bind_ok done
  rw [require_eq_ok] at admitted
  refine ⟨item, readWork_ok read, admitted.1, admitted.2.1, ?_⟩
  have cancelling : Quiet store cancelled :=
    quiet_of_statements host (cancelPendingWithNote_statements cancel)
  have fencing : Effect (moveLane id Lane.fence) (claims id) store dispatching :=
    (cancelling.after_quiet (effect_of_updateWork _ fence (fun _ => rfl) fun _ => rfl)).weaken
      fun _ _ same => .inl same.symm
  have claiming : Effect (moveLane id Lane.fence) (claims id) store claimed :=
    foldlM_ok_prefix (fun _ reached => Effect (moveLane id Lane.fence) (claims id) store reached)
      (fun _ _ _ _ held round => held.then_claims (claimEvent_effect round)) fencing claim
  have reopening : Effect (moveLane id Lane.fence) (claims id) store reopened := by
    unfold reopenWork at reopen
    split at reopen
    · exact claiming.then_quiet (quiet_of_statements host
        (updateStatus_statements reopen fun _ => ⟨rfl, rfl⟩)) (.inl rfl)
    · cases reopen
      exact claiming
  split at done
  · cases done
    exact reopening
  · unfold saveInstruction at done
    obtain ⟨_, _, done⟩ := bind_ok done
    obtain ⟨saved, save, done⟩ := bind_ok done
    cases done
    have saving : Effect (moveLane id Lane.fence) (claims id) store saved := by
      have same : item.id = id := Table.key_of_find? (readWork_ok read)
      rw [same] at save
      exact reopening.then_claims (effect_of_insertRow save (fun _ => .inl rfl) fun _ => .inr ⟨rfl, nofun⟩)
    refine saving.then_quiet ?_ (.inl rfl)
    unfold beginDelegation
    split
    · exact quiet_of_statements host (.single (.delegate rfl))
    · exact Quiet.refl saved

theorem beginAgentCapacityRetry_effect {event : Nat} {due : Int} {pending : Bool}
    (done : beginAgentCapacityRetry host store work event due pending now = .ok after) :
    ∃ item, store.agentWorkItems.find? work = some item ∧ item.dispatchState = .idle ∧
      item.codexThreadId ≠ none ∧ Effect (moveLane work Lane.fence) (claims work) store after := by
  unfold beginAgentCapacityRetry at done
  obtain ⟨item, read, done⟩ := bind_ok done
  obtain ⟨_, admitted, done⟩ := bind_ok done
  obtain ⟨retry, _, done⟩ := bind_ok done
  obtain ⟨claimed, claim, done⟩ := bind_ok done
  obtain ⟨disposed, settle, done⟩ := bind_ok done
  obtain ⟨dispatching, fence, done⟩ := bind_ok done
  rw [require_eq_ok] at admitted
  refine ⟨item, readWork_ok read, admitted.1, admitted.2.1, ?_⟩
  have settling : Quiet store disposed := quiet_of_statements host
    (.head (.retry claim fun _ => ⟨rfl, rfl⟩) (disposeEvents_statements settle))
  have fencing := settling.after_quiet
    (effect_of_updateWork Lane.fence fence (fun _ => rfl) fun _ => rfl)
  refine (fencing.weaken fun _ _ same => .inl same.symm).then_claims ?_
  apply traced_of_updateEvents done (fun _ => rfl)
  · intro row chosen _
    simp only [Bool.and_eq_true, decide_eq_true_eq, Option.isNone_iff_eq_none] at chosen
    refine ⟨chosen.2, .inr ⟨rfl, ?_⟩⟩
    intro delivery delivered
    rw [chosen.1] at delivered
    cases delivered
    rfl
  · intro row _ _
    exact .inl rfl

theorem deliverClaims_effect (done : deliverClaims store id turn = .ok after) :
    Effect (fun _ lane => lane) (fun old new => new = redirect id turn old) store after := by
  unfold deliverClaims at done
  apply traced_of_updateEvents done (fun _ => rfl)
  · intro row chosen _
    simp only [Bool.and_eq_true, decide_eq_true_eq, Option.isNone_iff_eq_none] at chosen
    exact ⟨chosen.2, (if_pos chosen.1).symm⟩
  · intro row missed undisposed
    simp only [undisposed, Option.isNone_none, Bool.and_true, decide_eq_false_iff_not] at missed
    exact (if_neg missed).symm

theorem redirect_claim {delivery : Option Delivery} (claimed : delivery = claimOf id) :
    redirect id turn delivery = some ⟨id, turn⟩ :=
  if_pos claimed

theorem redirect_none (id turn : String) : redirect id turn none = none :=
  if_neg nofun

/-- From the moved lane on, acknowledgment and reconciliation do the same. -/
theorem deliver_effect (host : PayloadHost) {observations : List Observation}
    {running observed delivered : AgentStore}
    (run : updateWork store id (runWork turn now) = .ok running)
    (observing : observeEach running observations now = .ok observed)
    (deliver : deliverClaims observed id turn = .ok delivered) :
    Effect (moveLane id (Lane.run turn)) (fun old new => new = redirect id turn old) store
      delivered := by
  have moved : Effect (moveLane id (Lane.run turn)) (· = ·) store running :=
    effect_of_updateWork _ run (fun _ => rfl) fun _ => rfl
  have watched : Quiet running observed :=
    quiet_of_statements host (observeEach_statements observing)
  exact (moved.then_quiet watched rfl).then_events (deliverClaims_effect deliver)

theorem acknowledgeAgentDispatch_effect {execution : Option Observation}
    {deliveries : List Observation}
    (done : acknowledgeAgentDispatch host store id turn execution deliveries now = .ok after) :
    ∃ item, store.agentWorkItems.find? id = some item ∧ item.dispatchState = .dispatching ∧
      turn ≠ "" ∧ Effect (moveLane id (Lane.run turn)) (fun old new => new = redirect id turn old)
        store after := by
  unfold acknowledgeAgentDispatch at done
  obtain ⟨_, bound, done⟩ := bind_ok done
  obtain ⟨item, read, done⟩ := bind_ok done
  obtain ⟨_, admitted, done⟩ := bind_ok done
  obtain ⟨_, _, done⟩ := bind_ok done
  obtain ⟨executed, execute, done⟩ := bind_ok done
  obtain ⟨running, run, done⟩ := bind_ok done
  obtain ⟨observed, observing, done⟩ := bind_ok done
  obtain ⟨delivered, deliver, done⟩ := bind_ok done
  obtain ⟨accepted, accept, done⟩ := bind_ok done
  rw [require_eq_ok] at admitted
  refine ⟨item, readWork_ok read, admitted, named_of_bounded bound, ?_⟩
  have executing : Quiet store executed := quiet_of_statements host
    (foldlM_statements (fun _ _ _ step => observe_statements step) execute)
  have settling : Quiet delivered after := quiet_of_statements host
    ((disposeEvents_statements accept).trans (submitRetries_statements done))
  exact (executing.after_quiet (deliver_effect host run observing deliver)).then_quiet
    settling (redirect_none id turn).symm

theorem reconcileAgentDispatch_effect {deliveries : List Observation}
    (done : reconcileAgentDispatch host store id turn deliveries now = .ok after) :
    ∃ item, store.agentWorkItems.find? id = some item ∧
      (item.dispatchState = .dispatching ∨ item.dispatchState = .unknown) ∧
      (item.activeTurnId = none ∨ item.activeTurnId = some turn) ∧ turn ≠ "" ∧
      Effect (moveLane id (Lane.run turn)) (fun old new => new = redirect id turn old)
        store after := by
  unfold reconcileAgentDispatch at done
  obtain ⟨_, bound, done⟩ := bind_ok done
  obtain ⟨item, read, done⟩ := bind_ok done
  obtain ⟨_, admitted, done⟩ := bind_ok done
  obtain ⟨_, active, done⟩ := bind_ok done
  obtain ⟨running, run, done⟩ := bind_ok done
  obtain ⟨observed, observing, done⟩ := bind_ok done
  obtain ⟨delivered, deliver, done⟩ := bind_ok done
  rw [require_eq_ok] at admitted active
  refine ⟨item, readWork_ok read, admitted, ?_, named_of_bounded bound, ?_⟩
  · cases recorded : item.activeTurnId with
    | none => exact .inl rfl
    | some other => exact .inr (congrArg some (active other recorded))
  · exact (deliver_effect host run observing deliver).then_quiet
      (quiet_of_statements host (submitRetries_statements done))
      (redirect_none id turn).symm

theorem completeAgentTurn_effect (done : completeAgentTurn store id turn now = .ok after) :
    ∃ item, store.agentWorkItems.find? id = some item ∧ item.dispatchState = .running ∧
      item.activeTurnId = some turn ∧ Effect (moveLane id Lane.rest) (· = ·) store after := by
  unfold completeAgentTurn at done
  obtain ⟨item, read, done⟩ := bind_ok done
  obtain ⟨_, admitted, done⟩ := bind_ok done
  rw [require_eq_ok] at admitted
  exact ⟨item, readWork_ok read, admitted.1, admitted.2,
    effect_of_updateWork _ done (fun _ => rfl) fun _ => rfl⟩

theorem markAgentDispatchUnknown_effect
    (done : markAgentDispatchUnknown store id now = .ok after) :
    ∃ item, store.agentWorkItems.find? id = some item ∧
      (item.dispatchState = .dispatching ∨ item.dispatchState = .running) ∧
      Effect (moveLane id Lane.lose) (· = ·) store after := by
  unfold markAgentDispatchUnknown at done
  obtain ⟨item, read, done⟩ := bind_ok done
  obtain ⟨_, admitted, done⟩ := bind_ok done
  rw [require_eq_ok] at admitted
  exact ⟨item, readWork_ok read, admitted, effect_of_updateWork _ done (fun _ => rfl) fun _ => rfl⟩

theorem receiptInput_origin (store : AgentStore) (item : AgentWorkItem)
    (input : EnqueueAgentEvent) :
    (receiptInput store item input).sourceEventId = input.sourceEventId ∧
      (receiptInput store item input).workItemId = input.workItemId := by
  unfold receiptInput
  split <;> exact ⟨rfl, rfl⟩

theorem terminalInput_origin {item : AgentWorkItem} {input terminal : EnqueueAgentEvent}
    {retry : Option (Int × Int)}
    (done : terminalInput host store item turn input now = .ok (terminal, retry)) :
    terminal.sourceEventId = input.sourceEventId ∧ terminal.workItemId = input.workItemId := by
  unfold terminalInput at done
  split at done
  · obtain ⟨scheduled, _, done⟩ := bind_ok done
    split at done
    · cases done
      split <;> exact ⟨rfl, rfl⟩
    · dsimp only at done
      split at done
      · cases done
        exact ⟨rfl, rfl⟩
      · cases done
        exact ⟨rfl, rfl⟩
  · cases done
    exact ⟨rfl, rfl⟩

theorem recordOnce_event {input : EnqueueAgentEvent} {recorded : AgentStore × AgentInboxEvent}
    (done : recordOnce store input now = .ok recorded) :
    recorded.2 ∈ recorded.1.agentInboxEvents.rows ∧
      recorded.2.sourceEventId = input.sourceEventId ∧
      recorded.2.workItemId = input.workItemId := by
  unfold recordOnce at done
  split at done
  · rename_i event found
    obtain ⟨_, same, done⟩ := bind_ok done
    rw [require_eq_ok] at same
    cases done
    exact ⟨List.mem_of_find?_eq_some found, by simpa using List.find?_some found, same.1⟩
  · obtain ⟨inserted, insert, done⟩ := bind_ok done
    obtain ⟨event, read, done⟩ := bind_ok done
    cases done
    unfold readEvent at read
    rw [orElse_eq_ok] at read
    obtain ⟨events, accepted, rfl⟩ := insertRow_ok insert
    have landed := (Table.find?_insert accepted store.nextEventId).trans (if_pos rfl)
    rw [read] at landed
    cases landed
    exact ⟨Table.mem_of_find? read, rfl, rfl⟩

/-- Completion moves the work to idle, and its receipt is recorded with it. -/
theorem completeAgentTurnWithEvent_effect {input : EnqueueAgentEvent}
    {partialOutput : List Observation}
    (done : completeAgentTurnWithEvent host store id turn input partialOutput now = .ok after) :
    (∃ item, store.agentWorkItems.find? id = some item ∧ item.dispatchState = .running ∧
      item.activeTurnId = some turn ∧ Effect (moveLane id Lane.rest) (· = ·) store after) ∧
    ∃ row ∈ after.agentInboxEvents.rows,
      row.sourceEventId = input.sourceEventId ∧ row.workItemId = id := by
  unfold completeAgentTurnWithEvent at done
  obtain ⟨_, _, done⟩ := bind_ok done
  obtain ⟨_, _, done⟩ := bind_ok done
  obtain ⟨_, sized, done⟩ := bind_ok done
  obtain ⟨item, read, done⟩ := bind_ok done
  obtain ⟨_, active, done⟩ := bind_ok done
  obtain ⟨⟨terminal, retry⟩, prepare, done⟩ := bind_ok done
  obtain ⟨retained, retain, done⟩ := bind_ok done
  obtain ⟨⟨recorded, event⟩, record, done⟩ := bind_ok done
  obtain ⟨idle, idling, done⟩ := bind_ok done
  obtain ⟨resolved, resolve, done⟩ := bind_ok done
  obtain ⟨handled, handle, done⟩ := bind_ok done
  rw [require_eq_ok] at active sized
  have recording : Quiet store recorded := quiet_of_statements host
    ((observeEach_statements retain).trans (recordOnce_statements record))
  have resting : Effect (moveLane id Lane.rest) (· = ·) recorded idle :=
    effect_of_updateWork _ idling (fun _ => rfl) fun _ => rfl
  have handling : Effect (moveLane id Lane.rest) (· = ·) recorded handled :=
    resting.then_quiet (quiet_of_statements host
      ((disposeEvents_statements resolve).trans (disposeEvents_statements handle))) rfl
  have finished : Effect (moveLane id Lane.rest) (· = ·) recorded after := by
    cases retry with
    | none =>
      cases done
      exact handling
    | some scheduled =>
      have named := activeTurn_named (Table.check_of_find? (readWork_ok read)) active.2
      exact handling.then_quiet (quiet_of_statements host (.single (.schedule trivial done named))) rfl
  refine ⟨⟨item, readWork_ok read, active.1, active.2, recording.after_quiet finished⟩, ?_⟩
  obtain ⟨event_mem, source, owner⟩ := recordOnce_event record
  obtain ⟨terminalSource, terminalOwner⟩ := terminalInput_origin prepare
  obtain ⟨receiptSource, receiptOwner⟩ := receiptInput_origin store item input
  obtain ⟨row, member, origin⟩ := finished.events.stands event event_mem
  unfold originOf at origin
  simp only [Prod.mk.injEq] at origin
  exact ⟨row, member, origin.2.1.trans (source.trans (terminalSource.trans receiptSource)),
    origin.2.2.1.trans (owner.trans (terminalOwner.trans (receiptOwner.trans sized.2)))⟩

/-- A native turn moves at most the idle lane of the work that owns the thread. -/
theorem observeAgentNativeTurn_effect {thread connection payload : String}
    {account : Option String} {owned : String → Bool} {observed : Bool × AgentStore}
    (done : observeAgentNativeTurn host store thread turn connection payload account owned now =
      .ok observed) :
    Quiet store observed.2 ∨
    ∃ id item, store.agentWorkItems.find? id = some item ∧ item.dispatchState = .idle ∧
      Effect (moveLane id (Lane.run turn)) (· = ·) store observed.2 := by
  unfold observeAgentNativeTurn at done
  obtain ⟨_, _, done⟩ := bind_ok done
  split at done
  · cases done
    exact .inl (Quiet.refl store)
  · rename_i item found
    dsimp only at done
    split at done
    · cases done
      exact .inl (Quiet.refl store)
    · obtain ⟨recorded, record, done⟩ := bind_ok done
      split at done
      · rename_i idle
        obtain ⟨cancelled, cancel, done⟩ := bind_ok done
        obtain ⟨running, run, done⟩ := bind_ok done
        cases done
        have member : item ∈ store.agentWorkItems.rows := List.mem_of_find?_eq_some found
        have before : Quiet store cancelled := quiet_of_statements host
          ((observe_statements record).trans (cancelPendingWithNote_statements cancel))
        exact .inr ⟨item.id, item, Table.find?_of_mem member, idle,
          before.after_quiet (effect_of_updateWork _ run (fun _ => rfl) fun _ => rfl)⟩
      · cases done
        exact .inl (quiet_of_statements host (observe_statements record))

/-- A refused retry gives its claims back to the failed turn. -/
theorem rejectRetry_effect {previous : AgentWorkItem} {event : Nat}
    {refusal : AgentDispatchRefusal}
    (named : ∀ retry ∈ store.agentCapacityRetries.rows, retry.failedTurnId ≠ "")
    (done : rejectRetry host store previous event refusal now = .ok after) :
    Effect (fun _ lane => lane) (withdraws previous.id) store after := by
  unfold rejectRetry at done
  obtain ⟨retry, found, done⟩ := bind_ok done
  obtain ⟨recorded, record, done⟩ := bind_ok done
  obtain ⟨cancelled, cancel, done⟩ := bind_ok done
  obtain ⟨restored, restore, done⟩ := bind_ok done
  rw [orElse_eq_ok] at found
  have turnNamed := named retry (List.mem_of_find?_eq_some found)
  have before : Quiet store cancelled := quiet_of_statements host
    ((observe_statements record).tail (.retry cancel fun _ => ⟨rfl, rfl⟩))
  have restoring : Effect (fun _ lane => lane) (withdraws previous.id) store restored := by
    refine before.after_quiet (traced_of_updateEvents restore (fun _ => rfl) ?_ ?_)
    · intro row chosen _
      simp only [isClaim, Bool.and_eq_true, decide_eq_true_eq, Option.isNone_iff_eq_none] at chosen
      have redirected : withdraws previous.id row.delivery
          (redirect previous.id retry.failedTurnId row.delivery) :=
        withdraws_redirect turnNamed row.delivery
      rw [redirect_claim chosen.1] at redirected
      exact ⟨chosen.2, redirected⟩
    · intro row missed undisposed
      simp only [isClaim, undisposed, Option.isNone_none, Bool.and_true, decide_eq_false_iff_not]
        at missed
      exact withdraws_self missed
  have undelivered : withdraws previous.id none none := withdraws_undelivered
  split at done
  · obtain ⟨original, _, done⟩ := bind_ok done
    obtain ⟨payload, _, done⟩ := bind_ok done
    exact restoring.then_quiet (quiet_of_statements host (.single (.record done fun _ => rfl)))
      undelivered
  · cases done
    exact restoring

/-- An ordinary refusal disposes its claims. -/
theorem rejectClaims_effect {previous : AgentWorkItem} {refusal : AgentDispatchRefusal}
    (done : rejectClaims host store previous refusal now = .ok after) :
    Effect (fun _ lane => lane) (withdraws previous.id) store after := by
  unfold rejectClaims at done
  obtain ⟨_, _, done⟩ := bind_ok done
  unfold disposeEvents at done
  obtain ⟨taken, take, done⟩ := bind_ok done
  have taking : Effect (fun _ lane => lane) (withdraws previous.id) store taken := by
    refine traced_of_updateEvents take (fun _ => rfl) (fun _ _ disposed => nomatch disposed) ?_
    intro row missed undisposed
    simp only [isClaim, undisposed, Option.isNone_none, Bool.and_true, decide_eq_false_iff_not]
      at missed
    exact withdraws_self missed
  exact taking.then_quiet (quiet_of_statements host (.single (.retry done fun _ => ⟨rfl, rfl⟩)))
    withdraws_undelivered

theorem rejectAgentDispatch_effect {previous : AgentWorkItem} {owned : Bool}
    {retryEvent : Option Nat} {refusal : AgentDispatchRefusal}
    (named : ∀ retry ∈ store.agentCapacityRetries.rows, retry.failedTurnId ≠ "")
    (done : rejectAgentDispatch host store previous owned retryEvent refusal now = .ok after) :
    ∃ item, store.agentWorkItems.find? previous.id = some item ∧
      item.dispatchState = .dispatching ∧
      Effect (moveLane previous.id Lane.refuse) (withdraws previous.id) store after := by
  unfold rejectAgentDispatch at done
  obtain ⟨_, _, done⟩ := bind_ok done
  obtain ⟨_, admitted, done⟩ := bind_ok done
  obtain ⟨settled, settle, done⟩ := bind_ok done
  rw [require_eq_ok] at admitted
  obtain ⟨matches', _⟩ := admitted
  cases found : store.agentWorkItems.find? previous.id with
  | none =>
    rw [found] at matches'
    cases matches'
  | some item =>
    simp only [found, Option.any_some, Bool.and_eq_true, decide_eq_true_eq] at matches'
    refine ⟨item, rfl, matches'.1.2, ?_⟩
    have settling : Effect (fun _ lane => lane) (withdraws previous.id) store settled := by
      unfold settleRefusal at settle
      cases retryEvent with
      | some event => exact rejectRetry_effect named settle
      | none => exact rejectClaims_effect settle
    unfold updateStatus at done
    obtain ⟨updated, written, done⟩ := bind_ok done
    have refusing : Effect (moveLane previous.id Lane.refuse) (· = ·) settled after :=
      (effect_of_updateWork _ written (fun _ => rfl) fun _ => rfl).then_quiet
        (quiet_of_statements host (judgeWork_statements done)) rfl
    exact ⟨settling.lanes.trans refusing.lanes, settling.events.trans refusing.events
      withdraws_undelivered fun _ _ _ related same => same ▸ related⟩

end Decodex.Source.Store.AgentDispatch
