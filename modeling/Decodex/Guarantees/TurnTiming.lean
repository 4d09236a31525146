import Decodex.Guarantees.TimingReceipts

/-!
# Observed turn timing is exact or unknown

Source: crates/decodex-codex/src/app_server_client/observed_timing.rs:78-341.

A receipt tells of the calls since its turn was tracked. It knows a category exactly where tracking
began with the start of that turn, nothing of the category was turned down for want of room, and
every start of the category has its stop; it then knows the length of the merged intervals.
-/
namespace Decodex.Guarantees.TurnTiming

open Decodex.Library Decodex.Source.Codex.ObservedTiming
open Decodex.Guarantees.TimingSteps Decodex.Guarantees.TimingReceipts

variable {F : Type} {state : State} {thread turn : String} {kind : Kind}

def marks (thread turn : String) (kind : Kind) (calls : List (Call F)) : List (Mark Key) :=
  calls.filterMap (seen thread turn kind)

/-- A start of the category found no room. -/
def Hit (thread turn : String) (kind : Kind) (earlier : List (Call F)) (opening : Call F)
    (own : List (Call F)) : Prop :=
  ∃ before call mark, before ++ [call] <+: own ∧ seen thread turn kind call = some mark ∧
    mark.starts = true ∧ full (stateAfter (earlier ++ opening :: before)) thread kind = true

/-- The turn is tracked from `opening` on, over all that follows. -/
structure Session (thread turn : String) (earlier : List (Call F)) (opening : Call F)
    (own : List (Call F)) : Prop where
  opened : ¬Tracks (stateAfter earlier) thread turn
  kept : ∀ before, before <+: own → Tracks (stateAfter (earlier ++ opening :: before)) thread turn

def instant : Call F → Option Nat
  | .observe _ now => some now
  | .responseWritten _ now => some now
  | _ => none

def Ordered (calls : List (Call F)) : Prop := (calls.filterMap instant).Pairwise (· ≤ ·)

/-- No request id is used again while it is pending. -/
def FreshRequests (calls : List (Call F)) : Prop :=
  ∀ before call, before ++ [call] <+: calls → Fresh (stateAfter before) call

/-- What makes a category of a turn known. -/
structure Knows (thread turn : String) (kind : Kind) (earlier : List (Call F)) (opening : Call F)
    (own : List (Call F)) (value : Nat) : Prop where
  starts : Starts thread turn opening
  room : ¬Hit thread turn kind earlier opening own
  started : (pairing (marks thread turn kind own)).stray = false
  stopped : ∀ key, (pairing (marks thread turn kind own)).opened key = none
  few : (pairing (marks thread turn kind own)).spans.length ≤ maxBufferedEvents
  measures : Measures (pairing (marks thread turn kind own)).spans value

/-- A timing of a turn tells of the calls from its opening to its completion. -/
def Explained (calls : List (Call F)) (thread turn : String) (timing : ObservedTurnTiming) : Prop :=
  ∃ earlier opening own completion later,
    calls = earlier ++ opening :: (own ++ completion :: later) ∧
    Session thread turn earlier opening own ∧ completes thread turn completion = true ∧
    ∀ kind value, categoryOf timing kind = some value ↔
      Knows thread turn kind earlier opening own value

/-- What a run has of a tracked turn. -/
def Recorded (calls : List (Call F)) (thread : String) (record : Turn) : Prop :=
  ∃ earlier opening own, calls = earlier ++ opening :: own ∧
    Session thread record.id earlier opening own ∧
    (record.started = true ↔ Starts thread record.id opening) ∧
    (record.started = true → ∀ kind,
      (view (pending (stateAfter calls) thread record.id) record kind).Follows maxBufferedEvents
        (Hit thread record.id kind earlier opening own)
        (pairing (marks thread record.id kind own)))

structure Inv (calls : List (Call F)) : Prop where
  owned : Owned (stateAfter calls)
  recorded : ∀ thread record, (stateAfter calls).turns.find? thread = some record →
    Recorded calls thread record
  explained : ∀ receipt ∈ (stateAfter calls).completed,
    Explained calls receipt.thread receipt.turn receipt.timing

variable {calls earlier own : List (Call F)} {opening call : Call F}

@[simp] theorem stateAfter_snoc (calls : List (Call F)) (call : Call F) :
    stateAfter (calls ++ [call]) = (stateAfter calls).perform call := by
  rw [stateAfter, List.foldl_append]
  rfl

theorem inv_nil : Inv ([] : List (Call F)) where
  owned id request found := by cases found
  recorded thread record found := by cases found
  explained := List.forall_mem_nil _

theorem session_snoc (session : Session thread turn earlier opening own)
    (tracks : Tracks (stateAfter (earlier ++ opening :: (own ++ [call]))) thread turn) :
    Session thread turn earlier opening (own ++ [call]) where
  opened := session.opened
  kept := by
    intro before begins
    rcases List.prefix_concat_iff.mp begins with rfl | begins
    · exact tracks
    · exact session.kept before begins

theorem hit_snoc : Hit thread turn kind earlier opening (own ++ [call]) ↔
    Hit thread turn kind earlier opening own ∨ ∃ mark, seen thread turn kind call = some mark ∧
      full (stateAfter (earlier ++ opening :: own)) thread kind = true ∧ mark.starts = true := by
  constructor
  · rintro ⟨before, asked, mark, begins, told, starts, closed⟩
    rcases List.prefix_concat_iff.mp begins with same | begins
    · obtain ⟨rfl, single⟩ := List.append_inj' same rfl
      cases single
      exact .inr ⟨mark, told, closed, starts⟩
    · exact .inl ⟨before, asked, mark, begins, told, starts, closed⟩
  · rintro (⟨before, asked, mark, begins, told, starts, closed⟩ | ⟨mark, told, closed, starts⟩)
    · exact ⟨before, asked, mark, begins.trans (List.prefix_append _ _), told, starts, closed⟩
    · exact ⟨own, call, mark, List.prefix_refl _, told, starts, closed⟩

theorem seen_time {mark : Mark Key} (told : seen thread turn kind call = some mark) :
    instant call = some mark.time := by
  cases call with
  | observe event now =>
    unfold seen at told
    dsimp only at told
    split at told
    · split at told
      · cases told
        rfl
      · cases told
    · split at told
      · cases told
        rfl
      · cases told
    · split at told
      · cases told
        rfl
      · cases told
    · split at told
      · cases told
        rfl
      · cases told
    · cases told
  | responseWritten id now =>
    unfold seen at told
    dsimp only at told
    split at told
    · cases told
      rfl
    · cases told
  | take owner other => cases told
  | clear => cases told

/-- What a turn has open was opened before the next call. -/
theorem marks_before {mark : Mark Key}
    (ordered : Ordered (earlier ++ opening :: own ++ [call]))
    (told : seen thread turn kind call = some mark) :
    (pairing (marks thread turn kind own)).Before mark.time := by
  apply pairing_before
  intro before listed
  obtain ⟨past, member, said⟩ := List.mem_filterMap.mp listed
  unfold Ordered at ordered
  rw [List.filterMap_append, List.pairwise_append] at ordered
  apply ordered.2.2
  · exact List.mem_filterMap.mpr ⟨past, by simp [member], seen_time said⟩
  · exact List.mem_filterMap.mpr ⟨call, by simp, seen_time told⟩

/-- One more call: the recorder still follows what was said. -/
theorem follows_snoc {recorder : Recorder Key}
    (follows : recorder.Follows maxBufferedEvents (Hit thread turn kind earlier opening own)
      (pairing (marks thread turn kind own)))
    (ordered : Ordered (earlier ++ opening :: own ++ [call])) :
    (placed (full (stateAfter (earlier ++ opening :: own)) thread kind) recorder
        (seen thread turn kind call)).Follows maxBufferedEvents
      (Hit thread turn kind earlier opening (own ++ [call]))
      (pairing (marks thread turn kind (own ++ [call]))) := by
  cases told : seen thread turn kind call with
  | none =>
    have same : marks thread turn kind (own ++ [call]) = marks thread turn kind own := by
      simp [marks, told]
    have still : Hit thread turn kind earlier opening (own ++ [call]) =
        Hit thread turn kind earlier opening own := by
      rw [hit_snoc, told]
      simp
    rw [same, still]
    exact follows
  | some mark =>
    have more : marks thread turn kind (own ++ [call]) = marks thread turn kind own ++ [mark] := by
      simp [marks, told]
    have hit : Hit thread turn kind earlier opening (own ++ [call]) =
        (Hit thread turn kind earlier opening own ∨
          full (stateAfter (earlier ++ opening :: own)) thread kind = true ∧
            mark.starts = true) := by
      rw [hit_snoc, told]
      simp
    rw [more, hit, pairing_snoc]
    exact follows.step (marks_before ordered told)

theorem explained_snoc {timing : ObservedTurnTiming}
    (explained : Explained calls thread turn timing) (call : Call F) :
    Explained (calls ++ [call]) thread turn timing := by
  obtain ⟨earlier, opening, own, completion, later, rfl, told⟩ := explained
  exact ⟨earlier, opening, own, completion, later ++ [call], by simp, told⟩

theorem recorded_snoc {after : Turn} (inv : Inv calls) (ordered : Ordered (calls ++ [call]))
    (fresh : Fresh (stateAfter calls) call)
    (found : (stateAfter (calls ++ [call])).turns.find? thread = some after) :
    Recorded (calls ++ [call]) thread after := by
  have moved : (stateAfter calls).perform call = stateAfter (calls ++ [call]) :=
    (stateAfter_snoc calls call).symm
  by_cases tracks : Tracks (stateAfter calls) thread after.id
  · obtain ⟨record, tracked, named⟩ := tracks
    obtain ⟨earlier, opening, own, rfl, session, starts, follows⟩ :=
      inv.recorded thread record tracked
    rw [stateAfter_snoc] at found
    obtain ⟨started, moves⟩ := moves_perform tracked inv.owned fresh after found named.symm
    rw [moved] at found moves
    rw [named] at session starts follows moves
    refine ⟨earlier, opening, own ++ [call], by simp, ?_, ?_, ?_⟩
    · apply session_snoc session
      exact ⟨after, by simpa using found, rfl⟩
    · rw [started]
      exact starts
    · intro begun kind
      rw [moves]
      exact follows_snoc (follows (started ▸ begun) kind) ordered
  · rw [stateAfter_snoc] at found
    obtain ⟨starts, empty⟩ := opened_perform inv.owned found tracks
    rw [moved] at found empty
    refine ⟨calls, call, [], rfl, ⟨tracks, ?_⟩, starts, ?_⟩
    · intro before begins
      rw [List.prefix_nil.mp begins]
      exact ⟨after, found, rfl⟩
    · intro begun kind
      have none : Hit thread after.id kind calls call [] = False := by
        rw [eq_iff_iff, iff_false]
        rintro ⟨before, asked, mark, begins, _⟩
        simp at begins
      rw [empty begun kind, none]
      exact .empty

/-- A category of a closing record is known for what its marks say. -/
theorem categoryOf_recorded {record : Turn} {value : Nat}
    (starts : record.started = true ↔ Starts thread record.id opening)
    (follows : record.started = true →
      (view (pending state thread record.id) record kind).Follows maxBufferedEvents
        (Hit thread record.id kind earlier opening own)
        (pairing (marks thread record.id kind own))) :
    categoryOf (closing state thread record) kind = some value ↔
      Knows thread record.id kind earlier opening own value := by
  rw [categoryOf_closing]
  constructor
  · rintro ⟨started, complete, closed, length⟩
    have follows := follows started
    obtain ⟨room, paired, few, opened, spans⟩ := follows.exact complete
    rw [opened] at closed
    rw [unionMs_eq_some follows.valid] at length
    refine ⟨starts.mp started, room, paired, closed, few, ?_⟩
    rw [← spans]
    exact length
  · rintro ⟨begun, room, paired, closed, few, length⟩
    have started := starts.mpr begun
    have follows := follows started
    have complete : (view (pending state thread record.id) record kind).incomplete = false := by
      cases given : (view (pending state thread record.id) record kind).incomplete with
      | false => rfl
      | true =>
        rcases follows.reason given with hit | stray | many
        · exact absurd hit room
        · rw [paired] at stray
          cases stray
        · omega
    obtain ⟨_, _, _, opened, spans⟩ := follows.exact complete
    refine ⟨started, complete, ?_, ?_⟩
    · rw [opened]
      exact closed
    · rw [unionMs_eq_some follows.valid, spans]
      exact length

theorem inv_snoc (inv : Inv calls) (ordered : Ordered (calls ++ [call]))
    (fresh : Fresh (stateAfter calls) call) : Inv (calls ++ [call]) where
  owned := by
    rw [stateAfter_snoc]
    exact owned_perform inv.owned call
  recorded := fun thread after found => recorded_snoc inv ordered fresh found
  explained := by
    intro receipt listed
    rw [stateAfter_snoc] at listed
    rcases completed_perform call with fewer | ⟨owner, other, record, kept, completes, tracked, rfl,
        sublist, same⟩
    · exact explained_snoc (inv.explained receipt (fewer.subset listed)) call
    · rw [same, List.mem_append, List.mem_singleton] at listed
      rcases listed with old | rfl
      · exact explained_snoc (inv.explained receipt (sublist.subset old)) call
      · obtain ⟨earlier, opening, own, rfl, session, starts, follows⟩ :=
          inv.recorded owner record tracked
        exact ⟨earlier, opening, own, call, [], by simp, session, completes, fun kind value =>
          categoryOf_recorded starts fun begun => follows begun kind⟩

theorem inv_run (calls : List (Call F)) (ordered : Ordered calls) (fresh : FreshRequests calls) :
    Inv calls := by
  induction calls using List.reverseRecOn with
  | nil => exact inv_nil
  | append_singleton calls call ih =>
    have earlier : Ordered calls := by
      unfold Ordered at ordered ⊢
      rw [List.filterMap_append] at ordered
      exact (List.pairwise_append.mp ordered).1
    apply inv_snoc (ih earlier fun before asked begins =>
      fresh before asked (begins.trans (List.prefix_append _ _))) ordered
    exact fresh calls call (List.prefix_refl _)

/-- Every receipt that can be taken is exact about the calls since tracking began, and no receipt is
taken twice. -/
theorem observed_timing_is_exact (calls : List (Call F)) (ordered : Ordered calls)
    (fresh : FreshRequests calls) :
    (∀ thread turn timing left, (stateAfter calls).take thread turn = some (timing, left) →
      Explained calls thread turn timing) ∧
    ∀ thread turn, takenFrom thread turn .empty calls ≤ calls.countP (completes thread turn) := by
  constructor
  · intro thread turn timing left taken
    obtain ⟨index, receipt, first, held, same⟩ := take_eq_some taken
    cases same
    obtain ⟨inside, passes, _⟩ := List.findIdx?_eq_some_iff_getElem.mp first
    rw [List.getElem?_eq_getElem inside, Option.some.injEq] at held
    rw [held] at passes
    simp only [Bool.and_eq_true, decide_eq_true_eq] at passes
    rw [← passes.1, ← passes.2]
    apply (inv_run calls ordered fresh).explained
    rw [← held]
    exact List.getElem_mem inside
  · intro thread turn
    have bound := @takenFrom_le F .empty thread turn calls
    simpa [State.empty] using bound

instance decidableOrdered (calls : List (Call F)) : Decidable (Ordered calls) :=
  inferInstanceAs (Decidable (List.Pairwise _ _))

/-- `Fresh`, checked. -/
def freshCall (state : State) : Call F → Bool
  | .observe event _ =>
    match observed event with
    | some (.requested id _ _) => (state.requests.find? id).isNone
    | _ => true
  | _ => true

theorem fresh_of_freshCall (fresh : freshCall state call = true) : Fresh state call := by
  rintro event now id thread turn rfl said
  simpa [freshCall, said] using fresh

def freshFrom (state : State) : List (Call F) → Bool
  | [] => true
  | call :: rest => freshCall state call && freshFrom (state.perform call) rest

theorem freshRequests_of_freshFrom {calls : List (Call F)} (fresh : freshFrom .empty calls = true) :
    FreshRequests calls := by
  suffices general : ∀ (past rest : List (Call F)), freshFrom (stateAfter past) rest = true →
      ∀ before call, before ++ [call] <+: rest → Fresh (stateAfter (past ++ before)) call by
    intro before call begins
    exact general [] calls fresh before call begins
  clear fresh
  intro past rest
  induction rest generalizing past with
  | nil =>
    intro _ before call begins
    simp at begins
  | cons first rest ih =>
    intro fresh before call begins
    rw [freshFrom, Bool.and_eq_true] at fresh
    cases before with
    | nil =>
      rw [List.nil_append, List.cons_prefix_cons] at begins
      rw [List.append_nil, begins.1]
      exact fresh_of_freshCall fresh.1
    | cons head before =>
      rw [List.cons_append, List.cons_prefix_cons] at begins
      obtain ⟨rfl, begins⟩ := begins
      rw [List.append_cons]
      apply ih (past ++ [head]) _ before call begins
      rw [stateAfter_snoc]
      exact fresh.2

def turnEvent (method turn : String) (now : Nat) : Call Unit :=
  .observe (.notification method (.object [("threadId", .string "thread"),
    ("turn", .object [("id", .string turn)])])) now

def itemEvent (method turn type id : String) (now : Nat) : Call Unit :=
  .observe (.notification method (.object [("threadId", .string "thread"),
    ("turnId", .string turn), ("item", .object [("id", .string id), ("type", .string type)])])) now

/-- Two tools that overlap, a question and its answer. -/
def sampleRun : List (Call Unit) :=
  [turnEvent "turn/started" "turn" 0,
    itemEvent "item/started" "turn" "mcpToolCall" "a" 2000000,
    itemEvent "item/started" "turn" "commandExecution" "b" 4000000,
    .observe (.request (.number 7) "item/tool/requestUserInput" (.object
      [("threadId", .string "thread"), ("turnId", .string "turn")])) 5000000,
    itemEvent "item/completed" "turn" "mcpToolCall" "a" 8000000,
    .responseWritten (.number 7) 8500000,
    itemEvent "item/completed" "turn" "commandExecution" "b" 9000000,
    turnEvent "turn/completed" "turn" 9500000]

theorem sample_timing_is_exact :
    (stateAfter sampleRun).take "thread" "turn" = some
      ({ toolActivityMs := some 7, userRequestMs := some 3 },
        ⟨.empty, .empty, []⟩) ∧
    Explained sampleRun "thread" "turn" { toolActivityMs := some 7, userRequestMs := some 3 } := by
  have taken : (stateAfter sampleRun).take "thread" "turn" = some
      ({ toolActivityMs := some 7, userRequestMs := some 3 }, ⟨.empty, .empty, []⟩) := by
    rfl
  exact ⟨taken, (observed_timing_is_exact sampleRun (by decide +kernel)
    (freshRequests_of_freshFrom (by decide +kernel))).1 _ _ _ _ taken⟩

/-- The call observes an event that names another thread or another turn. -/
def foreign (thread turn : String) : Call F → Bool
  | .observe event _ =>
    match observed event with
    | some (.requested _ thread' turn') => thread' ≠ thread || turn' ≠ turn
    | some (.turnStarted thread' turn') => thread' ≠ thread || turn' ≠ turn
    | some (.turnCompleted thread' turn') => thread' ≠ thread || turn' ≠ turn
    | some (.itemStarted thread' turn' _ _) => thread' ≠ thread || turn' ≠ turn
    | some (.itemCompleted thread' turn' _ _) => thread' ≠ thread || turn' ≠ turn
    | some (.resolved thread' _) => thread' ≠ thread
    | some (.departed thread' _) => thread' ≠ thread
    | none => false
  | _ => false

def undisturbedRun : List (Call Unit) :=
  [turnEvent "turn/started" "turn" 0,
    itemEvent "item/started" "turn" "agentMessage" "model" 1000000,
    itemEvent "item/completed" "turn" "agentMessage" "model" 3000000,
    turnEvent "turn/completed" "turn" 4000000]

def disturbedRun : List (Call Unit) :=
  [turnEvent "turn/started" "turn" 0,
    itemEvent "item/started" "turn" "agentMessage" "model" 1000000,
    turnEvent "turn/started" "other" 1500000, turnEvent "turn/completed" "other" 2000000,
    itemEvent "item/completed" "turn" "agentMessage" "model" 3000000,
    turnEvent "turn/completed" "turn" 4000000]

/-- The start of another turn of the thread takes the tracking of this one, and its end leaves the
rest of this turn to a record that is attached midway. -/
theorem other_turn_makes_unknown : ¬∀ (calls others : List (Call Unit)) (thread turn : String)
    (timing timing' : ObservedTurnTiming) (left left' : State), Ordered calls → Ordered others →
    FreshRequests calls → FreshRequests others →
    (calls.filter fun call => !foreign thread turn call) =
      (others.filter fun call => !foreign thread turn call) →
    (stateAfter calls).take thread turn = some (timing, left) →
    (stateAfter others).take thread turn = some (timing', left') → timing = timing' := by
  intro unchanged
  have equal := unchanged undisturbedRun disturbedRun "thread" "turn"
    { modelOutputMs := some 2 } {} _ _ (by decide +kernel) (by decide +kernel)
    (freshRequests_of_freshFrom (by decide +kernel))
    (freshRequests_of_freshFrom (by decide +kernel)) rfl rfl rfl
  cases equal

end Decodex.Guarantees.TurnTiming
