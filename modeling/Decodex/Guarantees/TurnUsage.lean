import Decodex.Source.Store.AgentUsage
import Mathlib.Data.List.Chain

/-!
# Token usage of a turn

What the usage columns of a thread say is kept in a ledger: the baseline that was recorded when a
turn became the row's turn, the counters that were reported for it since, and the turn whose live
report the row's text is. A replay gives the active turn its baseline until there is a live
report for it. The code holds a replay off by a known delta only: where none is known, a replay
takes the place of a live report.
-/
namespace Decodex.Guarantees.TurnUsage

open Decodex.Library Decodex.Source.Core
open Decodex.Source.Store.AgentDispatch (AgentStore AgentFailure Observation PayloadHost require
  require_eq_ok orElse orElse_eq_ok)
open Decodex.Source.Store.AgentUsage

structure Ledger where
  turn : String
  /-- The totals when the turn became the row's turn; null where none were recorded. -/
  baseline : UsageCounters
  /-- The counters that were reported for the turn since, oldest first. -/
  reports : List UsageCounters
  /-- The turn whose live report the row's text is. -/
  live : Option String

def unknownCounters : UsageCounters := ⟨none, none⟩

variable (usages : UsageHost) (host : PayloadHost) (thread : String)

/-- The row's text was reported live for the turn that is active now. -/
def isLive (store : UsageStore) (ledger : Option Ledger) : Bool :=
  (boundWork store.agents thread).any fun work => ledger.any fun entry =>
    work.activeTurnId.isSome && entry.live = work.activeTurnId

/-- A turn becomes the row's turn, with the totals of the row as its baseline. -/
def bound (store : UsageStore) (work turn : String) (ledger : Option Ledger) : Option Ledger :=
  match (store.agentUsage.find? thread).filter fun row => row.workId = work with
  | none => ledger
  | some row =>
    some ⟨turn, (usages.counters row.usageJson).getD unknownCounters, [], ledger.bind (·.live)⟩

/-- A report for the active turn. -/
def reported (turn usage : String) (ledger : Option Ledger) : Ledger :=
  let counters := (usages.counters usage).getD unknownCounters
  match ledger.filter fun entry => entry.turn = turn with
  | some entry => { entry with reports := entry.reports ++ [counters], live := some turn }
  | none => ⟨turn, unknownCounters, [counters], some turn⟩

/-- What an accepted call enters. -/
def entered (store : UsageStore) (ledger : Option Ledger) : UsageCall → Option Ledger
  | .initializeAgentUsage target =>
    if target = thread ∧ (store.agentUsage.find? thread).isNone ∧
        (boundWork store.agents thread).isSome then
      some ⟨"", unknownCounters, [], none⟩
    else ledger
  | .acknowledgeAgentDispatch id turn _ _ _ =>
    if (store.agents.agentWorkItems.find? id).bind (·.codexThreadId) = some thread then
      bound usages thread store id turn ledger
    else ledger
  | .observeAgentNativeTurn target turn connection payload account owned now =>
    match (boundWork store.agents thread).filter fun _ => target = thread ∧
        (Source.Store.AgentDispatch.observeAgentNativeTurn host store.agents target turn
          connection payload account owned now).map (·.1) = .ok true with
    | some work => bound usages thread store work.id turn ledger
    | none => ledger
  | .updateAgentUsage target turn usage =>
    if target = thread ∧ (reportingWork store.agents thread turn).isSome then
      some (reported usages turn usage ledger)
    else ledger
  | .restoreAgentUsage target turn usage =>
    match (replayedWork store.agents thread turn).filter fun work => target = thread ∧
        isLive thread store ledger = false ∧
        (store.agentUsage.find? thread).all fun row => isReplaceable row work with
    | some work => some ⟨work.activeTurnId.getD turn,
        (usages.counters usage).getD unknownCounters, [], none⟩
    | none => ledger
  | .validateAgentUsageResume target lastTurn =>
    ledger.filter fun entry =>
      !(target = thread && (lastTurn.all fun turn => entry.turn ≠ turn))
  | .elsewhere _ => ledger

def ledgerStep (state : UsageStore × Option Ledger) (call : UsageCall) :
    UsageStore × Option Ledger :=
  match perform usages host state.1 call with
  | .ok after => (after, entered usages host thread state.1 state.2 call)
  | .error _ => state

/-- The store and the ledger of a thread after a run. -/
def ledgerAfter (agents : AgentStore) (calls : List UsageCall) : UsageStore × Option Ledger :=
  calls.foldl (ledgerStep usages host thread) (⟨agents, .empty⟩, none)

/-- One of the two counters, with its columns. -/
structure Column where
  counter : UsageCounters → Option Int
  baseline : AgentUsageRow → Option Int
  delta : AgentUsageRow → Option Int

def inputs : Column := ⟨(·.input), (·.baselineInputTokens), (·.turnInputTokens)⟩

def outputs : Column := ⟨(·.output), (·.baselineOutputTokens), (·.turnOutputTokens)⟩

/-- A count is the last reported total minus the baseline, of totals that never fell. -/
def Counted (column : Column) (entry : Ledger) (count : Nat) : Prop :=
  ∃ start values last, column.counter entry.baseline = some start ∧
    entry.reports.map column.counter = values.map some ∧
    (start :: values).IsChain (· ≤ ·) ∧ values.getLast? = some last ∧ (count : Int) = last - start

/-- What is read of a turn is what the ledger says of it. -/
def Exact (state : UsageStore × Option Ledger) : Prop :=
  ∀ turn input output, readAgentTurnUsage state.1 thread turn = some (input, output) →
    ∃ entry, state.2 = some entry ∧ entry.turn = turn ∧ Counted inputs entry input ∧
      Counted outputs entry output

/-- A replay leaves the live usage of the active turn as it is. -/
def KeepsLive (state : UsageStore × Option Ledger) (call : UsageCall) : Prop :=
  ∀ target turn usage, call = .restoreAgentUsage target turn usage →
    isLive thread state.1 state.2 = true →
    (afterCall usages host state.1 call).agentUsage.find? thread = state.1.agentUsage.find? thread

/-- The row that an accepted replay writes, with the work of the row that was there. -/
def storedReplay (table : Table usageTable) (work : AgentWorkItem) (target turn usage : String)
    (counters : UsageCounters) : AgentUsageRow :=
  { replayedRow work target turn usage counters with
    workId := ((table.find? target).map (·.workId)).getD work.id }

/-- A replay that is stored over a live row, for no delta of the row is known. -/
def Overwrites (state : UsageStore × Option Ledger) (call : UsageCall) : Prop :=
  ∃ turn usage work row counters, call = .restoreAgentUsage thread turn usage ∧
    ¬(1024 < usage.utf8ByteSize ∨ 512 < thread.utf8ByteSize ∨ 512 < turn.utf8ByteSize) ∧
    isLive thread state.1 state.2 = true ∧
    boundWork state.1.agents thread = some work ∧ work.activeTurnId ≠ some turn ∧
    state.1.agentUsage.find? thread = some row ∧
    row.turnInputTokens = none ∧ row.turnOutputTokens = none ∧
    usages.counters usage = some counters ∧
    usageTable.check (replayedRow work thread turn usage counters) = true ∧
    storedReplay state.1.agentUsage work thread turn usage counters ≠ row

theorem find?_writeRow {table after : Table usageTable} {row : AgentUsageRow}
    (h : writeRow table row = .ok after) (key : String) :
    after.find? key = if key = row.threadId then some row else table.find? key := by
  unfold writeRow at h
  rw [orElse_eq_ok] at h
  cases found : table.find? row.threadId with
  | none =>
    rw [found] at h
    rw [Table.find?_insert h key]
    exact if_congr eq_comm rfl rfl
  | some old =>
    rw [found] at h
    have same : old.threadId = row.threadId := Table.key_of_find? found
    rw [Table.find?_updateKey_of_found h found (fun _ => rfl) key, same]

theorem find?_writeRow_self {table after : Table usageTable} {row : AgentUsageRow}
    (h : writeRow table row = .ok after) : after.find? row.threadId = some row := by
  rw [find?_writeRow h, if_pos rfl]

/-- A row that passes the check is written. -/
theorem writeRow_of_check (table : Table usageTable) (row : AgentUsageRow)
    (checked : usageTable.check row = true) : ∃ after, writeRow table row = .ok after := by
  unfold writeRow
  simp only [orElse_eq_ok]
  cases found : table.find? row.threadId with
  | none =>
    apply table.insert_of_compatible row checked
    intro old member
    exact ⟨Table.find?_eq_none_iff.mp found old member, rfl, rfl⟩
  | some old =>
    apply table.updateWhere_of_apart
    · intro old member hit
      exact checked
    · intro old
      rfl
    · intro left right clashes
      exact clashes

/-- A known baseline is the ledger's, with reports that never fell since; a known delta is the
last of them minus the baseline. -/
def Tracks (entry : Ledger) (row : AgentUsageRow) (column : Column) : Prop :=
  match column.baseline row with
  | none => column.delta row = none
  | some start =>
    column.counter entry.baseline = some start ∧
    ∃ values, entry.reports.map column.counter = values.map some ∧
      (start :: values).IsChain (· ≤ ·) ∧
      (∃ now, usages.counters row.usageJson = some now ∧
        column.counter now = (start :: values).getLast?) ∧
      (column.delta row = none ∨
        ∃ last, values.getLast? = some last ∧ column.delta row = some (last - start))

structure Follows (row : AgentUsageRow) (entry : Ledger) : Prop where
  turn : row.turnId = entry.turn
  input : Tracks usages entry row inputs
  output : Tracks usages entry row outputs

/-- A thread has a row where it has a ledger, and the row follows it. -/
def Linked (state : UsageStore × Option Ledger) : Prop :=
  Option.Rel (Follows usages) (state.1.agentUsage.find? thread) state.2

variable {usages}

/-- A row without baseline and delta follows any ledger. -/
theorem tracks_unknown {entry : Ledger} {row : AgentUsageRow} {column : Column}
    (baseline : column.baseline row = none) (delta : column.delta row = none) :
    Tracks usages entry row column := by
  unfold Tracks
  rw [baseline]
  exact delta

/-- The baseline of a turn without reports is what the row's text says. -/
theorem tracks_baseline {entry : Ledger} {row : AgentUsageRow} {column : Column}
    {counters : UsageCounters} (read : usages.counters row.usageJson = some counters)
    (ledger : entry.baseline = counters) (reports : entry.reports = [])
    (baseline : column.baseline row = column.counter counters)
    (delta : column.delta row = none) : Tracks usages entry row column := by
  unfold Tracks
  cases known : column.baseline row with
  | none => exact delta
  | some start =>
    rw [known] at baseline
    refine ⟨by rw [ledger, ← baseline], [], by rw [reports]; rfl, by simp, ?_, .inl delta⟩
    exact ⟨counters, read, by rw [← baseline]; rfl⟩

/-- A further report keeps the columns in step. -/
theorem tracks_report {entry next : Ledger} {row after : AgentUsageRow} {column : Column}
    {new old : UsageCounters} (tracked : Tracks usages entry row column)
    (readNew : usages.counters after.usageJson = some new)
    (readOld : usages.counters row.usageJson = some old)
    (ledger : next.baseline = entry.baseline) (reports : next.reports = entry.reports ++ [new])
    (baseline : column.baseline after =
      if notLess (column.counter new) (column.counter old) then column.baseline row else none)
    (delta : column.delta after =
      if notLess (column.counter new) (column.counter old) then
        minus (column.counter new) (column.baseline row) else none) :
    Tracks usages next after column := by
  unfold Tracks at tracked
  cases risen : notLess (column.counter new) (column.counter old) with
  | false =>
    rw [risen] at baseline delta
    exact tracks_unknown baseline delta
  | true =>
    rw [risen, if_pos rfl] at baseline delta
    cases started : column.baseline row with
    | none =>
      rw [started] at baseline delta
      apply tracks_unknown baseline
      rw [delta]
      cases column.counter new <;> rfl
    | some start =>
      rw [started] at baseline delta tracked
      obtain ⟨recorded, values, mapped, chain, ⟨now, readNow, current⟩, _⟩ := tracked
      cases readNow.symm.trans readOld
      unfold notLess at risen
      split at risen
      · rename_i last before newCounter oldCounter
        have least : before ≤ last := by simpa using risen
        rw [oldCounter] at current
        unfold Tracks
        rw [baseline]
        refine ⟨by rw [ledger, recorded], values ++ [last], ?_, ?_, ?_, .inr ⟨last, by simp, ?_⟩⟩
        · rw [reports, List.map_append, List.map_append, mapped, List.map_singleton, newCounter]
          rfl
        · rw [← List.cons_append, List.isChain_append]
          refine ⟨chain, by simp, ?_⟩
          intro found foundLast value head
          rw [← current] at foundLast
          cases foundLast
          cases head
          exact least
        · refine ⟨new, readNew, ?_⟩
          rw [newCounter, ← List.cons_append, List.getLast?_append]
          rfl
        · rw [delta, newCounter]
          rfl
      · cases risen

section Calls

variable {thread} {store after : UsageStore} {ledger : Option Ledger}

theorem bindTurn_frame {table written : Table usageTable} {target : Option String}
    {work turn : String} (other : target ≠ some thread)
    (h : bindTurn usages table target work turn = .ok written) :
    written.find? thread = table.find? thread := by
  unfold bindTurn at h
  split at h
  · cases h
    rfl
  · rename_i row found
    obtain ⟨counters, _, h⟩ := bind_ok h
    rw [find?_writeRow h, if_neg]
    intro same
    obtain ⟨name, named, found⟩ := Option.bind_eq_some_iff.mp (Option.filter_eq_some_iff.mp found).1
    apply other
    rw [named, same]
    exact congrArg some (Table.key_of_find? found).symm

theorem bindTurn_follows {written : Table usageTable} {work turn : String}
    (linked : Linked usages thread (store, ledger))
    (h : bindTurn usages store.agentUsage (some thread) work turn = .ok written) :
    Option.Rel (Follows usages) (written.find? thread)
      (bound usages thread store work turn ledger) := by
  unfold bindTurn at h
  unfold bound
  rw [Option.bind_some] at h
  cases found : (store.agentUsage.find? thread).filter fun row => row.workId = work with
  | none =>
    rw [found] at h
    cases h
    exact linked
  | some row =>
    rw [found] at h
    obtain ⟨counters, read, h⟩ := bind_ok h
    rw [orElse_eq_ok] at read
    have same : row.threadId = thread := Table.key_of_find? (Option.filter_eq_some_iff.mp found).1
    rw [find?_writeRow h, if_pos same.symm]
    apply Option.Rel.some
    constructor
    · rfl
    · exact tracks_baseline read (by simp [read]) rfl rfl rfl
    · exact tracks_baseline read (by simp [read]) rfl rfl rfl

theorem zeroUsage_length : zeroUsage.length ≤ 1024 := by decide

theorem initializeAgentUsage_follows {target : String}
    (linked : Linked usages thread (store, ledger)) :
    Option.Rel (Follows usages) ((initializeAgentUsage store target).agentUsage.find? thread)
      (entered usages host thread store ledger (.initializeAgentUsage target)) := by
  unfold initializeAgentUsage
  simp only [entered]
  split
  · rename_i written inserted
    obtain ⟨work, found, inserted⟩ := Option.bind_eq_some_iff.mp inserted
    have fresh : store.agentUsage.find? target = none := Table.insert_fresh inserted
    have written_row : written.find? thread = if target = thread then
        some ⟨target, work.id, "", zeroUsage, none, none, none, none⟩
        else store.agentUsage.find? thread := Table.find?_insert inserted thread
    rw [written_row]
    by_cases same : target = thread
    · subst same
      rw [if_pos rfl, if_pos ⟨rfl, by rw [fresh]; rfl, by rw [found]; rfl⟩]
      exact .some ⟨rfl, tracks_unknown rfl rfl, tracks_unknown rfl rfl⟩
    · rw [if_neg same, if_neg fun held => same held.1]
      exact linked
  · rename_i refused
    rw [if_neg]
    · exact linked
    · rintro ⟨rfl, absent, present⟩
      obtain ⟨work, found⟩ := Option.isSome_iff_exists.mp present
      rw [found, Option.bind_some] at refused
      have free : ∀ old ∈ store.agentUsage.rows, usageTable.Compatible old
          ⟨target, work.id, "", zeroUsage, none, none, none, none⟩ := by
        intro old member
        refine ⟨?_, rfl, rfl⟩
        exact Table.find?_eq_none_iff.mp (Option.isNone_iff_eq_none.mp absent) old member
      have checked : usageTable.check
          ⟨target, work.id, "", zeroUsage, none, none, none, none⟩ = true := by
        simp [usageTable, isCount, zeroUsage_length]
      obtain ⟨written, inserted⟩ := store.agentUsage.insert_of_compatible _ checked free
      rw [inserted] at refused
      cases refused

theorem reportedRow_threadId {row made : AgentUsageRow} {turn usage : String}
    (h : reportedRow usages row turn usage = .ok made) : made.threadId = row.threadId := by
  unfold reportedRow at h
  split at h
  · obtain ⟨new, _, h⟩ := bind_ok h
    obtain ⟨old, _, h⟩ := bind_ok h
    cases h
    rfl
  · cases h
    rfl

theorem reportedRow_follows {row made : AgentUsageRow} {entry : Ledger} {turn usage : String}
    (follows : Follows usages row entry) (h : reportedRow usages row turn usage = .ok made) :
    Follows usages made (reported usages turn usage (some entry)) := by
  unfold reportedRow at h
  split at h
  · rename_i same
    obtain ⟨new, readNew, h⟩ := bind_ok h
    obtain ⟨old, readOld, h⟩ := bind_ok h
    rw [orElse_eq_ok] at readNew readOld
    cases h
    have current : (some entry).filter (fun entry => entry.turn = turn) = some entry := by
      rw [Option.filter_some, if_pos]
      rw [← follows.turn, same]
      exact decide_eq_true rfl
    unfold reported
    simp only [current, readNew, Option.getD_some]
    constructor
    · exact follows.turn
    · exact tracks_report follows.input readNew readOld rfl rfl rfl rfl
    · exact tracks_report follows.output readNew readOld rfl rfl rfl rfl
  · rename_i differ
    cases h
    have replaced : (some entry).filter (fun entry => entry.turn = turn) = none := by
      rw [Option.filter_some, if_neg]
      rw [← follows.turn]
      simpa using differ
    unfold reported
    simp only [replaced]
    exact ⟨rfl, tracks_unknown rfl rfl, tracks_unknown rfl rfl⟩

theorem updatedRow_threadId {table : Table usageTable} {made : AgentUsageRow}
    {work : AgentWorkItem} {turn usage : String}
    (h : updatedRow usages table work thread turn usage = .ok made) : made.threadId = thread := by
  unfold updatedRow at h
  split at h
  · cases h
    rfl
  · rename_i row found
    rw [reportedRow_threadId h]
    exact Table.key_of_find? found

theorem updatedRow_follows {made : AgentUsageRow} {work : AgentWorkItem} {turn usage : String}
    (linked : Linked usages thread (store, ledger))
    (h : updatedRow usages store.agentUsage work thread turn usage = .ok made) :
    Follows usages made (reported usages turn usage ledger) := by
  unfold Linked at linked
  unfold updatedRow at h
  split at h
  · rename_i absent
    rw [absent] at linked
    cases linked
    cases h
    exact ⟨rfl, tracks_unknown rfl rfl, tracks_unknown rfl rfl⟩
  · rename_i row found
    rw [found] at linked
    cases linked with
    | some follows => exact reportedRow_follows follows h

theorem updateAgentUsage_follows {target turn usage : String}
    (linked : Linked usages thread (store, ledger))
    (h : updateAgentUsage usages store target turn usage = .ok after) :
    Option.Rel (Follows usages) (after.agentUsage.find? thread)
      (entered usages host thread store ledger (.updateAgentUsage target turn usage)) := by
  unfold updateAgentUsage at h
  obtain ⟨_, _, h⟩ := bind_ok h
  simp only [entered]
  split at h
  · rename_i idle
    cases h
    rw [if_neg]
    · exact linked
    · rintro ⟨rfl, reporting⟩
      rw [idle] at reporting
      cases reporting
  · rename_i work reporting
    obtain ⟨row, made, h⟩ := bind_ok h
    obtain ⟨written, wrote, h⟩ := bind_ok h
    cases h
    have named := updatedRow_threadId made
    by_cases same : target = thread
    · subst same
      have follows := updatedRow_follows linked made
      rw [if_pos ⟨rfl, by rw [reporting]; rfl⟩, find?_writeRow wrote, if_pos named.symm]
      exact .some follows
    · rw [if_neg fun held => same held.1, find?_writeRow wrote, if_neg fun held => same (by
        rw [held, named])]
      exact linked

/-- An accepted replay is held off, or written over a row that gives way to it. -/
theorem restoreAgentUsage_effect {target turn usage : String}
    (h : restoreAgentUsage usages store target turn usage = .ok after) :
    (after = store ∧ ∀ work, replayedWork store.agents target turn = some work →
      ((store.agentUsage.find? target).all fun row => isReplaceable row work) = false) ∨
    ∃ work counters written, replayedWork store.agents target turn = some work ∧
      usages.counters usage = some counters ∧
      usageTable.check (replayedRow work target turn usage counters) = true ∧
      ((store.agentUsage.find? target).all fun row => isReplaceable row work) = true ∧
      writeRow store.agentUsage (storedReplay store.agentUsage work target turn usage counters) =
        .ok written ∧
      after = { store with agentUsage := written } := by
  unfold restoreAgentUsage at h
  obtain ⟨_, _, h⟩ := bind_ok h
  split at h
  · rename_i absent
    cases h
    refine .inl ⟨rfl, ?_⟩
    intro work found
    rw [absent] at found
    cases found
  · rename_i work found
    obtain ⟨counters, read, h⟩ := bind_ok h
    rw [orElse_eq_ok] at read
    dsimp only at h
    obtain ⟨_, checked, h⟩ := bind_ok h
    split at h
    · rename_i old held
      cases h
      refine .inl ⟨rfl, ?_⟩
      intro other same
      rw [found] at same
      cases same
      obtain ⟨present, firm⟩ := Option.filter_eq_some_iff.mp held
      rw [present]
      simpa using firm
    · rename_i free
      obtain ⟨written, wrote, h⟩ := bind_ok h
      cases h
      refine .inr ⟨work, counters, written, found, read, require_eq_ok.mp checked, ?_, wrote, rfl⟩
      cases present : store.agentUsage.find? target with
      | none => rfl
      | some row =>
        rw [present, Option.filter_eq_none_iff] at free
        simpa using free row rfl

/-- A live row that gives way to a replay has no delta, for a turn is active. -/
theorem isLive_replaceable {work : AgentWorkItem} {row : AgentUsageRow}
    (live : isLive thread store ledger = true) (found : boundWork store.agents thread = some work)
    (free : isReplaceable row work = true) :
    row.turnInputTokens = none ∧ row.turnOutputTokens = none := by
  unfold isLive at live
  rw [found, Option.any_some] at live
  obtain ⟨entry, _, active⟩ := (Option.any_eq_true _ _).mp live
  rw [Bool.and_eq_true] at active
  rcases of_decide_eq_true free with unknown | idle
  · exact unknown
  · rw [idle] at active
    cases active.1

theorem restoreAgentUsage_sized {target turn usage : String}
    (h : restoreAgentUsage usages store target turn usage = .ok after) :
    ¬(1024 < usage.utf8ByteSize ∨ 512 < target.utf8ByteSize ∨ 512 < turn.utf8ByteSize) := by
  unfold restoreAgentUsage at h
  obtain ⟨_, fits, _⟩ := bind_ok h
  exact require_eq_ok.mp fits

/-- A live row stays as it is, unless the replay is stored over it. -/
theorem restoreAgentUsage_keeps {target turn usage : String}
    (linked : Linked usages thread (store, ledger)) (live : isLive thread store ledger = true)
    (safe : ¬Overwrites usages thread (store, ledger) (.restoreAgentUsage target turn usage))
    (h : restoreAgentUsage usages store target turn usage = .ok after) :
    after.agentUsage.find? thread = store.agentUsage.find? thread := by
  rcases restoreAgentUsage_effect h with
    ⟨rfl, _⟩ | ⟨work, counters, written, found, read, checked, free, wrote, rfl⟩
  · rfl
  · by_cases same : target = thread
    · subst same
      have stored : written.find? target =
          some (storedReplay store.agentUsage work target turn usage counters) :=
        find?_writeRow_self wrote
      obtain ⟨bound_work, other⟩ := Option.filter_eq_some_iff.mp found
      unfold Linked at linked
      cases present : store.agentUsage.find? target with
      | none =>
        rw [present] at linked
        cases linked
        simp [isLive] at live
      | some row =>
        rw [present] at free
        have unknown := isLive_replaceable live bound_work (by simpa using free)
        by_contra differs
        apply safe
        refine ⟨turn, usage, work, row, counters, rfl, restoreAgentUsage_sized h, live, bound_work,
          by simpa using other, present, unknown.1, unknown.2, read, checked, ?_⟩
        intro same
        apply differs
        simp only [stored]
        exact congrArg some same
    · rw [find?_writeRow wrote, if_neg fun held => same held.symm]

theorem restoreAgentUsage_follows {target turn usage : String}
    (linked : Linked usages thread (store, ledger))
    (safe : ¬Overwrites usages thread (store, ledger) (.restoreAgentUsage target turn usage))
    (h : restoreAgentUsage usages store target turn usage = .ok after) :
    Option.Rel (Follows usages) (after.agentUsage.find? thread)
      (entered usages host thread store ledger (.restoreAgentUsage target turn usage)) := by
  simp only [entered]
  by_cases live : isLive thread store ledger = true
  · rw [restoreAgentUsage_keeps linked live safe h]
    simpa [live, Linked] using linked
  rcases restoreAgentUsage_effect h with
    ⟨rfl, held⟩ | ⟨work, counters, written, found, read, _, free, wrote, rfl⟩
  · split
    · rename_i work kept
      obtain ⟨found, same⟩ := Option.filter_eq_some_iff.mp kept
      obtain ⟨rfl, _, free⟩ := of_decide_eq_true same
      rw [held work found] at free
      cases free
    · exact linked
  · by_cases same : target = thread
    · subst same
      have stored : written.find? target =
          some (storedReplay store.agentUsage work target turn usage counters) :=
        find?_writeRow_self wrote
      simp only [stored]
      rw [found, Option.filter_some, if_pos (by simp [live, free])]
      apply Option.Rel.some
      constructor
      · rfl
      · exact tracks_baseline read (by simp [read]) rfl rfl rfl
      · exact tracks_baseline read (by simp [read]) rfl rfl rfl
    · rw [find?_writeRow wrote, if_neg fun held => same held.symm]
      simpa [same, Linked] using linked

theorem validateAgentUsageResume_follows {target : String} {lastTurn : Option String}
    (linked : Linked usages thread (store, ledger)) :
    Option.Rel (Follows usages)
      ((validateAgentUsageResume store target lastTurn).agentUsage.find? thread)
      (entered usages host thread store ledger (.validateAgentUsageResume target lastTurn)) := by
  unfold Linked at linked
  unfold validateAgentUsageResume
  simp only [entered, Table.find?_deleteWhere]
  cases present : store.agentUsage.find? thread with
  | none =>
    rw [present] at linked
    cases linked
    exact .none
  | some row =>
    have named : row.threadId = thread := Table.key_of_find? present
    rw [present] at linked
    cases linked with
    | @some _ entry follows =>
      simp only [Option.filter_some, named, follows.turn, eq_comm (a := thread)]
      split
      · exact .some follows
      · exact .none

theorem acknowledgeAgentDispatch_follows {id turn : String} {execution : Option Observation}
    {deliveries : List Observation} {now : Int} (linked : Linked usages thread (store, ledger))
    (h : acknowledgeAgentDispatch usages host store id turn execution deliveries now = .ok after) :
    Option.Rel (Follows usages) (after.agentUsage.find? thread)
      (entered usages host thread store ledger
        (.acknowledgeAgentDispatch id turn execution deliveries now)) := by
  unfold acknowledgeAgentDispatch at h
  obtain ⟨agents, _, h⟩ := bind_ok h
  obtain ⟨written, wrote, h⟩ := bind_ok h
  cases h
  simp only [entered]
  split
  · rename_i mine
    rw [mine] at wrote
    exact bindTurn_follows linked wrote
  · rename_i other
    rw [bindTurn_frame other wrote]
    exact linked

theorem observeAgentNativeTurn_follows {target turn connection payload : String}
    {account : Option String} {owned : String → Bool} {now : Int}
    (linked : Linked usages thread (store, ledger))
    (h : observeAgentNativeTurn usages host store target turn connection payload account owned now =
      .ok after) :
    Option.Rel (Follows usages) (after.agentUsage.find? thread)
      (entered usages host thread store ledger
        (.observeAgentNativeTurn target turn connection payload account owned now)) := by
  unfold observeAgentNativeTurn at h
  obtain ⟨⟨adopted, agents⟩, observed, h⟩ := bind_ok h
  simp only [entered, observed]
  by_cases same : target = thread
  · subst same
    cases adopted with
    | false =>
      cases found : boundWork store.agents target with
      | none =>
        rw [found] at h
        cases h
        exact linked
      | some work =>
        rw [found] at h
        cases h
        simpa [Except.map, Linked] using linked
    | true =>
      cases found : boundWork store.agents target with
      | none =>
        rw [found] at h
        cases h
        exact linked
      | some work =>
        rw [found] at h
        obtain ⟨written, wrote, h⟩ := bind_ok h
        cases h
        simp only [Option.filter_some, Except.map, decide_true, and_self, if_true]
        exact bindTurn_follows linked wrote
  · have frame : after.agentUsage.find? thread = store.agentUsage.find? thread := by
      dsimp only at h
      split at h
      · cases h
        rfl
      · obtain ⟨written, wrote, h⟩ := bind_ok h
        cases h
        exact bindTurn_frame (by simpa using same) wrote
    rw [frame]
    simpa [same, Linked] using linked

theorem perform_follows {call : UsageCall} (linked : Linked usages thread (store, ledger))
    (safe : ¬Overwrites usages thread (store, ledger) call)
    (h : perform usages host store call = .ok after) :
    Linked usages thread (after, entered usages host thread store ledger call) := by
  cases call with
  | initializeAgentUsage target =>
    cases h
    exact initializeAgentUsage_follows host linked
  | acknowledgeAgentDispatch => exact acknowledgeAgentDispatch_follows host linked h
  | observeAgentNativeTurn => exact observeAgentNativeTurn_follows host linked h
  | updateAgentUsage => exact updateAgentUsage_follows host linked h
  | restoreAgentUsage => exact restoreAgentUsage_follows host linked safe h
  | validateAgentUsageResume =>
    cases h
    exact validateAgentUsageResume_follows host linked
  | elsewhere agents =>
    cases h
    exact linked

end Calls

theorem ledgerAfter_snoc (agents : AgentStore) (calls : List UsageCall) (call : UsageCall) :
    ledgerAfter usages host thread agents (calls ++ [call]) =
      ledgerStep usages host thread (ledgerAfter usages host thread agents calls) call := by
  unfold ledgerAfter
  rw [List.foldl_append]
  rfl

theorem ledgerStep_linked {state : UsageStore × Option Ledger} {call : UsageCall}
    (linked : Linked usages thread state) (safe : ¬Overwrites usages thread state call) :
    Linked usages thread (ledgerStep usages host thread state call) := by
  unfold ledgerStep
  split
  · rename_i after performed
    exact perform_follows host linked safe performed
  · exact linked

/-- No call of a run stores a replay over a live row. -/
def NeverOverwrites (usages : UsageHost) (host : PayloadHost) (thread : String)
    (agents : AgentStore) (calls : List UsageCall) : Prop :=
  ∀ before call later, calls = before ++ call :: later →
    ¬Overwrites usages thread (ledgerAfter usages host thread agents before) call

theorem neverOverwrites_left {agents : AgentStore} {calls before later : List UsageCall}
    (safe : NeverOverwrites usages host thread agents calls) (same : calls = before ++ later) :
    NeverOverwrites usages host thread agents before := by
  intro earlier call rest split
  apply safe earlier call (rest ++ later)
  rw [same, split, List.append_assoc, List.cons_append]

theorem ledgerAfter_linked {agents : AgentStore} {calls : List UsageCall}
    (safe : NeverOverwrites usages host thread agents calls) :
    Linked usages thread (ledgerAfter usages host thread agents calls) := by
  induction calls using List.reverseRecOn with
  | nil => exact .none
  | append_singleton calls call ih =>
    rw [ledgerAfter_snoc]
    apply ledgerStep_linked
    · exact ih (neverOverwrites_left host thread safe rfl)
    · exact safe calls call [] rfl

theorem asU64_of_count {value : Int} (counted : isCount (some value) = true) :
    (asU64 value : Int) = value := by
  simp only [isCount, Option.all_some, Bool.and_eq_true, decide_eq_true_eq] at counted
  unfold asU64
  omega

/-- A known delta of a row that follows its ledger is exact. -/
theorem counted_of_tracks {entry : Ledger} {row : AgentUsageRow} {column : Column} {value : Int}
    (tracked : Tracks usages entry row column) (known : column.delta row = some value)
    (counted : isCount (column.delta row) = true) : Counted column entry (asU64 value) := by
  unfold Tracks at tracked
  rw [known] at counted
  split at tracked
  · rw [known] at tracked
    cases tracked
  · rename_i start baseline
    obtain ⟨recorded, values, mapped, chain, _, delta⟩ := tracked
    rcases delta with unknown | ⟨last, reached, delta⟩
    · rw [known] at unknown
      cases unknown
    · rw [known] at delta
      cases delta
      exact ⟨start, values, last, recorded, mapped, chain, reached, asU64_of_count counted⟩

theorem exact_of_linked {state : UsageStore × Option Ledger}
    (linked : Linked usages thread state) : Exact thread state := by
  intro turn input output read
  unfold readAgentTurnUsage at read
  split at read
  · cases read
  · rename_i row found
    obtain ⟨found, current⟩ := Option.filter_eq_some_iff.mp found
    split at read
    · rename_i inputTokens outputTokens inputKnown outputKnown
      cases read
      unfold Linked at linked
      rw [found] at linked
      cases ledger : state.2 with
      | none =>
        rw [ledger] at linked
        cases linked
      | some entry =>
        rw [ledger] at linked
        cases linked with
        | some follows =>
          have checked : usageTable.check row = true := Table.check_of_find? found
          simp only [usageTable, Bool.and_eq_true] at checked
          refine ⟨entry, rfl, ?_, ?_, ?_⟩
          · rw [← follows.turn]
            simpa using current
          · exact counted_of_tracks follows.input inputKnown checked.1.2
          · exact counted_of_tracks follows.output outputKnown checked.2
    · cases read

/-- A call that does not overwrite keeps a live row. -/
theorem keepsLive_of_safe {state : UsageStore × Option Ledger} {call : UsageCall}
    (linked : Linked usages thread state) (safe : ¬Overwrites usages thread state call) :
    KeepsLive usages host thread state call := by
  rintro target turn usage rfl live
  unfold afterCall
  split
  · rename_i after performed
    exact restoreAgentUsage_keeps linked live safe performed
  · rfl

/-- A replay that overwrites is accepted, and the live row is gone. -/
theorem overwrites_replaced {state : UsageStore × Option Ledger} {call : UsageCall}
    (overwrites : Overwrites usages thread state call) :
    ¬KeepsLive usages host thread state call := by
  obtain ⟨turn, usage, work, row, counters, rfl, sized, live, bound_work, other, present, input,
    output, read, checked, differs⟩ := overwrites
  intro keeps
  have kept := keeps thread turn usage rfl live
  have found : replayedWork state.1.agents thread turn = some work := by
    unfold replayedWork
    rw [bound_work, Option.filter_some, if_pos (by simpa using other)]
  have free : (some row).filter (fun old => !isReplaceable old work) = none := by
    rw [Option.filter_some, if_neg]
    simp [isReplaceable, input, output]
  obtain ⟨written, wrote⟩ := writeRow_of_check state.1.agentUsage
    (storedReplay state.1.agentUsage work thread turn usage counters) checked
  have accepted : restoreAgentUsage usages state.1 thread turn usage =
      .ok { state.1 with agentUsage := written } := by
    unfold restoreAgentUsage
    rw [(@require_eq_ok _ _ _ ()).mpr sized, ok_bind, found]
    unfold storedReplay at wrote
    simp only [read, orElse, checked, present, free, require, if_true, ok_bind] at wrote ⊢
    rw [wrote, ok_bind]
  have stored : written.find? thread =
      some (storedReplay state.1.agentUsage work thread turn usage counters) :=
    find?_writeRow_self wrote
  unfold afterCall at kept
  simp only [perform, accepted, stored, present] at kept
  exact differs (Option.some.inj kept)

variable (usages)

/-- Over every run, what is read is exact and replays keep live usage in each state that it passes,
just where no replay is stored over a live row of which no delta is known. -/
theorem usage_is_exact_and_kept_iff (agents : AgentStore) (calls : List UsageCall) :
    ((∀ before later, calls = before ++ later →
        Exact thread (ledgerAfter usages host thread agents before)) ∧
      ∀ before call later, calls = before ++ call :: later →
        KeepsLive usages host thread (ledgerAfter usages host thread agents before) call) ↔
      NeverOverwrites usages host thread agents calls := by
  constructor
  · rintro ⟨_, keeps⟩ before call later same overwrites
    exact overwrites_replaced host thread overwrites (keeps before call later same)
  · intro safe
    refine ⟨?_, ?_⟩
    · intro before later same
      have earlier := neverOverwrites_left host thread safe same
      exact exact_of_linked thread (ledgerAfter_linked host thread earlier)
    · intro before call later same
      have earlier := neverOverwrites_left host thread safe same
      have linked := ledgerAfter_linked host thread earlier
      exact keepsLive_of_safe host thread linked (safe before call later same)

def liveUsage : String := "\x7b\"input_tokens\":12,\"output_tokens\":3\x7d"

def olderUsage : String := "\x7b\"input_tokens\":10,\"output_tokens\":2\x7d"

def sampleUsages : UsageHost where
  counters text :=
    if text = liveUsage then some ⟨some 12, some 3⟩
    else if text = olderUsage then some ⟨some 10, some 2⟩
    else none

/-- A host for payloads that say nothing. -/
def silentHost : PayloadHost where
  completed _ := false
  capacityFailure _ := false
  exhausted payload := payload
  scheduled payload _ _ := payload
  cancelled payload := some payload
  rejection _ reason := reason
  retryEventId _ := none
  reason _ := none
  terminalOf _ _ _ := false
  sourceKey parts := ",".intercalate parts
  instruction text _ := text

def dispatchedWork : AgentWorkItem where
  id := "work"
  parentGoalId := none
  kind := .goal
  codexThreadId := some "thread"
  dispatchState := .dispatching
  activeTurnId := none
  status := .opened
  nextCheckAtMicros := none
  createdAtMicros := 1
  updatedAtMicros := 1

def dispatchedAgents : AgentStore :=
  { AgentStore.empty with agentWorkItems := ⟨[dispatchedWork], by decide, by decide⟩ }

/-- A dispatch is acknowledged on a thread without usage, and the first report arrives. -/
def reportedCalls : List UsageCall :=
  [.acknowledgeAgentDispatch "work" "turn-2" none [] 5,
    .updateAgentUsage "thread" "turn-2" liveUsage]

/-- The replay of the turn before takes the place of the live report. -/
theorem replay_replaces_live_usage :
    let state := ledgerAfter sampleUsages silentHost "thread" dispatchedAgents reportedCalls
    isLive "thread" state.1 state.2 = true ∧
      (state.1.agentUsage.find? "thread").map (·.usageJson) = some liveUsage ∧
      ((afterCall sampleUsages silentHost state.1
          (.restoreAgentUsage "thread" "turn-1" olderUsage)).agentUsage.find? "thread").map
        (·.usageJson) = some olderUsage ∧
      ¬KeepsLive sampleUsages silentHost "thread" state
        (.restoreAgentUsage "thread" "turn-1" olderUsage) := by
  have live : isLive "thread"
      (ledgerAfter sampleUsages silentHost "thread" dispatchedAgents reportedCalls).1
      (ledgerAfter sampleUsages silentHost "thread" dispatchedAgents reportedCalls).2 = true := by
    decide +kernel
  have before : ((ledgerAfter sampleUsages silentHost "thread" dispatchedAgents
      reportedCalls).1.agentUsage.find? "thread").map (·.usageJson) = some liveUsage := by
    decide +kernel
  have after : ((afterCall sampleUsages silentHost
      (ledgerAfter sampleUsages silentHost "thread" dispatchedAgents reportedCalls).1
      (.restoreAgentUsage "thread" "turn-1" olderUsage)).agentUsage.find? "thread").map
        (·.usageJson) = some olderUsage := by
    decide +kernel
  refine ⟨live, before, after, ?_⟩
  intro keeps
  have kept := keeps "thread" "turn-1" olderUsage rfl live
  rw [kept, before] at after
  exact absurd after (by decide)

end Decodex.Guarantees.TurnUsage
