import Decodex.Source.Store.AgentOutput

/-!
# Live output is a prefix of what was received

The calls for one item of a running turn are followed with the text that they deliver. The saved
text is a beginning of that text, marked as truncated exactly when it is shorter, until a delta
reaches a truncated record that ended before the limit: its cut backed off to a character
boundary, and a character of the delta fits into the gap.
-/
namespace Decodex.Guarantees.LiveOutput

open Decodex.Library Decodex.Source.Core Decodex.Source.Store
open Decodex.Source.Store.AgentOutput

/-- An item of a turn. -/
structure Target where
  work : String
  thread : String
  turn : String
  item : String

def Target.key (target : Target) : String × String × String := (target.work, target.turn, target.item)

/-- The turn is running. -/
def Target.Runs (target : Target) (works : Table workItemTable) : Prop :=
  ∃ row ∈ works.rows, row.id = target.work ∧ row.codexThreadId = some target.thread ∧
    row.activeTurnId = some target.turn ∧ row.dispatchState = .running

def Target.addresses (target : Target) (update : AgentOutputUpdate) : Bool :=
  update.threadId = target.thread && update.turnId = target.turn && update.itemId = target.item

/-- The update is a complete replacement of the item. -/
def Target.replaces (target : Target) (update : AgentOutputUpdate) : Bool :=
  target.addresses update && update.completed

/-- The text that the calls have delivered: the last replacement, or the deltas so far. -/
def receive (received : Option (String × Bool)) (update : AgentOutputUpdate) :
    Option (String × Bool) :=
  if update.completed then some (update.text, true)
  else
    match received with
    | none => some (update.text, false)
    | some (whole, true) => some (whole, true)
    | some (whole, false) => some (whole ++ update.text, false)

/-- The saved rows, and the text that the calls for the item have delivered. -/
structure Watch where
  table : Table agentLiveOutput
  received : Option (String × Bool)

/-- One call. A call that is refused delivers nothing. -/
def watch (works : Table workItemTable) (target : Target) (state : Watch)
    (update : AgentOutputUpdate) : Watch :=
  match updateAgentOutputRecord works state.table update with
  | .error _ => state
  | .ok result =>
    ⟨result.2, if target.addresses update then receive state.received update else state.received⟩

def watchAll (works : Table workItemTable) (target : Target) (table : Table agentLiveOutput)
    (updates : List AgentOutputUpdate) : Watch :=
  updates.foldl (watch works target) ⟨table, none⟩

/-- A saved text against the delivered one. -/
structure Faithful (row : LiveOutputRow) (whole : String) : Prop where
  begins : row.text.toList <+: whole.toList
  bounded : byteLength row.text.toList ≤ 65536
  exact : row.text = whole ↔ row.truncated = false

/-- What a call leaves of the item. -/
structure Respects (works : Table workItemTable) (target : Target) (state : Watch)
    (update : AgentOutputUpdate) : Prop where
  faithful : ∀ row, (watch works target state update).table.find? target.key = some row →
    ∃ whole, (watch works target state update).received = some (whole, row.completed) ∧
      Faithful row whole
  /-- A truncated text stands until a replacement. -/
  frozen : ∀ row row', state.table.find? target.key = some row → row.truncated = true →
    target.replaces update = false →
    (watch works target state update).table.find? target.key = some row' → row'.text = row.text
  /-- After a completed replacement deltas change nothing. -/
  closed : ∀ row, state.table.find? target.key = some row → row.completed = true →
    target.replaces update = false →
    (watch works target state update).table.find? target.key = some row

/-- The checks of a call on its arguments. -/
def WellFormed (update : AgentOutputUpdate) : Prop :=
  (update.kind = "agentMessage" ∨ update.kind = "plan") ∧ update.threadId.utf8ByteSize ≤ 512 ∧
    update.turnId.utf8ByteSize ≤ 512 ∧ update.itemId.utf8ByteSize ≤ 512 ∧
    update.itemId.isEmpty = false

/-- A delta that finds a truncated text has no character that still fits behind it. -/
def NoRoom (target : Target) (state : Watch) (update : AgentOutputUpdate) : Prop :=
  WellFormed update → target.addresses update = true → update.completed = false →
  ∀ row, state.table.find? target.key = some row → row.kind = update.kind →
    row.completed = false → row.truncated = true →
    ∀ c ∈ update.text.toList.head?, maxOutputBytes < byteLength row.text.toList + c.utf8Size

variable {works : Table workItemTable} {target : Target} {state : Watch}
  {table after : Table agentLiveOutput} {update : AgentOutputUpdate} {row : LiveOutputRow}

theorem writeOutput_find {work : String} (done : writeOutput table work update = .ok after)
    (key : String × String × String) :
    after.find? key =
      if key = (work, update.turnId, update.itemId) then
        let previous := table.find? (work, update.turnId, update.itemId)
        some ⟨work, update.turnId, update.itemId, (outputContent previous update).1,
          (outputContent previous update).2, (previous.map (·.kind)).getD update.kind,
          update.completed⟩
      else (table.find? key).filter fun row => !(row.workId = work && row.turnId ≠ update.turnId) := by
  unfold writeOutput at done
  rw [execute_eq_ok] at done
  have found := upsertOutput_find done key
  by_cases same : key = (work, update.turnId, update.itemId)
  · rw [if_pos same]
    rw [if_pos (by exact same), same, Table.find?_deleteWhere] at found
    rw [same, found]
    cases held : table.find? (work, update.turnId, update.itemId) with
    | none => rfl
    | some row =>
      have named := Table.key_of_find? held
      simp only [agentLiveOutput, Prod.mk.injEq] at named
      simp [Option.filter, named.2.1]
  · rw [if_neg same]
    rw [if_neg (by exact same), Table.find?_deleteWhere] at found
    exact found

/-- A write for the running turn deletes none of its rows. -/
theorem countOutput_le_of_write {work turn own : String}
    (done : writeOutput table own update = .ok after)
    (keeps : own = work → update.turnId = turn) :
    countOutput table work turn ≤ countOutput after work turn := by
  unfold writeOutput at done
  rw [execute_eq_ok] at done
  have kept : countOutput (table.deleteWhere fun row => row.workId = own && row.turnId ≠ update.turnId)
      work turn = countOutput table work turn := by
    unfold countOutput Table.deleteWhere
    rw [List.countP_filter]
    apply List.countP_congr
    intro row _
    simp only [Bool.and_eq_true, decide_eq_true_eq, Bool.not_eq_true', Bool.and_eq_false_iff,
      decide_eq_false_iff_not, ne_eq, not_not, and_iff_left_iff_imp]
    rintro ⟨rfl, rfl⟩
    by_cases same : own = row.workId
    · exact .inr (keeps same).symm
    · exact .inl fun other => same other.symm
  rw [← kept]
  unfold upsertOutput at done
  split at done
  · unfold countOutput
    rw [Table.updateWhere_rows done, List.countP_map]
    apply Nat.le_of_eq
    apply List.countP_congr
    intro row _
    simp only [Function.comp_apply]
    split <;> rfl
  · unfold countOutput
    rw [Table.insert_rows done, List.countP_append]
    omega

/-- What an accepted call for the item does. -/
inductive Addressed (target : Target) (table after : Table agentLiveOutput)
    (update : AgentOutputUpdate) : Prop
  | closed (row : LiveOutputRow) (same : after = table) (found : table.find? target.key = some row)
      (completed : row.completed = true) (delta : update.completed = false)
  | full (same : after = table) (none : table.find? target.key = none)
      (many : 32 ≤ countOutput table target.work target.turn)
  | written (kind : ∀ row, table.find? target.key = some row →
        row.kind = update.kind ∧ (row.completed = true → update.completed = true))
      (room : table.find? target.key = none → countOutput table target.work target.turn < 32)
      (found : after.find? target.key =
        some ⟨target.work, target.turn, target.item,
          (outputContent (table.find? target.key) update).1,
          (outputContent (table.find? target.key) update).2, update.kind, update.completed⟩)

/-- An accepted call writes for its own item only. -/
theorem call_cases {changed : Bool} (runs : target.Runs works)
    (done : updateAgentOutputRecord works table update = .ok (changed, after)) :
    countOutput table target.work target.turn ≤ countOutput after target.work target.turn ∧
      (target.addresses update = false ∧ after.find? target.key = table.find? target.key ∨
        target.addresses update = true ∧ Addressed target table after update) := by
  obtain ⟨item, listed, named, bound, active, running⟩ := runs
  have self : runningWork works target.thread target.turn = some item :=
    runningWork_of_mem listed bound active running
  have owner : target.addresses update = true →
      runningWork works update.threadId update.turnId = some item := by
    intro hit
    simp only [Target.addresses, Bool.and_eq_true, decide_eq_true_eq] at hit
    rw [hit.1.1, hit.1.2, self]
  have unmoved : after = table → (target.addresses update = true → Addressed target table after update) →
      countOutput table target.work target.turn ≤ countOutput after target.work target.turn ∧
      (target.addresses update = false ∧ after.find? target.key = table.find? target.key ∨
        target.addresses update = true ∧ Addressed target table after update) := by
    rintro rfl hit
    refine ⟨Nat.le_refl _, ?_⟩
    cases addressed : target.addresses update with
    | false => exact .inl ⟨rfl, rfl⟩
    | true => exact .inr ⟨rfl, hit addressed⟩
  have moved : ∀ work, runningWork works update.threadId update.turnId = some work →
      writeOutput table work.id update = .ok after →
      (∀ row, table.find? (work.id, update.turnId, update.itemId) = some row →
        row.kind = update.kind ∧ (row.completed = true → update.completed = true)) →
      (table.find? (work.id, update.turnId, update.itemId) = none →
        countOutput table work.id update.turnId < 32) →
      countOutput table target.work target.turn ≤ countOutput after target.work target.turn ∧
      (target.addresses update = false ∧ after.find? target.key = table.find? target.key ∨
        target.addresses update = true ∧ Addressed target table after update) := by
    intro work found wrote kind room
    obtain ⟨member, thread, turn, _⟩ := runningWork_some found
    have same : work.id = target.work → work = item := fun key =>
      Table.eq_of_key member listed (key.trans named.symm)
    have keeps : work.id = target.work → update.turnId = target.turn := by
      intro key
      rw [same key, active] at turn
      exact (Option.some.inj turn).symm
    refine ⟨countOutput_le_of_write wrote keeps, ?_⟩
    cases addressed : target.addresses update with
    | false =>
      refine .inl ⟨rfl, ?_⟩
      have apart : target.key ≠ (work.id, update.turnId, update.itemId) := by
        intro key
        simp only [Target.key, Prod.mk.injEq] at key
        have bounds := same key.1.symm
        rw [bounds, bound] at thread
        simp [Target.addresses, key.2.1, key.2.2, (Option.some.inj thread).symm] at addressed
      rw [writeOutput_find wrote, if_neg apart]
      cases held : table.find? target.key with
      | none => rfl
      | some row =>
        have key := Table.key_of_find? held
        simp only [agentLiveOutput, Target.key, Prod.mk.injEq] at key
        rw [Option.filter_some, if_pos]
        simp only [Bool.not_eq_true', Bool.and_eq_false_iff, decide_eq_false_iff_not, ne_eq, not_not]
        by_cases own : row.workId = work.id
        · exact .inr (key.2.1.trans (keeps (own.symm.trans key.1)).symm)
        · exact .inl own
    | true =>
      have mine := owner addressed
      rw [found] at mine
      cases mine
      simp only [Target.addresses, Bool.and_eq_true, decide_eq_true_eq] at addressed
      have key : target.key = (item.id, update.turnId, update.itemId) := by
        rw [Target.key, named, addressed.1.2, addressed.2]
      refine .inr ⟨rfl, .written ?_ ?_ ?_⟩
      · rw [key]
        exact kind
      · intro none
        have few := room (key ▸ none)
        rwa [named, addressed.1.2] at few
      · rw [writeOutput_find wrote, if_pos key, ← key]
        cases held : table.find? target.key with
        | none => simp [named, addressed]
        | some row => simp [named, addressed, (kind row (key ▸ held)).1]
  unfold updateAgentOutputRecord at done
  split at done
  · cases done
  · split at done
    · cases done
    · split at done
      · cases done
        apply unmoved rfl
        intro hit
        rename_i none
        rw [owner hit] at none
        cases none
      · rename_i work found
        have landed : target.addresses update = true →
            target.key = (work.id, update.turnId, update.itemId) := by
          intro hit
          have mine := owner hit
          rw [found] at mine
          cases mine
          simp only [Target.addresses, Bool.and_eq_true, decide_eq_true_eq] at hit
          rw [Target.key, named, hit.1.2, hit.2]
        split at done
        · rename_i previous held
          split at done
          · cases done
          · rename_i kind
            split at done
            · rename_i closed
              cases done
              apply unmoved rfl
              intro hit
              exact .closed previous rfl (landed hit ▸ held) closed.1 closed.2
            · rename_i opened
              obtain ⟨written, wrote, same⟩ := map_ok.mp done
              cases same
              refine moved work found wrote ?_ fun none => by
                cases held.symm.trans none
              intro row other
              rw [held] at other
              cases other
              refine ⟨by simpa using kind, fun completed => ?_⟩
              simpa [completed] using opened
        · rename_i held
          split at done
          · rename_i many
            cases done
            apply unmoved rfl
            intro hit
            have key := landed hit
            simp only [Target.key, Prod.mk.injEq] at key
            refine .full rfl (landed hit ▸ held) ?_
            rw [key.1, key.2.1]
            exact many
          · obtain ⟨written, wrote, same⟩ := map_ok.mp done
            cases same
            refine moved work found wrote ?_ fun _ => by omega
            intro row other
            rw [held] at other
            cases other

theorem cutText_append (a b : String) : (cutText (a ++ b)).toList =
    cutAt maxOutputBytes (a.toList ++ b.toList) := by
  rw [cutText, String.toList_ofList, String.toList_append]

theorem cutText_eq_self {text : String} (fits : byteLength text.toList ≤ maxOutputBytes) :
    cutText text = text := by
  rw [cutText, cutAt_eq_self fits, String.ofList_toList]

/-- What is cut from a text it begins with, and what is longer than the limit, is faithful. -/
theorem faithful_of_cut {row : LiveOutputRow} {text : String} (saved : row.text = cutText text)
    (marked : row.truncated = decide (maxOutputBytes < byteLength text.toList)) :
    Faithful row text where
  begins := by
    rw [saved, cutText, String.toList_ofList]
    exact cutAt_begins _ _
  bounded := by
    rw [saved]
    exact cutText_le text
  exact := by
    rw [saved, marked, decide_eq_false_iff_not, Nat.not_lt]
    constructor
    · intro same
      have bound := cutText_le text
      rwa [same] at bound
    · exact cutText_eq_self

/-- A truncated text stays faithful to what grows behind it. -/
theorem faithful_of_frozen {row row' : LiveOutputRow} {whole delta : String}
    (faithful : Faithful row whole) (truncated : row.truncated = true)
    (text : row'.text = row.text) (mark : row'.truncated = true) :
    Faithful row' (whole ++ delta) where
  begins := by
    rw [text, String.toList_append]
    exact faithful.begins.trans (List.prefix_append _ _)
  bounded := text ▸ faithful.bounded
  exact := by
    rw [mark, text]
    simp only [Bool.true_eq_false, iff_false]
    intro same
    have begins := faithful.begins
    rw [same, String.toList_append] at begins
    have shorter := begins.length_le
    rw [List.length_append] at shorter
    have empty : delta.toList = [] := List.eq_nil_of_length_eq_zero (by omega)
    have unchanged : row.text = whole := by
      rw [same]
      apply String.toList_injective
      rw [String.toList_append, empty, List.append_nil]
    rw [faithful.exact.mp unchanged] at truncated
    cases truncated

/-- What the calls leave of the item as long as no delta finds room behind a truncated text. -/
structure Kept (target : Target) (state : Watch) : Prop where
  unsaved : state.table.find? target.key = none →
    state.received = none ∨ 32 ≤ countOutput state.table target.work target.turn
  saved : ∀ row, state.table.find? target.key = some row →
    ∃ whole, state.received = some (whole, row.completed) ∧ Faithful row whole

theorem wellFormed_of_ok {result : Bool × Table agentLiveOutput}
    (done : updateAgentOutputRecord works table update = .ok result) : WellFormed update := by
  unfold updateAgentOutputRecord at done
  split at done
  · cases done
  · rename_i kind
    split at done
    · cases done
    · rename_i sized
      simp only [not_or, Nat.not_lt, Bool.not_eq_true] at sized
      exact ⟨not_not.mp kind, sized.1, sized.2.1, sized.2.2.1, sized.2.2.2⟩

/-- The record that a write for the item leaves is faithful to what was delivered. -/
theorem written_faithful (kept : Kept target state) (noRoom : NoRoom target state update)
    (formed : WellFormed update) (addressed : target.addresses update = true)
    (kind : ∀ row, state.table.find? target.key = some row →
      row.kind = update.kind ∧ (row.completed = true → update.completed = true))
    (room : state.table.find? target.key = none →
      countOutput state.table target.work target.turn < 32)
    (text : row.text = (outputContent (state.table.find? target.key) update).1)
    (mark : row.truncated = (outputContent (state.table.find? target.key) update).2) :
    ∃ whole, receive state.received update = some (whole, update.completed) ∧
      Faithful row whole ∧
      ∀ old, state.table.find? target.key = some old → old.truncated = true →
        update.completed = false → row.text = old.text := by
  cases completed : update.completed with
  | true =>
    refine ⟨update.text, by simp [receive, completed], ?_,
      fun _ _ _ partly => by cases partly⟩
    apply faithful_of_cut
    · rw [text]
      simp [outputContent, completed]
    · rw [mark]
      simp [outputContent, completed]
  | false =>
    cases held : state.table.find? target.key with
    | none =>
      have few := room held
      have fresh : state.received = none := by
        rcases kept.unsaved held with none | many
        · exact none
        · omega
      refine ⟨update.text, by simp [receive, completed, fresh], ?_,
        fun _ unsaved => by cases unsaved⟩
      apply faithful_of_cut
      · rw [text, held]
        simp [outputContent, completed]
      · rw [mark, held]
        simp [outputContent, completed]
    | some old =>
      obtain ⟨whole, delivered, faithful⟩ := kept.saved old held
      obtain ⟨same, closed⟩ := kind old held
      have opened : old.completed = false := by
        rw [← Bool.not_eq_true]
        intro done
        rw [closed done] at completed
        cases completed
      have grown : receive state.received update = some (whole ++ update.text, false) := by
        simp [receive, completed, delivered, opened]
      cases truncated : old.truncated with
      | false =>
        have all := faithful.exact.mpr truncated
        refine ⟨whole ++ update.text, grown, ?_, ?_⟩
        · apply faithful_of_cut
          · rw [text, held]
            simp [outputContent, completed, all]
          · rw [mark, held]
            simp [outputContent, completed, all, truncated]
        · intro other found marked
          cases found
          rw [truncated] at marked
          cases marked
      | true =>
        have full := noRoom formed addressed completed old held same opened truncated
        have frozen : row.text = old.text := by
          rw [text, held]
          apply String.toList_injective
          simp only [outputContent, completed, Bool.false_eq_true, if_false, Option.map_some,
            Option.getD_some]
          rw [cutText_append]
          exact (cutAt_append_eq_left faithful.bounded).mpr full
        refine ⟨whole ++ update.text, grown, ?_, ?_⟩
        · apply faithful_of_frozen faithful truncated frozen
          rw [mark, held]
          simp [outputContent, completed, truncated]
        · intro other found _ _
          cases found
          exact frozen

theorem step_respects (runs : target.Runs works) (kept : Kept target state)
    (noRoom : NoRoom target state update) :
    Respects works target state update ∧ Kept target (watch works target state update) := by
  have still : watch works target state update = state →
      Respects works target state update ∧ Kept target (watch works target state update) := by
    intro same
    refine ⟨⟨?_, ?_, ?_⟩, by rwa [same]⟩
    · rw [same]
      exact kept.saved
    · rw [same]
      intro row row' found _ _ found'
      rw [found] at found'
      cases found'
      rfl
    · rw [same]
      intro row found _ _
      exact found
  cases done : updateAgentOutputRecord works state.table update with
  | error failure => exact still (by simp only [watch, done])
  | ok result =>
    obtain ⟨changed, after⟩ := result
    obtain ⟨grows, effect⟩ := call_cases runs done
    have next : watch works target state update =
        ⟨after, if target.addresses update then receive state.received update
          else state.received⟩ := by
      simp only [watch, done]
    rcases effect with ⟨other, same⟩ | ⟨addressed, effect⟩
    · rw [other, if_neg Bool.false_ne_true] at next
      refine ⟨⟨?_, ?_, ?_⟩, ⟨?_, ?_⟩⟩
      · rw [next, same]
        exact kept.saved
      · rw [next, same]
        intro row row' found _ _ found'
        rw [found] at found'
        cases found'
        rfl
      · rw [next, same]
        intro row found _ _
        exact found
      · rw [next, same]
        intro none
        rcases kept.unsaved none with fresh | many
        · exact .inl fresh
        · exact .inr (many.trans grows)
      · rw [next, same]
        exact kept.saved
    · rw [addressed, if_pos rfl] at next
      cases effect with
      | closed row same found completed delta =>
        apply still
        obtain ⟨whole, delivered, _⟩ := kept.saved row found
        rw [completed] at delivered
        rw [next, same, delivered]
        simp [receive, delta, ← delivered]
      | full same none many =>
        rw [same] at next
        refine ⟨⟨?_, ?_, ?_⟩, ⟨fun _ => ?_, ?_⟩⟩
        · rw [next, none]
          intro _ same
          cases same
        · rw [none]
          intro _ _ same
          cases same
        · rw [none]
          intro _ same
          cases same
        · rw [next]
          exact .inr many
        · rw [next, none]
          intro _ same
          cases same
      | written kind room found =>
        let saved : LiveOutputRow := ⟨target.work, target.turn, target.item,
          (outputContent (state.table.find? target.key) update).1,
          (outputContent (state.table.find? target.key) update).2, update.kind, update.completed⟩
        have text : saved.text = (outputContent (state.table.find? target.key) update).1 := rfl
        have mark : saved.truncated = (outputContent (state.table.find? target.key) update).2 := rfl
        obtain ⟨whole, delivered, faithful, frozen⟩ := written_faithful kept noRoom
          (wellFormed_of_ok done) addressed kind room text mark
        refine ⟨⟨?_, ?_, ?_⟩, ⟨?_, ?_⟩⟩
        · rw [next, found]
          intro row same
          cases same
          exact ⟨whole, delivered, faithful⟩
        · rw [next, found]
          intro row row' held truncated delta same
          cases same
          apply frozen row held truncated
          simpa [Target.replaces, addressed] using delta
        · intro row held completed delta
          have replaced := (kind row held).2 completed
          simp [Target.replaces, addressed, replaced] at delta
        · rw [next, found]
          intro unsaved
          cases unsaved
        · rw [next, found]
          intro row same
          cases same
          exact ⟨whole, delivered, faithful⟩

theorem watchAll_snoc (works : Table workItemTable) (target : Target) (table : Table agentLiveOutput)
    (before : List AgentOutputUpdate) (update : AgentOutputUpdate) :
    watchAll works target table (before ++ [update]) =
      watch works target (watchAll works target table before) update := by
  rw [watchAll, List.foldl_append]
  rfl

/-- Each call of a run respects the item. -/
def AllRespect (works : Table workItemTable) (target : Target) (table : Table agentLiveOutput)
    (updates : List AgentOutputUpdate) : Prop :=
  ∀ before update, before ++ [update] <+: updates →
    Respects works target (watchAll works target table before) update

/-- No delta of a run finds room behind a truncated text. -/
def NeverRoom (works : Table workItemTable) (target : Target) (table : Table agentLiveOutput)
    (updates : List AgentOutputUpdate) : Prop :=
  ∀ before update, before ++ [update] <+: updates →
    NoRoom target (watchAll works target table before) update

theorem kept_of_neverRoom (runs : target.Runs works) (fresh : table.find? target.key = none)
    {updates : List AgentOutputUpdate} (never : NeverRoom works target table updates) :
    Kept target (watchAll works target table updates) := by
  induction updates using List.reverseRecOn with
  | nil => exact ⟨fun _ => .inl rfl, fun row found => nomatch fresh.symm.trans found⟩
  | append_singleton updates update ih =>
    have before : Kept target (watchAll works target table updates) := by
      apply ih
      intro earlier next shorter
      exact never earlier next (shorter.trans (List.prefix_append _ _))
    rw [watchAll_snoc]
    exact (step_respects runs before (never updates update (List.prefix_refl _))).2

/-- A well-formed call for an open record, or for a fresh one among few, is written. -/
theorem call_written (runs : target.Runs works) (formed : WellFormed update)
    (addressed : target.addresses update = true)
    (kind : ∀ row, table.find? target.key = some row →
      row.kind = update.kind ∧ row.completed = false)
    (room : table.find? target.key = none → countOutput table target.work target.turn < 32) :
    ∃ after, updateAgentOutputRecord works table update = .ok (true, after) ∧
      after.find? target.key = some ⟨target.work, target.turn, target.item,
        (outputContent (table.find? target.key) update).1,
        (outputContent (table.find? target.key) update).2, update.kind, update.completed⟩ := by
  obtain ⟨item, listed, named, bound, active, running⟩ := runs
  have hit := addressed
  simp only [Target.addresses, Bool.and_eq_true, decide_eq_true_eq] at hit
  have key : target.key = (item.id, update.turnId, update.itemId) := by
    rw [Target.key, named, hit.1.2, hit.2]
  have owner : runningWork works update.threadId update.turnId = some item := by
    rw [hit.1.1, hit.1.2]
    exact runningWork_of_mem listed bound active running
  have valid : agentLiveOutput.check ⟨item.id, update.turnId, update.itemId,
      (outputContent (table.find? target.key) update).1,
      (outputContent (table.find? target.key) update).2, update.kind, update.completed⟩ = true := by
    simp only [agentLiveOutput, Bool.and_eq_true, decide_eq_true_eq]
    refine ⟨?_, cutText_le _⟩
    rcases formed.1 with same | same <;> rw [same] <;> decide
  obtain ⟨after, wrote⟩ := upsertOutput_accepted
    (table.deleteWhere fun row => row.workId = item.id && row.turnId ≠ update.turnId) _ valid
  have written : writeOutput table item.id update = .ok after := by
    unfold writeOutput
    rw [← key]
    exact execute_eq_ok.mpr wrote
  have sized : ¬(512 < update.threadId.utf8ByteSize ∨ 512 < update.turnId.utf8ByteSize ∨
      512 < update.itemId.utf8ByteSize ∨ update.itemId.isEmpty = true) := by
    rintro (long | long | long | empty)
    · exact absurd formed.2.1 (by omega)
    · exact absurd formed.2.2.1 (by omega)
    · exact absurd formed.2.2.2.1 (by omega)
    · rw [formed.2.2.2.2] at empty
      cases empty
  have left := writeOutput_find written target.key
  rw [if_pos key, ← key] at left
  refine ⟨after, ?_, ?_⟩
  · unfold updateAgentOutputRecord
    rw [if_neg (not_not.mpr formed.1), if_neg sized, owner]
    dsimp only
    rw [← key]
    cases held : table.find? target.key with
    | none =>
      have few := room held
      rw [← named, ← hit.1.2] at few
      dsimp only
      rw [if_neg (by omega), written]
      rfl
    | some row =>
      obtain ⟨same, opened⟩ := kind row held
      dsimp only
      rw [if_neg (not_not.mpr same), if_neg, written]
      · rfl
      · rintro ⟨closed, _⟩
        rw [opened] at closed
        cases closed
  · rw [left]
    cases held : table.find? target.key with
    | none => simp [named, hit]
    | some row => simp [named, hit, (kind row held).1]

/-- A delta that finds room behind a truncated text changes it. -/
theorem noRoom_of_respects (runs : target.Runs works)
    (respects : Respects works target state update) : NoRoom target state update := by
  intro formed addressed delta row found kind opened truncated c head
  obtain ⟨after, called, left⟩ := call_written runs formed addressed
    (fun other held => by
      rw [found] at held
      cases held
      exact ⟨kind, opened⟩)
    (fun none => nomatch found.symm.trans none)
  have frozen := respects.frozen row _ found truncated (by simp [Target.replaces, delta]) (by
    simp only [watch, called]
    exact left)
  have same := congrArg String.toList frozen
  simp only [found, outputContent, delta, Bool.false_eq_true, if_false, Option.map_some,
    Option.getD_some] at same
  rw [cutText_append] at same
  have bounded := state.table.check_of_find? found
  simp only [agentLiveOutput, Bool.and_eq_true, decide_eq_true_eq] at bounded
  exact (cutAt_append_eq_left bounded.2).mp same c head

/-- In every run of calls on a fresh item of a running turn, the saved text is a faithful beginning
of what was delivered exactly as long as no delta finds room behind a truncated text. -/
theorem live_output_is_prefix_iff (works : Table workItemTable) (target : Target)
    (table : Table agentLiveOutput) (updates : List AgentOutputUpdate) (runs : target.Runs works)
    (fresh : table.find? target.key = none) :
    AllRespect works target table updates ↔ NeverRoom works target table updates := by
  constructor
  · intro respect before update earlier
    exact noRoom_of_respects runs (respect before update earlier)
  · intro never before update earlier
    refine (step_respects runs ?_ (never before update earlier)).1
    apply kept_of_neverRoom runs fresh
    intro first next shorter
    exact never first next
      (shorter.trans ((List.prefix_append before [update]).trans earlier))

def sampleRunning : AgentWorkItem :=
  ⟨"agent", none, .goal, some "thread", .running, some "turn", .opened, none, 0, 0⟩

theorem sampleRunning_checked : ∀ row ∈ [sampleRunning], workItemTable.check row = true := by
  decide +kernel

def sampleWorks : Table workItemTable :=
  ⟨[sampleRunning], sampleRunning_checked, List.pairwise_singleton _ _⟩

def sampleTarget : Target := ⟨"agent", "thread", "turn", "item"⟩

theorem sampleTarget_runs : sampleTarget.Runs sampleWorks :=
  ⟨_, List.mem_singleton_self _, rfl, rfl, rfl, rfl⟩

def sampleDelta (text : String) : AgentOutputUpdate :=
  ⟨"thread", "turn", "item", "agentMessage", text, false⟩

theorem sampleDelta_wellFormed (text : String) : WellFormed (sampleDelta text) :=
  ⟨.inl rfl, show "thread".utf8ByteSize ≤ 512 by decide, show "turn".utf8ByteSize ≤ 512 by decide,
    show "item".utf8ByteSize ≤ 512 by decide, rfl⟩

/-- Two deltas that fit are saved whole. -/
theorem short_output_is_whole :
    AllRespect sampleWorks sampleTarget .empty [sampleDelta "live ", sampleDelta "output"] := by
  apply (live_output_is_prefix_iff sampleWorks sampleTarget .empty
    [sampleDelta "live ", sampleDelta "output"] sampleTarget_runs rfl).mpr
  intro before update earlier _ _ _ row found _ _ truncated
  have saved : ((watchAll sampleWorks sampleTarget .empty [sampleDelta "live "]).table.find?
      sampleTarget.key).all fun row => row.truncated = false := by
    decide +kernel
  rcases before with _ | ⟨first, _ | ⟨second, rest⟩⟩
  · cases found
  · obtain ⟨rfl, _⟩ := List.cons_prefix_cons.mp earlier
    rw [found] at saved
    simp [truncated] at saved
  · have := earlier.length_le
    simp at this

/-- One-byte characters, and a sign of three bytes behind them. -/
def signed (count : Nat) : AgentOutputUpdate :=
  sampleDelta (String.ofList (List.replicate count 'a' ++ [ '€']))

theorem byteLength_replicate (count : Nat) : byteLength (List.replicate count 'a') = count := by
  induction count with
  | zero => rfl
  | succ count ih =>
    rw [List.replicate_succ, byteLength_cons, ih]
    exact Nat.add_comm _ _

/-- A sign that does not fit leaves a gap, into which a later delta of one byte is put. -/
theorem signed_leaves_a_gap (count : Nat) (before : count < maxOutputBytes)
    (beyond : maxOutputBytes < count + 3) :
    ¬AllRespect sampleWorks sampleTarget .empty [signed count, sampleDelta "b"] := by
  intro respect
  have cut : cutText (signed count).text = String.ofList (List.replicate count 'a') := by
    rw [cutText, signed, sampleDelta, String.toList_ofList]
    congr 1
    apply (cutAt_append_eq_left (by rw [byteLength_replicate]; omega)).mpr
    intro c sign
    rw [List.head?_cons, Option.mem_some_iff] at sign
    rw [← sign, byteLength_replicate]
    exact beyond
  have content : outputContent none (signed count) =
      (String.ofList (List.replicate count 'a'), true) := by
    have long : maxOutputBytes < byteLength (signed count).text.toList := by
      rw [signed, sampleDelta, String.toList_ofList, byteLength_append, byteLength_replicate]
      exact beyond
    simp only [outputContent, signed, sampleDelta, Bool.false_eq_true, if_false, Option.map_none,
      Option.getD_none, String.empty_append, Bool.false_or, decide_eq_true_eq, Prod.mk.injEq]
    exact ⟨cut, long⟩
  obtain ⟨after, called, found⟩ := @call_written sampleWorks sampleTarget .empty (signed count)
    sampleTarget_runs (sampleDelta_wellFormed _) rfl (fun _ none => nomatch none)
    (fun _ => by decide)
  have reached : watchAll sampleWorks sampleTarget .empty [signed count] =
      ⟨after, receive none (signed count)⟩ := by
    simp only [watchAll, List.foldl_cons, List.foldl_nil, watch, called]
    rfl
  have room := noRoom_of_respects sampleTarget_runs
    (respect [signed count] (sampleDelta "b") (List.prefix_refl _))
  rw [reached] at room
  have empty : (Table.empty : Table agentLiveOutput).find? sampleTarget.key = none := rfl
  rw [empty, content] at found
  have full := room (sampleDelta_wellFormed _) rfl rfl _ found rfl rfl rfl 'b' rfl
  dsimp only at full
  rw [String.toList_ofList, byteLength_replicate] at full
  have small : Char.utf8Size 'b' = 1 := by decide
  omega

theorem overfull_output_is_no_prefix :
    ¬AllRespect sampleWorks sampleTarget .empty [signed 65534, sampleDelta "b"] :=
  signed_leaves_a_gap 65534 (by decide) (by decide)

end Decodex.Guarantees.LiveOutput
