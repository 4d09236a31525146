import Mathlib.Logic.Function.Basic
import Decodex.Library.Run
import Decodex.Guarantees.Samples
import Decodex.Source.Core.ClientDrafts

/-!
# The client draft store loses no update

Any number of clients call `load` and `save` on one path. A save is its size check, the
exclusive lock, the read, the rename of a written file, and the return that gives the lock
back; a load opens the file and returns. Between any two of these steps the others may take
theirs. Besides, the file system may answer a call with an error of `faults`; the file of the
path is only ever replaced by the rename.
-/
namespace Decodex.Guarantees.ClientDrafts

open Decodex.Library Decodex.Source.Core Decodex.Guarantees.Samples

/-- A save that has replaced the file. -/
structure DraftCommit where
  expected : UInt64
  revision : UInt64
  payload : List UInt8
  deriving DecidableEq

/-- Where the call of one client stands. -/
inductive DraftCall where
  | idle
  | locking (expected : UInt64) (payload : List UInt8)
  | reading (expected : UInt64) (payload : List UInt8)
  | staged (commit : DraftCommit) (bytes : List UInt8)
  | renamed (commit : DraftCommit)
  /-- The commits at the time of the open are remembered for the statements only. -/
  | loading (read : Except PathError (List UInt8)) (seen : List DraftCommit)

/-- The file, the holder of the lock, the calls, and the commits in their order. -/
structure DraftState (Client : Type) where
  file : Option (List UInt8)
  holder : Option Client
  calls : Client → DraftCall
  commits : List DraftCommit

def DraftState.initial (Client : Type) : DraftState Client := ⟨none, none, fun _ => .idle, []⟩

inductive DraftEvent (Client : Type) where
  | started (client : Client)
  | locked (client : Client)
  | staged (client : Client)
  | renamed (client : Client) (commit : DraftCommit)
  | saved (client : Client) (commit : DraftCommit)
  | failed (client : Client) (error : ClientDraftError)
  | opened (client : Client)
  | loaded (client : Client) (result : Except ClientDraftError ClientDraftSnapshot)

variable {Client : Type} {sha256 : List UInt8 → BlobHash}
  {faults : PathError → Prop} {s t : DraftState Client} {events : List (DraftEvent Client)}

/-- Reading the file gives what is in it, or a fault. -/
inductive ReadsFile (faults : PathError → Prop) (file : Option (List UInt8)) :
    Except PathError (List UInt8) → Prop where
  | file : ReadsFile faults file (readPrivateFile file (maxClientDraftBytes + draftOverhead))
  | fault {error : PathError} (allowed : faults error)
      (present : ∀ operation, error ≠ .io operation .notFound) : ReadsFile faults file (.error error)

section Steps

variable [DecidableEq Client]

def DraftState.at (s : DraftState Client) (client : Client) (call : DraftCall) :
    DraftState Client :=
  { s with calls := Function.update s.calls client call }

/-- The call of a client returns; the lock goes back when it has it. -/
def DraftState.returned (s : DraftState Client) (client : Client) : DraftState Client :=
  { s with
    calls := Function.update s.calls client .idle
    holder := if s.holder = some client then none else s.holder }

/-- One step of one client in `save` or `load`. -/
inductive DraftStep (sha256 : List UInt8 → BlobHash) (faults : PathError → Prop)
    (s : DraftState Client) : DraftEvent Client → DraftState Client → Prop where
  | oversized {client : Client} {payload : List UInt8} (idle : s.calls client = .idle)
      (large : maxClientDraftBytes < payload.length) :
      DraftStep sha256 faults s (.failed client .oversized) s
  | started {client : Client} (expected : UInt64) (payload : List UInt8)
      (idle : s.calls client = .idle) (small : payload.length ≤ maxClientDraftBytes) :
      DraftStep sha256 faults s (.started client) (s.at client (.locking expected payload))
  | lockFailed {client : Client} {expected : UInt64} {payload : List UInt8} {error : PathError}
      (call : s.calls client = .locking expected payload) (allowed : faults error) :
      DraftStep sha256 faults s (.failed client (.path error)) (s.returned client)
  | busy {client : Client} {expected : UInt64} {payload : List UInt8}
      (call : s.calls client = .locking expected payload)
      (taken : s.holder ≠ none ∨ ∃ error, faults error) :
      DraftStep sha256 faults s (.failed client .busy) (s.returned client)
  | locked {client : Client} {expected : UInt64} {payload : List UInt8}
      (call : s.calls client = .locking expected payload) (free : s.holder = none) :
      DraftStep sha256 faults s (.locked client)
        { s.at client (.reading expected payload) with holder := some client }
  | refused {client : Client} {expected : UInt64} {payload : List UInt8}
      {read : Except PathError (List UInt8)} {error : ClientDraftError}
      (call : s.calls client = .reading expected payload) (reads : ReadsFile faults s.file read)
      (refused : stageRecord sha256 expected payload read = .error error) :
      DraftStep sha256 faults s (.failed client error) (s.returned client)
  | staged {client : Client} {expected revision : UInt64} {payload bytes : List UInt8}
      {read : Except PathError (List UInt8)} (call : s.calls client = .reading expected payload)
      (reads : ReadsFile faults s.file read)
      (staged : stageRecord sha256 expected payload read = .ok (revision, bytes)) :
      DraftStep sha256 faults s (.staged client)
        (s.at client (.staged ⟨expected, revision, payload⟩ bytes))
  | writeFailed {client : Client} {commit : DraftCommit} {bytes : List UInt8} {error : PathError}
      (call : s.calls client = .staged commit bytes) (allowed : faults error) :
      DraftStep sha256 faults s (.failed client (.writeUnconfirmed error)) (s.returned client)
  | renamed {client : Client} {commit : DraftCommit} {bytes : List UInt8}
      (call : s.calls client = .staged commit bytes) :
      DraftStep sha256 faults s (.renamed client commit)
        { s.at client (.renamed commit) with
          file := some bytes
          commits := s.commits ++ [commit] }
  | syncFailed {client : Client} {commit : DraftCommit} {error : PathError}
      (call : s.calls client = .renamed commit) (allowed : faults error) :
      DraftStep sha256 faults s (.failed client (.writeUnconfirmed error)) (s.returned client)
  | saved {client : Client} {commit : DraftCommit} (call : s.calls client = .renamed commit) :
      DraftStep sha256 faults s (.saved client commit) (s.returned client)
  | opened {client : Client} {read : Except PathError (List UInt8)}
      (idle : s.calls client = .idle) (reads : ReadsFile faults s.file read) :
      DraftStep sha256 faults s (.opened client) (s.at client (.loading read s.commits))
  | loaded {client : Client} {read : Except PathError (List UInt8)} {seen : List DraftCommit}
      (call : s.calls client = .loading read seen) :
      DraftStep sha256 faults s (.loaded client (loadSnapshot sha256 read)) (s.returned client)

end Steps

/-- What a load gives after these commits: the last one, or the empty state. -/
def lastSnapshot (commits : List DraftCommit) : ClientDraftSnapshot :=
  (commits.getLast?.map fun commit => ⟨commit.revision, commit.payload⟩).getD ⟨0, []⟩

/-- The file after these commits. -/
def storedRecord (sha256 : List UInt8 → BlobHash) (commits : List DraftCommit) :
    Option (List UInt8) :=
  commits.getLast?.map fun commit => encodeRecord sha256 commit.revision commit.payload

/-- The commit at each position is the next revision after the one before it. -/
def Chained (commits : List DraftCommit) : Prop :=
  ∀ position commit, commits[position]? = some commit →
    commit.expected.toNat = position ∧ commit.revision.toNat = position + 1 ∧
      commit.payload.length ≤ maxClientDraftBytes

/-- The commit that comes next. -/
structure Next (commits : List DraftCommit) (commit : DraftCommit) : Prop where
  expected : commit.expected.toNat = commits.length
  revision : commit.revision.toNat = commits.length + 1
  short : commit.payload.length ≤ maxClientDraftBytes

/-- A load ends in the last snapshot, or in a fault. -/
def Answers (sha256 : List UInt8 → BlobHash) (faults : PathError → Prop)
    (commits : List DraftCommit) (read : Except PathError (List UInt8)) : Prop :=
  loadSnapshot sha256 read = .ok (lastSnapshot commits) ∨
    ∃ error, faults error ∧ loadSnapshot sha256 read = .error (.path error)

/-- What holds of the call of one client. -/
def CallInv (sha256 : List UInt8 → BlobHash) (faults : PathError → Prop)
    (s : DraftState Client) (client : Client) : DraftCall → Prop
  | .idle => True
  | .locking _ payload => payload.length ≤ maxClientDraftBytes
  | .reading _ payload => s.holder = some client ∧ payload.length ≤ maxClientDraftBytes
  | .staged commit bytes => s.holder = some client ∧ Next s.commits commit ∧
      bytes = encodeRecord sha256 commit.revision commit.payload
  | .renamed commit => s.holder = some client ∧ s.commits.getLast? = some commit
  | .loading read seen => seen <+: s.commits ∧ Answers sha256 faults seen read

structure DraftInv (sha256 : List UInt8 → BlobHash) (faults : PathError → Prop)
    (s : DraftState Client) : Prop where
  chained : Chained s.commits
  file : s.file = storedRecord sha256 s.commits
  calls : ∀ client, CallInv sha256 faults s client (s.calls client)

theorem draftInv_initial : DraftInv sha256 faults (.initial Client) :=
  ⟨nofun, rfl, fun _ => trivial⟩

theorem Chained.last {commits : List DraftCommit} {commit : DraftCommit}
    (chained : Chained commits) (last : commits.getLast? = some commit) :
    commit.revision.toNat = commits.length ∧ commit.payload.length ≤ maxClientDraftBytes := by
  rw [List.getLast?_eq_getElem?] at last
  obtain ⟨_, revision, short⟩ := chained _ _ last
  obtain ⟨inside, _⟩ := List.getElem?_eq_some_iff.mp last
  exact ⟨by omega, short⟩

/-- Reading the stored record gives the last snapshot. -/
theorem answers_of_reads {commits : List DraftCommit} {read : Except PathError (List UInt8)}
    (chained : Chained commits) (reads : ReadsFile faults (storedRecord sha256 commits) read) :
    Answers sha256 faults commits read := by
  cases reads with
  | file =>
    left
    unfold storedRecord lastSnapshot
    cases last : commits.getLast? with
    | none => rfl
    | some commit =>
      obtain ⟨revision, short⟩ := chained.last last
      rw [Option.map_some, readPrivateFile_record short]
      refine decodeRecord_encodeRecord ?_
      rintro zero
      have positive : 0 < commits.length := by
        cases commits with
        | nil => cases last
        | cons => simp
      rw [zero] at revision
      exact absurd revision.symm (Nat.pos_iff_ne_zero.mp positive)
  | @fault error allowed present =>
    right
    refine ⟨error, allowed, ?_⟩
    unfold loadSnapshot
    split
    · rename_i found
      cases found
    · rename_i operation found
      cases found
      exact absurd rfl (present operation)
    · rename_i found
      cases found
      rfl

theorem lastSnapshot_revision {commits : List DraftCommit} (chained : Chained commits) :
    (lastSnapshot commits).revision.toNat = commits.length := by
  unfold lastSnapshot
  cases last : commits.getLast? with
  | none =>
    rw [List.getLast?_eq_none_iff.mp last]
    rfl
  | some commit => exact (chained.last last).1

theorem Chained.snoc {commits : List DraftCommit} {commit : DraftCommit}
    (chained : Chained commits) (next : Next commits commit) : Chained (commits ++ [commit]) := by
  intro position held found
  rcases Nat.lt_trichotomy position commits.length with inside | rfl | outside
  · rw [List.getElem?_append_left inside] at found
    exact chained position held found
  · rw [List.getElem?_append_right (Nat.le_refl _), Nat.sub_self] at found
    cases found
    exact ⟨next.expected, next.revision, next.short⟩
  · rw [List.getElem?_eq_none (by simp; omega)] at found
    cases found

/-- The other calls see a step of one client only through the lock and the commits. -/
theorem CallInv.other {client other : Client} {call : DraftCall}
    (held : CallInv sha256 faults s other call) (differs : other ≠ client)
    (lock : ∀ holder, s.holder = some holder → holder ≠ client → t.holder = some holder)
    (commits : t.commits = s.commits ∨
      (s.holder = some client ∧ ∃ commit, t.commits = s.commits ++ [commit])) :
    CallInv sha256 faults t other call := by
  have alone (own : s.holder = some other) : t.commits = s.commits := by
    rcases commits with same | ⟨locked, _⟩
    · exact same
    · rw [own] at locked
      cases locked
      exact absurd rfl differs
  cases call with
  | idle => trivial
  | locking => exact held
  | reading => exact ⟨lock _ held.1 differs, held.2⟩
  | staged commit bytes =>
    obtain ⟨own, next, same⟩ := held
    refine ⟨lock _ own differs, ?_, same⟩
    rw [alone own]
    exact next
  | renamed commit =>
    obtain ⟨own, last⟩ := held
    refine ⟨lock _ own differs, ?_⟩
    rw [alone own]
    exact last
  | loading read seen =>
    refine ⟨?_, held.2⟩
    rcases commits with same | ⟨_, commit, grown⟩
    · rw [same]
      exact held.1
    · rw [grown]
      exact held.1.trans (List.prefix_append _ _)

variable [DecidableEq Client]

theorem draftInv_returned {client : Client} (inv : DraftInv sha256 faults s) :
    DraftInv sha256 faults (s.returned client) := by
  refine ⟨inv.chained, inv.file, fun other => ?_⟩
  by_cases same : other = client
  · rw [same]
    change CallInv _ _ _ _ (Function.update s.calls client .idle client)
    rw [Function.update_self]
    trivial
  · change CallInv _ _ _ _ (Function.update s.calls client .idle other)
    rw [Function.update_of_ne same]
    refine (inv.calls other).other same (fun holder own differs => ?_) (.inl rfl)
    change (if s.holder = some client then none else s.holder) = _
    rw [own, if_neg]
    rintro equal
    cases equal
    exact differs rfl

/-- A step of one client into a call that fits the state after it. -/
theorem draftInv_at {client : Client} {call : DraftCall} (inv : DraftInv sha256 faults s)
    (calls : t.calls = Function.update s.calls client call) (chained : Chained t.commits)
    (file : t.file = storedRecord sha256 t.commits)
    (lock : ∀ holder, s.holder = some holder → holder ≠ client → t.holder = some holder)
    (commits : t.commits = s.commits ∨
      (s.holder = some client ∧ ∃ commit, t.commits = s.commits ++ [commit]))
    (own : CallInv sha256 faults t client call) : DraftInv sha256 faults t := by
  refine ⟨chained, file, fun other => ?_⟩
  rw [calls]
  by_cases same : other = client
  · rw [same, Function.update_self]
    exact own
  · rw [Function.update_of_ne same]
    exact (inv.calls other).other same lock commits

theorem draftInv_step {event : DraftEvent Client} (step : DraftStep sha256 faults s event t)
    (inv : DraftInv sha256 faults s) : DraftInv sha256 faults t := by
  cases step with
  | oversized => exact inv
  | started expected payload idle small =>
    exact draftInv_at inv rfl inv.chained inv.file (fun _ own _ => own) (.inl rfl) small
  | lockFailed => exact draftInv_returned inv
  | busy => exact draftInv_returned inv
  | @locked client expected payload call free =>
    have own := inv.calls client
    rw [call] at own
    refine draftInv_at inv rfl inv.chained inv.file (fun holder held _ => ?_) (.inl rfl)
      ⟨rfl, own⟩
    rw [free] at held
    cases held
  | refused => exact draftInv_returned inv
  | @staged client expected revision payload bytes read call reads staged =>
    have own := inv.calls client
    rw [call] at own
    obtain ⟨⟨current, loaded⟩, counted, same⟩ := stageRecord_ok staged
    rw [inv.file] at reads
    have length : expected.toNat = s.commits.length := by
      rcases answers_of_reads inv.chained reads with answered | ⟨_, _, failed⟩
      · have last := lastSnapshot_revision inv.chained
        rw [← Except.ok.inj (loaded.symm.trans answered)] at last
        exact last
      · rw [loaded] at failed
        cases failed
    refine draftInv_at inv rfl inv.chained inv.file (fun _ held _ => held) (.inl rfl)
      ⟨own.1, ⟨length, ?_, own.2⟩, same⟩
    change revision.toNat = s.commits.length + 1
    rw [counted, length]
  | writeFailed => exact draftInv_returned inv
  | @renamed client commit bytes call =>
    have own := inv.calls client
    rw [call] at own
    obtain ⟨held, next, same⟩ := own
    refine draftInv_at inv rfl (inv.chained.snoc next) ?_ (fun _ own _ => own)
      (.inr ⟨held, commit, rfl⟩) ⟨held, List.getLast?_concat⟩
    unfold storedRecord
    rw [List.getLast?_concat, Option.map_some, same]
  | syncFailed => exact draftInv_returned inv
  | saved => exact draftInv_returned inv
  | @opened client read idle reads =>
    rw [inv.file] at reads
    exact draftInv_at inv rfl inv.chained inv.file (fun _ own _ => own) (.inl rfl)
      ⟨List.prefix_refl _, answers_of_reads inv.chained reads⟩
  | loaded => exact draftInv_returned inv

theorem draftInv_run (run : Run (DraftStep sha256 faults) (.initial Client) events s) :
    DraftInv sha256 faults s :=
  run.invariant (fun _ _ _ step => draftInv_step step) draftInv_initial

/-- The commits whose saves have returned their revision, oldest first. -/
def savedCommits (events : List (DraftEvent Client)) : List DraftCommit :=
  events.filterMap fun event =>
    match event with
    | .saved _ commit => some commit
    | _ => none

/-- Some of the commits, or all of them when the file system never fails. -/
def SavedOf (faults : PathError → Prop) (saved commits : List DraftCommit) : Prop :=
  saved.Sublist commits ∧ ((∀ error, ¬faults error) → saved = commits)

/-- Only the save that has renamed and not returned yet may be missing. -/
structure SavedInv (faults : PathError → Prop) (saved : List DraftCommit)
    (s : DraftState Client) : Prop where
  pending : ∀ client commit, s.calls client = .renamed commit →
    SavedOf faults saved s.commits.dropLast
  settled : (∀ client commit, s.calls client ≠ .renamed commit) → SavedOf faults saved s.commits

omit [DecidableEq Client] in
/-- Only the holder of the lock has renamed. -/
theorem renamed_unique {client other : Client} {commit : DraftCommit}
    (inv : DraftInv sha256 faults s) (own : s.holder = some client)
    (call : s.calls other = .renamed commit) : other = client := by
  have held := inv.calls other
  rw [call] at held
  have same := held.1.symm.trans own
  cases same
  rfl

/-- A step that moves one client between calls that have not renamed. -/
theorem SavedInv.moved {client : Client} {call : DraftCall} {saved : List DraftCommit}
    (held : SavedInv faults saved s) (calls : t.calls = Function.update s.calls client call)
    (before : ∀ commit, s.calls client ≠ .renamed commit) (after : ∀ commit, call ≠ .renamed commit)
    (commits : t.commits = s.commits) : SavedInv faults saved t := by
  have same (other : Client) (commit : DraftCommit) :
      t.calls other = .renamed commit ↔ s.calls other = .renamed commit := by
    rw [calls]
    by_cases own : other = client
    · rw [own, Function.update_self]
      exact ⟨fun equal => absurd equal (after commit), fun equal => absurd equal (before commit)⟩
    · rw [Function.update_of_ne own]
  refine ⟨fun other commit entered => ?_, fun none => ?_⟩
  · rw [commits]
    exact held.pending other commit ((same other commit).mp entered)
  · rw [commits]
    exact held.settled fun other commit entered => none other commit ((same other commit).mpr entered)

theorem savedInv_step {event : DraftEvent Client} {before : List (DraftEvent Client)}
    (step : DraftStep sha256 faults s event t) (inv : DraftInv sha256 faults s)
    (held : SavedInv faults (savedCommits before) s) :
    SavedInv faults (savedCommits (before ++ [event])) t := by
  have grown : savedCommits (before ++ [event]) = savedCommits before ++ savedCommits [event] :=
    List.filterMap_append
  rw [grown]
  cases step with
  | oversized =>
    rw [show savedCommits [_] = [] from rfl, List.append_nil]
    exact held
  | started expected payload idle =>
    rw [show savedCommits [_] = [] from rfl, List.append_nil]
    exact held.moved rfl (by simp [idle]) nofun rfl
  | lockFailed call =>
    rw [show savedCommits [_] = [] from rfl, List.append_nil]
    exact held.moved rfl (by simp [call]) nofun rfl
  | busy call =>
    rw [show savedCommits [_] = [] from rfl, List.append_nil]
    exact held.moved rfl (by simp [call]) nofun rfl
  | locked call =>
    rw [show savedCommits [_] = [] from rfl, List.append_nil]
    exact held.moved rfl (by simp [call]) nofun rfl
  | refused call =>
    rw [show savedCommits [_] = [] from rfl, List.append_nil]
    exact held.moved rfl (by simp [call]) nofun rfl
  | staged call =>
    rw [show savedCommits [_] = [] from rfl, List.append_nil]
    exact held.moved rfl (by simp [call]) nofun rfl
  | writeFailed call =>
    rw [show savedCommits [_] = [] from rfl, List.append_nil]
    exact held.moved rfl (by simp [call]) nofun rfl
  | opened idle =>
    rw [show savedCommits [_] = [] from rfl, List.append_nil]
    exact held.moved rfl (by simp [idle]) nofun rfl
  | loaded call =>
    rw [show savedCommits [_] = [] from rfl, List.append_nil]
    exact held.moved rfl (by simp [call]) nofun rfl
  | @renamed client commit bytes call =>
    rw [show savedCommits [_] = [] from rfl, List.append_nil]
    have own := inv.calls client
    rw [call] at own
    have none : ∀ other commit, s.calls other ≠ .renamed commit := by
      intro other commit entered
      rw [renamed_unique inv own.1 entered, call] at entered
      cases entered
    refine ⟨fun other commit entered => ?_, fun missing => ?_⟩
    · change SavedOf faults _ (s.commits ++ [_]).dropLast
      rw [List.dropLast_concat]
      exact held.settled none
    · exact absurd (Function.update_self ..) (missing client commit)
  | @syncFailed client commit error call allowed =>
    rw [show savedCommits [_] = [] from rfl, List.append_nil]
    have own := inv.calls client
    rw [call] at own
    refine ⟨fun other commit entered => ?_, fun _ => ?_⟩
    · change Function.update s.calls client .idle other = _ at entered
      by_cases same : other = client
      · rw [same, Function.update_self] at entered
        cases entered
      · rw [Function.update_of_ne same] at entered
        exact absurd (renamed_unique inv own.1 entered) same
    · obtain ⟨sub, _⟩ := held.pending client commit call
      exact ⟨sub.trans (List.dropLast_sublist _), fun never => absurd allowed (never error)⟩
  | @saved client commit call =>
    rw [show savedCommits [_] = [commit] from rfl]
    have own := inv.calls client
    rw [call] at own
    refine ⟨fun other commit entered => ?_, fun _ => ?_⟩
    · change Function.update s.calls client .idle other = _ at entered
      by_cases same : other = client
      · rw [same, Function.update_self] at entered
        cases entered
      · rw [Function.update_of_ne same] at entered
        exact absurd (renamed_unique inv own.1 entered) same
    · obtain ⟨sub, exact⟩ := held.pending client commit call
      change SavedOf faults _ s.commits
      rw [← List.dropLast_append_getLast? commit own.2]
      refine ⟨sub.append (List.Sublist.refl _), fun never => ?_⟩
      rw [exact never]

theorem savedInv_run (run : Run (DraftStep sha256 faults) (.initial Client) events s) :
    SavedInv faults (savedCommits events) s := by
  have both : DraftInv sha256 faults s ∧ SavedInv faults (savedCommits events) s := by
    refine run.history (fun events s => DraftInv sha256 faults s ∧
      SavedInv faults (savedCommits events) s) (fun before s event t step held => ?_)
      ⟨draftInv_initial, ⟨nofun, fun _ => ⟨List.Sublist.refl _, fun _ => rfl⟩⟩⟩
    exact ⟨draftInv_step step held.1, savedInv_step step held.1 held.2⟩
  exact both.2

/-- The call of this client returns. -/
def Returns (client : Client) : DraftEvent Client → Prop
  | .saved other _ | .failed other _ | .loaded other _ => other = client
  | .started _ | .locked _ | .staged _ | .renamed _ _ | .opened _ => False

/-- A call that has renamed stays so until it returns. -/
theorem renamed_stays {client : Client} {event : DraftEvent Client} {commit : DraftCommit}
    (step : DraftStep sha256 faults s event t) (still : ¬Returns client event)
    (call : s.calls client = .renamed commit) : t.calls client = .renamed commit := by
  have moved {other : Client} {next : DraftCall} (free : ∀ commit, s.calls other ≠ .renamed commit) :
      Function.update s.calls other next client = .renamed commit := by
    have apart : client ≠ other := by
      rintro rfl
      exact free commit call
    rw [Function.update_of_ne apart]
    exact call
  have away {other : Client} (differs : ¬other = client) :
      Function.update s.calls other .idle client = .renamed commit := by
    rw [Function.update_of_ne (Ne.symm differs)]
    exact call
  cases step with
  | oversized => exact call
  | started expected payload idle => exact moved (by simp [idle])
  | lockFailed => exact away still
  | busy => exact away still
  | locked held => exact moved (by simp [held])
  | refused => exact away still
  | staged held => exact moved (by simp [held])
  | writeFailed => exact away still
  | renamed held => exact moved (by simp [held])
  | syncFailed => exact away still
  | saved => exact away still
  | opened idle => exact moved (by simp [idle])
  | loaded => exact away still

/-- Once a call has renamed, it has until it returns. -/
theorem renamed_run {client : Client} (run : Run (DraftStep sha256 faults) s events t)
    (still : ∀ event ∈ events, ¬Returns client event)
    (renamed : (∃ commit, s.calls client = .renamed commit) ∨
      ∃ commit, .renamed client commit ∈ events) :
    ∃ commit, t.calls client = .renamed commit := by
  induction run with
  | nil =>
    rcases renamed with entered | ⟨commit, member⟩
    · exact entered
    · cases member
  | @cons s m t event events first rest ih =>
    have stays := still event List.mem_cons_self
    refine ih (fun later member => still later (List.mem_cons_of_mem _ member)) ?_
    rcases renamed with ⟨commit, entered⟩ | ⟨commit, member⟩
    · exact .inl ⟨commit, renamed_stays first stays entered⟩
    · rcases List.mem_cons.mp member with rfl | member
      · cases first with
        | renamed call => exact .inl ⟨commit, Function.update_self ..⟩
      · exact .inr ⟨commit, member⟩

/-- A save that fails without an unconfirmed write has not renamed. -/
theorem failed_not_renamed {client : Client} {error : ClientDraftError}
    (step : DraftStep sha256 faults s (.failed client error) t)
    (confirmed : ∀ cause, error ≠ .writeUnconfirmed cause) (commit : DraftCommit) :
    s.calls client ≠ .renamed commit := by
  cases step with
  | oversized idle => simp [idle]
  | lockFailed call => simp [call]
  | busy call => simp [call]
  | refused call => simp [call]
  | writeFailed => exact absurd rfl (confirmed _)
  | syncFailed => exact absurd rfl (confirmed _)

/-- Only a rename changes the file. -/
theorem file_of_step {event : DraftEvent Client} (step : DraftStep sha256 faults s event t) :
    t.file = s.file ∨ ∃ client commit, event = .renamed client commit := by
  cases step with
  | renamed => exact .inr ⟨_, _, rfl⟩
  | _ => exact .inl rfl

/-- What the store promises of a run. -/
structure LosesNoUpdate (sha256 : List UInt8 → BlobHash) (faults : PathError → Prop)
    (events : List (DraftEvent Client)) (s : DraftState Client) : Prop where
  /-- The commits count their revisions, and each names the one before it. -/
  chained : Chained s.commits
  /-- The file is the record of the last commit. -/
  stored : s.file = storedRecord sha256 s.commits
  /-- A save that succeeds has committed; the commits of successful saves are in order. -/
  succeeded : (savedCommits events).Sublist s.commits
  /-- Without I/O errors the successful saves alone count their revisions. -/
  counted : (∀ error, ¬faults error) → Chained (savedCommits events)
  /-- A load gives what was committed last when it opened the file. -/
  loads : ∀ client read seen, s.calls client = .loading read seen →
    seen <+: s.commits ∧ Answers sha256 faults seen read
  /-- A save that fails, but for an unconfirmed write, has never replaced the file. -/
  unchanged : ∀ before middle after client error,
    events = before ++ .started client :: (middle ++ .failed client error :: after) →
    (∀ event ∈ middle, ¬Returns client event) → (∀ cause, error ≠ .writeUnconfirmed cause) →
    ∀ commit, .renamed client commit ∉ middle
  /-- Nothing but such a replacement changes the file. -/
  replaced : ∀ event t, DraftStep sha256 faults s event t →
    t.file = s.file ∨ ∃ client commit, event = .renamed client commit
  /-- What a save stores reads back. -/
  readsBack : ∀ expected revision payload, payload.length ≤ maxClientDraftBytes →
    nextRevision expected = some revision →
    loadSnapshot sha256 (readPrivateFile (some (encodeRecord sha256 revision payload))
      (maxClientDraftBytes + draftOverhead)) = .ok ⟨revision, payload⟩

theorem Chained.take {commits saved : List DraftCommit} (chained : Chained commits)
    (front : saved <+: commits) : Chained saved := by
  intro position commit found
  obtain ⟨rest, rfl⟩ := front
  refine chained position commit ?_
  rw [List.getElem?_append_left (List.getElem?_eq_some_iff.mp found).1]
  exact found

theorem drafts_lose_no_update
    (run : Run (DraftStep sha256 faults) (.initial Client) events s) :
    LosesNoUpdate sha256 faults events s := by
  have inv := draftInv_run run
  have saved := savedInv_run run
  have savedOf : SavedOf faults (savedCommits events) s.commits ∨
      SavedOf faults (savedCommits events) s.commits.dropLast := by
    by_cases none : ∀ client commit, s.calls client ≠ .renamed commit
    · exact .inl (saved.settled none)
    · simp only [not_forall, not_not] at none
      obtain ⟨client, commit, call⟩ := none
      exact .inr (saved.pending client commit call)
  refine
    { chained := inv.chained
      stored := inv.file
      succeeded := ?_
      counted := fun never => ?_
      loads := fun client read seen call => ?_
      unchanged := fun before middle after client error same still confirmed commit member => ?_
      replaced := fun event t step => file_of_step step
      readsBack := fun expected revision payload short counted => ?_ }
  · rcases savedOf with ⟨sub, _⟩ | ⟨sub, _⟩
    · exact sub
    · exact sub.trans (List.dropLast_sublist _)
  · rcases savedOf with ⟨_, all⟩ | ⟨_, all⟩
    · rw [all never]
      exact inv.chained
    · rw [all never]
      exact inv.chained.take (List.dropLast_prefix _)
  · have held := inv.calls client
    rw [call] at held
    exact held
  · subst same
    obtain ⟨first, _, run⟩ := Run.split before run
    cases run with
    | cons _ run =>
      obtain ⟨last, inside, run⟩ := Run.split middle run
      cases run with
      | cons failed _ =>
        obtain ⟨held, entered⟩ := renamed_run inside still (.inr ⟨commit, member⟩)
        exact failed_not_renamed failed confirmed held entered
  · rw [readPrivateFile_record short]
    refine decodeRecord_encodeRecord ?_
    rintro rfl
    have := nextRevision_eq_some counted
    exact absurd this.symm (Nat.succ_ne_zero _)

def sampleCommit : DraftCommit := ⟨0, 1, [7]⟩

/-- One client publishes the first draft; another that still expects none is refused. -/
def sampleEvents : List (DraftEvent Bool) :=
  [.started true, .locked true, .staged true, .renamed true sampleCommit, .saved true sampleCommit,
    .started false, .locked false, .failed false .conflict]

theorem sample_drafts_lose_no_update : ∃ s : DraftState Bool,
    Run (DraftStep sampleBlobDigest fun _ => False) (.initial Bool) sampleEvents s ∧
      s.commits = [sampleCommit] ∧
      LosesNoUpdate sampleBlobDigest (fun _ => False) sampleEvents s := by
  have staged : stageRecord sampleBlobDigest 0 [7] (.error (.io .open .notFound)) =
      .ok (1, encodeRecord sampleBlobDigest 1 [7]) := by decide +kernel
  have stale : stageRecord sampleBlobDigest 0 [9] (.ok (encodeRecord sampleBlobDigest 1 [7])) =
      .error .conflict := by decide +kernel
  have run : Run (DraftStep sampleBlobDigest fun _ => False) (.initial Bool) sampleEvents _ :=
    .cons (.started 0 [7] rfl (by decide)) <|
      .cons (.locked rfl rfl) <| .cons (.staged rfl .file staged) <| .cons (.renamed rfl) <|
      .cons (.saved rfl) <|
      .cons (.started 0 [9] rfl (by decide)) <|
      .cons (.locked rfl rfl) <| .cons (.refused rfl .file stale) (.nil _)
  exact ⟨_, run, rfl, drafts_lose_no_update run⟩

end Decodex.Guarantees.ClientDrafts
