import Decodex.Library.RecursiveQuery
import Decodex.Source.Store.ProcessGenerations

/-!
# Agent process admission

Source: database/src/agent_process.rs:137-191 (`prepare_agent_bound_process_generation`),
236-281 (`rejected`, `admission_digest`), and trigger `agent_process_binding_authority` of
database/schema.sql:1291-1312. Root settings and thread ownership are left out.
-/
namespace Decodex.Source.Store.AgentProcess

open Decodex.Library
open Decodex.Source.Core Decodex.Source.Store.ProcessGenerations

/-- `char::is_whitespace`. -/
def isWhitespace (c : Char) : Bool :=
  (9 ≤ c.val && c.val ≤ 13) || c.val == 32 || c.val == 133 || c.val == 160 || c.val == 5760 ||
    (8192 ≤ c.val && c.val ≤ 8202) || c.val == 8232 || c.val == 8233 || c.val == 8239 ||
    c.val == 8287 || c.val == 12288

/-- `value.trim().is_empty()`. -/
def isBlank (value : String) : Bool := value.toList.all isWhitespace

/-- The work item is a root goal. -/
def isRootGoal (store : SqliteStore) (id : String) : Bool :=
  (store.agentWorkItems.find? id).any fun item => item.kind == .goal && item.parentGoalId.isNone

/-- The bound generation of another account is not dead. -/
def affinityConflict (store : SqliteStore) (rootId : String) (accountId : AccountId) : Bool :=
  store.agentProcessBindings.rows.any fun binding =>
    binding.rootId == rootId && binding.accountId != accountId &&
      (store.processGenerations.find? binding.generationId).any fun row =>
        row.generation.state != .dead

/-- `ORDER BY created_at_micros DESC, rowid DESC LIMIT 1` of a root's bindings. -/
def latestBinding (store : SqliteStore) (rootId : String) : Option AgentProcessBindingRow :=
  (store.agentProcessBindings.rows.filter fun binding => binding.rootId == rootId).foldl
    (fun latest row =>
      match latest with
      | none => some row
      | some best => if best.createdAtMicros ≤ row.createdAtMicros then some row else some best)
    none

def changingAccount (store : SqliteStore) (rootId : String) (accountId : AccountId) : Bool :=
  (latestBinding store rootId).any fun binding => binding.accountId != accountId

/-- `WITH RECURSIVE family(id)`: the root and every work item below it. -/
def family (store : SqliteStore) (rootId : String) : Option (List String) :=
  saturate
    (fun id => (store.agentWorkItems.rows.filter fun item =>
      item.parentGoalId == some id).map (·.id))
    (store.agentWorkItems.rows.length + 1) [] [rootId]

/-- A prompt edit of the item was attempted and not released. -/
def promptEditPending (store : SqliteStore) (id : String) : Bool :=
  store.agentInboxEvents.rows.any fun attempt =>
    attempt.workItemId == id && attempt.eventKind == "prompt_edit_attempt" &&
      !store.agentInboxEvents.rows.any fun release =>
        release.sourceEventId == attempt.sourceEventId ++ ":release" &&
          release.eventKind == "prompt_edit_release"

def familyBusy (store : SqliteStore) (members : List String) : Bool :=
  store.agentWorkItems.rows.any fun item =>
    decide (item.id ∈ members) && (item.dispatchState != .idle || promptEditPending store item.id)

/-- Trigger `agent_process_binding_authority`; `false` raises. -/
def agentProcessBindingAuthority (store : SqliteStore) (new : AgentProcessBindingRow) : Bool :=
  isRootGoal store new.rootId && !affinityConflict store new.rootId new.accountId &&
    !(changingAccount store new.rootId new.accountId &&
      (family store new.rootId).all fun members =>
        store.agentWorkItems.rows.any fun item =>
          decide (item.id ∈ members) && item.dispatchState != .idle) &&
    (store.processGenerations.find? new.generationId).any fun row =>
      row.generation.accountId == new.accountId && row.runtimeSessionId.isNone &&
        row.quickTaskAdmissionKey.isNone

def controlKindText : ProcessControlKind → String
  | .stdioOnlyBestEffortEof => "stdio_only_best_effort_eof"
  | .parentDeathSignalAndStdioEof => "parent_death_signal_and_stdio_eof"

def isolationKindText : ProcessIsolationKind → String
  | .session => "session"

/-- `admission_digest` over the texts of its JSON array. -/
def admissionDigest (host : Host) (intent : ProcessGenerationIntent)
    (binding : ProcessGenerationAccountBinding) (rootId operationKey : String) : String :=
  host.jsonDigest
    [rootId, operationKey, intent.generationId.text, intent.accountId.text,
      intent.executionAuthorization.epochId.text,
      intent.executionAuthorization.authorizationDigest, intent.runnerIdentity.text,
      intent.intendedBootId.text, controlKindText intent.controlKind,
      isolationKindText intent.isolationKind, toString binding.accountRevision,
      toString binding.credential.schemaVersion.get,
      toString binding.credential.version.toNat, binding.credential.fingerprint,
      binding.credential.writerOperationId.text, "Chatgpt",
      binding.credential.providerAccountId, binding.refreshCallbackProfileSha256]

/-- The account of a root may change only while its whole family is idle. -/
def rotationRefused (store : SqliteStore) (rootId : String) (accountId : AccountId) :
    Except StoreError Bool :=
  if changingAccount store rootId accountId then
    match family store rootId with
    | none => .error sqliteError
    | some members => .ok (familyBusy store members)
  else .ok false

def prepareAgentBoundProcessGeneration (host : Host) (intent : ProcessGenerationIntent)
    (binding : ProcessGenerationAccountBinding) (rootId operationKey : String)
    (epochNow now bindingNow : Int) (store : SqliteStore) :
    Except StoreError (PrepareProcessGenerationOutcome × SqliteStore) :=
  if isBlank rootId = true ∨ 512 < rootId.utf8ByteSize ∨ isBlank operationKey = true ∨
      256 < operationKey.utf8ByteSize then
    .error (.invalidInput "Agent process admission identity is invalid")
  else if isRootGoal store rootId = false then
    .error (.invalidInput "Agent process requires a root goal")
  else
    let digest := admissionDigest host intent binding rootId operationKey
    match store.agentProcessBindings.find? operationKey with
    | some previous =>
      if previous.requestSha256 ≠ digest then
        .ok (.rejected .identityConflict emptyMutation, store)
      else
        match readGeneration store previous.generationId with
        | none => .error DatabaseError.corrupt.toStoreError
        | some generation => .ok (.replayed (mutation generation), store)
    | none => do
      let busy ← rotationRefused store rootId intent.accountId
      if busy then .ok (.rejected .identityConflict emptyMutation, store)
      else if affinityConflict store rootId intent.accountId = true ∨
          (readGeneration store intent.generationId).isSome = true then
        .ok (.rejected .identityConflict emptyMutation, store)
      else
        match ← prepareBoundGeneration intent binding none none epochNow now store with
        | (.fresh fence, prepared) =>
          let row : AgentProcessBindingRow :=
            ⟨operationKey, rootId, intent.accountId, intent.generationId, digest, bindingNow⟩
          if agentProcessBindingAuthority prepared row then do
            let bindings ← execute <| prepared.agentProcessBindings.insert row
            .ok (.fresh fence, { prepared with agentProcessBindings := bindings })
          else .error sqliteError
        -- Any other outcome returns before the commit.
        | (outcome, _) => .ok (outcome, store)

theorem prepareAgentBound_change {host : Host} {intent : ProcessGenerationIntent}
    {binding : ProcessGenerationAccountBinding} {rootId operationKey : String}
    {epochNow now bindingNow : Int} {store after : SqliteStore}
    {outcome : PrepareProcessGenerationOutcome}
    (success : prepareAgentBoundProcessGeneration host intent binding rootId operationKey epochNow
      now bindingNow store = .ok (outcome, after)) : GenerationChange store after := by
  unfold prepareAgentBoundProcessGeneration at success
  split at success
  · cases success
  · split at success
    · cases success
    · dsimp only at success
      split at success
      · split at success
        · cases success
          exact .kept rfl rfl
        · split at success
          · cases success
          · cases success
            exact .kept rfl rfl
      · obtain ⟨busy, _, success⟩ := bind_ok success
        split at success
        · cases success
          exact .kept rfl rfl
        · split at success
          · cases success
            exact .kept rfl rfl
          · obtain ⟨⟨inner, prepared⟩, nested, success⟩ := bind_ok success
            split at success
            · rename_i fence _ same
              cases same
              split at success
              · obtain ⟨bindings, _, success⟩ := bind_ok success
                cases success
                -- The binding table is not a generation table.
                cases prepareBoundGeneration_change nested with
                | kept generations evidence => exact .kept generations evidence
                | started row inserted starting evidence =>
                  exact .started row inserted starting evidence
                | updated id row change found move updated keeps evidence =>
                  exact .updated id row change found move updated keeps evidence
                | restarted now updated evidence => exact .restarted now updated evidence
                | died evidence row revision now found live identity inserted updated =>
                  exact .died evidence row revision now found live identity inserted updated
              · cases success
            · cases success
              exact .kept rfl rfl

end Decodex.Source.Store.AgentProcess
