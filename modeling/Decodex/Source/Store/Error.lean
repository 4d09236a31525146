import Decodex.Library.Except

/-!
# Store failures

Source: database/src/error.rs, and the integer width of stored revisions. The payload of
`StoreError::Blob` is left out: no modelled operation reads it.
-/
namespace Decodex.Source.Store

/-- `DatabaseError` of error.rs. -/
inductive DatabaseError where
  | unavailable | incompatible | unsafePath | closed | conflict | notFound | alreadyExists
  | corrupt
  deriving DecidableEq, Repr

/-- `StoreError` of error.rs. -/
inductive StoreError where
  | database (error : DatabaseError)
  | incompatible (detail : String)
  | unsafeHostPath
  | idempotencyConflict
  | operationIdConflict
  | revisionConflict (entity : String) (expected actual : Option Int)
  | ownershipLost (owner : String)
  | credentialRejected
  | agentThreadInUse
  | invalidInput (reason : String)
  | capacityExhausted (resource : String)
  | blob
  deriving DecidableEq, Repr

/-- `impl From<DatabaseError> for StoreError`. -/
def DatabaseError.toStoreError : DatabaseError → StoreError
  | .unsafePath => .unsafeHostPath
  | .incompatible => .incompatible "schema"
  | error => .database error

/-- `sqlite_error`: every refused statement is reported as an unavailable database. -/
def sqliteError : StoreError := DatabaseError.unavailable.toStoreError

/-- `incompatible` of conversations.rs:3296, continuations.rs:1139, runtime_sessions.rs:1276,
provider_attempts.rs:1052 and process_generations.rs:978. -/
def incompatible (reason : String) : StoreError :=
  .incompatible ("stored " ++ reason ++ " is malformed")

/-- A statement whose rows the schema refuses aborts the transaction. -/
def execute {α : Type} : Option α → Except StoreError α
  | some value => .ok value
  | none => .error sqliteError

@[simp] theorem execute_eq_ok {α : Type} {statement : Option α} {value : α} :
    execute statement = .ok value ↔ statement = some value := by
  cases statement <;> simp [execute]

/-- `i64::MAX`, the largest stored revision. -/
def i64Max : Int := 9223372036854775807

/-- `i64::saturating_add(1)`. -/
def saturatingSucc (value : Int) : Int := min (value + 1) i64Max

end Decodex.Source.Store
