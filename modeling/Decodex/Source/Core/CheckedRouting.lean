import Decodex.Source.Core.Routing

/-!
# Account Registry routing with its partial operations

`decodex-core/src/routing.rs:581-678` (decision), 940-1048 (indexes and classification) with
what can fail in it: an index into a slice and a subtraction of two `i64` values. Either ends
in the fault `panic`, as the index of the canonical order does. Everything else is the kernel
of `Routing`.
-/
namespace Decodex.Source.Core.CheckedRouting

open Decodex.Source.Core.Routing

/-- An index expression. -/
def itemAt {α : Type} (items : List α) (index : Nat) : Except RoutingFault α :=
  match items[index]? with
  | some item => .ok item
  | none => .error .panic

/-- A subtraction with overflow checks. -/
def subtract (left right : Int) : Except RoutingFault Int :=
  if -(2 ^ 63) ≤ left - right ∧ left - right < 2 ^ 63 then .ok (left - right) else .error .panic

/-- The age that a round of the window loop computes, of an observation that is not from the
future. -/
def observationAge (decidedAt : Int) (fact : AccountRegistryQuotaFact) : Except RoutingFault Unit :=
  match fact.observation with
  | .missing | .observationError _ _ => .ok ()
  | .notApplicable observedAt | .current _ observedAt _ =>
    if observedAt > decidedAt then .ok () else (subtract decidedAt observedAt).map fun _ => ()

/-- `classify_account_registry_member`, whose rounds fail in their subtraction only. -/
def classifyAccountRegistryMember (member : AccountRegistryRoutingMember)
    (facts : AccountRegistryQuotaFact × AccountRegistryQuotaFact) (decidedAt : Int) :
    Except RoutingFault AccountRegistryMemberCapacity := do
  observationAge decidedAt facts.1
  observationAge decidedAt facts.2
  return Routing.classifyAccountRegistryMember member facts decidedAt

def accountRegistryEvaluatedMemberIndexes (snapshot : AccountRegistryRoutingSnapshot) :
    Except AccountRegistryRoutingKernelError (List Nat) :=
  match snapshot.mode with
  | .balanced => .ok (List.range snapshot.members.length)
  | .fixed accountId =>
    match snapshot.members.findIdx? (·.accountId == accountId) with
    | some index => .ok [index]
    | none => .error (.fixedTargetAbsent accountId)

/-- The member at an index with its classification. -/
def evaluateMember (snapshot : AccountRegistryRoutingSnapshot)
    (factsByMember : List (AccountRegistryQuotaFact × AccountRegistryQuotaFact))
    (decidedAt : Int) (index : Nat) :
    Except RoutingFault (AccountRegistryRoutingMember × AccountRegistryMemberCapacity) := do
  let member ← itemAt snapshot.members index
  let facts ← itemAt factsByMember index
  let capacity ← classifyAccountRegistryMember member facts decidedAt
  return (member, capacity)

/-- The evaluated members with their classifications, by their indexes. -/
def evaluateMembers (snapshot : AccountRegistryRoutingSnapshot) (decidedAt : Int)
    (factsByMember : List (AccountRegistryQuotaFact × AccountRegistryQuotaFact)) :
    Except RoutingFault (List (AccountRegistryRoutingMember × AccountRegistryMemberCapacity)) := do
  let indexes ← kernel (accountRegistryEvaluatedMemberIndexes snapshot)
  indexes.mapM (evaluateMember snapshot factsByMember decidedAt)

def decideAccountRegistryRouting (snapshot : AccountRegistryRoutingSnapshot) (decidedAt : Int) :
    Except RoutingFault AccountRegistryRoutingDecision :=
  decideWith (evaluateMembers snapshot decidedAt) snapshot decidedAt

end Decodex.Source.Core.CheckedRouting
