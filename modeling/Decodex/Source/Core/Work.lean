import Mathlib.Tactic.Common

/-!
# Work and Collaboration contracts

Source: crates/decodex-core/src/work.rs:24-203,317-435. The portfolio views, the native
delivery records and the native prompt texts are left out: no modelled operation reads them.
-/
namespace Decodex.Source.Core

inductive WorkState where
  | opened | blocked | completed | cancelled
  deriving DecidableEq, Repr

/-- One authoritative, immutable requirements revision. -/
structure WorkRequirements where
  id : String
  goal : String
  criteria : String
  source : String
  deriving DecidableEq, Repr

/-- The Work owner's current assessment. -/
structure WorkAssessment where
  requirementsId : String
  resultIds : List String
  summary : String
  limits : String
  deriving DecidableEq, Repr

/-- One durable outcome and its accountable Agent. -/
structure Work where
  id : String
  projectId : Option String
  ownerAgentId : String
  title : String
  requirements : WorkRequirements
  state : WorkState
  reason : Option String
  resumeCondition : Option String
  userHold : Bool
  assessment : Option WorkAssessment
  deriving DecidableEq, Repr

structure Material where
  id : String
  workId : String
  title : String
  reference : String
  sha256 : Option String
  deriving DecidableEq, Repr

inductive ResultSource where
  | nativeItem (threadId turnId itemId : String)
  | artifact (path sha256 : String)
  deriving DecidableEq, Repr

/-- A contribution returned against a specific instruction and requirements revision. -/
structure WorkResult where
  id : String
  workId : String
  requirementsId : String
  instructionId : Option String
  nativeContributionId : Option String
  agentId : String
  summary : String
  source : ResultSource
  limits : String
  deriving DecidableEq, Repr

inductive CollaborationState where
  | pending | accepted | returned | closed
  deriving DecidableEq, Repr

/-- One immutable contribution instruction; a repair appends another one. -/
structure CollaborationInstruction where
  id : String
  requirementsId : String
  text : String
  materialIds : List String
  eventId : Option Int
  deliveredTurnId : Option String
  deriving DecidableEq, Repr

/-- A scoped exchange between existing independent Agents. -/
structure CollaborationRequest where
  id : String
  workId : String
  recipientAgentId : String
  instruction : CollaborationInstruction
  state : CollaborationState
  required : Bool
  outcome : Option String
  note : Option String
  deriving DecidableEq, Repr

/-- Attribution of a native helper. -/
structure NativeContribution where
  id : String
  workId : String
  requirementsId : String
  instruction : String
  childThreadId : Option String
  parentTurnId : Option String
  parentItemId : Option String
  deriving DecidableEq, Repr

/-- Authorized business mutations. -/
inductive WorkCommand where
  | prepareSubagent (contribution : NativeContribution)
  | bindSubagent (contributionId parentTurnId parentItemId childThreadId : String)
  | create (work : Work)
  | revise (workId expectedRequirements : String) (requirements : WorkRequirements)
  | setState (workId expectedRequirements : String) (state : WorkState)
      (reason resumeCondition : Option String) (userHold : Bool)
  | addMaterial (material : Material)
  | recordResult (result : WorkResult)
  | reuseResult (workId expectedRequirements resultId assessment : String)
  | complete (workId expectedRequirements : String) (assessment : WorkAssessment)
  | request (request : CollaborationRequest)
  | respond (requestId instructionId : String) (accept : Bool) (note : String)
  | repair (requestId expectedInstruction : String) (instruction : CollaborationInstruction)
  | closeRequest (requestId instructionId outcome note : String)
  deriving DecidableEq, Repr

end Decodex.Source.Core
