import ControlTower.Models

/-! Durable Mission Control runs and their steps. -/

set_option autoImplicit false

namespace ControlTower

open Foundation

inductive AgentRunStatus where
  | scheduled | running | evaluating | retryWait | paused | needsHuman | blocked | succeeded | failed
  | cancelled
  deriving DecidableEq, Repr

def AgentRunStatus.value : AgentRunStatus → String
  | .scheduled => "SCHEDULED"
  | .running => "RUNNING"
  | .evaluating => "EVALUATING"
  | .retryWait => "RETRY_WAIT"
  | .paused => "PAUSED"
  | .needsHuman => "NEEDS_HUMAN"
  | .blocked => "BLOCKED"
  | .succeeded => "SUCCEEDED"
  | .failed => "FAILED"
  | .cancelled => "CANCELLED"

inductive AgentRunStepType where
  | validateScope | createBranch | applyChanges | runValidation | createPullRequest | verifyResult
  | sealEvidence
  deriving DecidableEq, Repr

def AgentRunStepType.value : AgentRunStepType → String
  | .validateScope => "VALIDATE_SCOPE"
  | .createBranch => "CREATE_BRANCH"
  | .applyChanges => "APPLY_CHANGES"
  | .runValidation => "RUN_VALIDATION"
  | .createPullRequest => "CREATE_PULL_REQUEST"
  | .verifyResult => "VERIFY_RESULT"
  | .sealEvidence => "SEAL_EVIDENCE"

inductive AgentRunStepStatus where
  | pending | ready | running | retryWait | paused | needsHuman | blocked | succeeded | failed
  | cancelled | skipped
  deriving DecidableEq, Repr

def AgentRunStepStatus.value : AgentRunStepStatus → String
  | .pending => "PENDING"
  | .ready => "READY"
  | .running => "RUNNING"
  | .retryWait => "RETRY_WAIT"
  | .paused => "PAUSED"
  | .needsHuman => "NEEDS_HUMAN"
  | .blocked => "BLOCKED"
  | .succeeded => "SUCCEEDED"
  | .failed => "FAILED"
  | .cancelled => "CANCELLED"
  | .skipped => "SKIPPED"

inductive VerificationDecision where
  | pass | retryTransient | needsRevision | needsHuman | blockPolicy | failPermanent
  deriving DecidableEq, Repr

def VerificationDecision.value : VerificationDecision → String
  | .pass => "PASS"
  | .retryTransient => "RETRY_TRANSIENT"
  | .needsRevision => "NEEDS_REVISION"
  | .needsHuman => "NEEDS_HUMAN"
  | .blockPolicy => "BLOCK_POLICY"
  | .failPermanent => "FAIL_PERMANENT"

def defaultAgentRunSteps : List AgentRunStepType :=
  [.validateScope, .createBranch, .applyChanges, .runValidation, .createPullRequest, .verifyResult,
    .sealEvidence]

structure AgentRun where
  id : String
  taskId : String
  approvalRequestId : Option String
  capabilityLeaseId : Option String
  projectId : Option String
  repository : Option String
  objective : String
  correlationId : String
  status : AgentRunStatus
  currentStepId : Option String
  currentStepIndex : Nat
  maxAttemptsPerStep : Nat
  pauseRequested : Bool
  cancelRequested : Bool
  leaseOwner : Option String
  leaseToken : Option String
  leaseExpiresAt : Option Instant
  heartbeatAt : Option Instant
  startedAt : Option Instant
  completedAt : Option Instant
  finalEvidenceHash : Option String
  lastError : Option String
  createdAt : Instant
  updatedAt : Instant
  deriving DecidableEq

structure AgentRunStep where
  id : String
  runId : String
  taskId : String
  sequence : Nat
  stepType : AgentRunStepType
  status : AgentRunStepStatus
  attemptCount : Nat
  maxAttempts : Nat
  idempotencyKey : String
  leaseOwner : Option String
  leaseToken : Option String
  leaseExpiresAt : Option Instant
  heartbeatAt : Option Instant
  nextRetryAt : Option Instant
  startedAt : Option Instant
  completedAt : Option Instant
  durationMs : Option Nat
  decision : Option VerificationDecision
  reason : String
  lastError : Option String
  evidence : Document
  evidenceHash : Option String
  outputReference : Option String
  createdAt : Instant
  updatedAt : Instant
  deriving DecidableEq

structure AgentRunStepExecutionResult where
  success : Bool
  decision : VerificationDecision
  reason : String
  evidence : Document
  outputReference : Option String
  deriving DecidableEq

/-- A run together with its steps in the order of their sequence numbers. The
steps of a run are created with it and never join another run. -/
structure DurableRun where
  run : AgentRun
  steps : List AgentRunStep
  deriving DecidableEq

def findStep (steps : List AgentRunStep) (stepId : String) : Option AgentRunStep :=
  steps.find? fun step => step.id == stepId

/-- Store a changed step under its identifier. -/
def putStep (steps : List AgentRunStep) (step : AgentRunStep) : List AgentRunStep :=
  steps.map fun other => if other.id = step.id then step else other

/-- `agent_run_steps.get(run.current_step_id or "")`. -/
def DurableRun.currentStep (durable : DurableRun) : Option AgentRunStep :=
  findStep durable.steps (durable.run.currentStepId.getD "")

end ControlTower
