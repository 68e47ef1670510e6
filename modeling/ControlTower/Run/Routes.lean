import ControlTower.Run.Trust

/-! The routes of durable runs and of the trust gateway, one request at a time. -/

set_option autoImplicit false

namespace ControlTower

open Foundation
open Foundation.Procedure (demand found onlyIf)

structure AgentRunCreate where
  taskId : String
  capabilityLeaseId : Option String
  maxAttemptsPerStep : Nat
  attemptBounds : 1 ≤ maxAttemptsPerStep ∧ maxAttemptsPerStep ≤ 10
  correlationId : Option String

structure AgentRunExecuteRequest where
  workerId : String
  leaseSeconds : Nat
  leaseBounds : 10 ≤ leaseSeconds ∧ leaseSeconds ≤ 3600
  timeoutSeconds : Nat
  timeoutBounds : 1 ≤ timeoutSeconds ∧ timeoutSeconds ≤ 3600

structure AgentRunHeartbeatRequest where
  workerId : String
  leaseToken : String
  leaseSeconds : Nat
  leaseBounds : 10 ≤ leaseSeconds ∧ leaseSeconds ≤ 3600

structure ActionAuthorizationCreate where
  decision : ActionAuthorizationDecision
  reason : String
  reasonBounds : 3 ≤ reason.length ∧ reason.length ≤ 1000

/-- Draw identifiers one after another, each new to all before it. -/
def freshIds (runtime : Runtime) (kind : String) (used : List String) : Nat → List String
  | 0 => []
  | count + 1 =>
      let id := runtime.newId kind used
      id :: freshIds runtime kind (id :: used) count

def initialStep (run : AgentRun) (index : Nat) (stepType : AgentRunStepType) (id : String) : AgentRunStep :=
  { id
    runId := run.id
    taskId := run.taskId
    sequence := index
    stepType
    status := if index = 0 then .ready else .pending
    attemptCount := 0
    maxAttempts := run.maxAttemptsPerStep
    idempotencyKey := s!"{run.id}:{index}:{stepType.value}"
    leaseOwner := none
    leaseToken := none
    leaseExpiresAt := none
    heartbeatAt := none
    nextRetryAt := none
    startedAt := none
    completedAt := none
    durationMs := none
    decision := none
    reason := ""
    lastError := none
    evidence := .object []
    evidenceHash := none
    outputReference := none
    createdAt := run.createdAt
    updatedAt := run.createdAt }

/-- The steps of a new run, number `index` and following. -/
def initialSteps (run : AgentRun) : Nat → List AgentRunStepType → List String → List AgentRunStep
  | index, stepType :: types, id :: ids =>
      initialStep run index stepType id :: initialSteps run (index + 1) types ids
  | _, _, _ => []

/-- A run that is not over in a way that allows another run of its task. -/
def AgentRun.occupies (run : AgentRun) (taskId : String) : Bool :=
  run.taskId == taskId && run.status != .failed && run.status != .cancelled && run.status != .blocked

/-- The runs of a task that keep it from getting another, latest last among equals. -/
def Store.existingRun (store : Store) (taskId : String) : Option AgentRun :=
  Selection.pick (fun best run => decide (best.createdAt ≤ run.createdAt))
    ((store.agentRuns.values.map (·.run)).filter (·.occupies taskId))

def createAgentRun (runtime : Runtime) (payload : AgentRunCreate) : StoreProcedure String := do
  let store ← Procedure.state
  let task ← found (store.agentTasks.get? payload.taskId) (.valueError "Agent task not found.")
  demand (task.status = .approved)
    (.agentRunConflict s!"Agent task must be APPROVED before a run is created; got {task.status.value}.")
  let unapproved := Raised.agentRunConflict "A linked APPROVED approval is required before a run is created."
  let approval ← found (store.approvalRequests.get? (task.approvalRequestId.getD "")) unapproved
  demand (approval.status = .approved) unapproved
  match store.existingRun task.id with
  | some existing => return existing.id
  | none => do
      let correlation ← drawSecret runtime
      let now ← readClock runtime
      let stepIds := freshIds runtime "agent_run_step" store.stepIds defaultAgentRunSteps.length
      let run : AgentRun :=
        { id := runtime.newId "agent_run" store.agentRuns.keys
          taskId := task.id
          approvalRequestId := some approval.id
          capabilityLeaseId := none
          projectId := task.projectId
          repository := task.repository
          objective := task.goal
          correlationId :=
            if Text.present payload.correlationId then payload.correlationId.getD "" else "corr_" ++ correlation
          status := .scheduled
          currentStepId := stepIds.head?
          currentStepIndex := 0
          maxAttemptsPerStep := payload.maxAttemptsPerStep
          pauseRequested := false
          cancelRequested := false
          leaseOwner := none
          leaseToken := none
          leaseExpiresAt := none
          heartbeatAt := none
          startedAt := none
          completedAt := none
          finalEvidenceHash := none
          lastError := none
          createdAt := now
          updatedAt := now }
      .modify fun store => { store with
        agentRuns := store.agentRuns.set run.id ⟨run, initialSteps run 0 defaultAgentRunSteps stepIds⟩ }
      persist
      return run.id

/-- The handlers of the run routes turn conflicts into responses and let other
errors through. -/
def Raised.asConflict : Raised → Raised
  | .agentRunConflict message | .agentRunTrustConflict message | .runCapabilityConflict message =>
      .http 409 message
  | other => other

def Raised.asNotFound (error : Raised) : Raised :=
  if error.isValueError then .http 404 error.message else error

def conflictResponse {α : Type} (body : StoreProcedure α) : StoreProcedure α := body.relabel Raised.asConflict

def notFoundResponse {α : Type} (body : StoreProcedure α) : StoreProcedure α := body.relabel Raised.asNotFound

def createRun (runtime : Runtime) (payload : AgentRunCreate) : StoreProcedure Unit :=
  conflictResponse (notFoundResponse (do
    let runId ← createAgentRun runtime payload
    if Text.present payload.capabilityLeaseId = true then
      attachCapabilityLease runtime runId (payload.capabilityLeaseId.getD "")
    else pure ()))

/-- No step of the run is in flight: the current step does not run and nobody
holds the run's lease. -/
def DurableRun.AtBoundary (durable : DurableRun) : Prop :=
  (durable.currentStep.all (·.status != .running)) = true ∧
    durable.run.leaseOwner = none ∧ durable.run.leaseToken = none

instance (durable : DurableRun) : Decidable durable.AtBoundary := by
  unfold DurableRun.AtBoundary
  infer_instance

def requireStepBoundary (durable : DurableRun) (action : String) : StoreProcedure Unit :=
  demand durable.AtBoundary (.http 409
    s!"Cannot {action} while a governed step is in flight. Wait for the step boundary or recover an expired lease first.")

def bindRunCapabilityLease (runtime : Runtime) (runId leaseId : String) : StoreProcedure Unit := do
  let durable ← runOr404 runId
  requireStepBoundary durable "bind a capability lease"
  conflictResponse (notFoundResponse (attachCapabilityLease runtime runId leaseId))

def maxValidationCommands : Nat := 12
def maxRunLeaseSeconds : Nat := 3600
def runLeaseOverheadSeconds : Nat := 60

def safeLeaseSeconds (payload : AgentRunExecuteRequest) : StoreProcedure Nat := do
  let required := payload.timeoutSeconds * maxValidationCommands + runLeaseOverheadSeconds
  demand (required ≤ maxRunLeaseSeconds) (.http 422
    s!"timeout_seconds is too large for the bounded Mission Control lease. Maximum safe value is {(maxRunLeaseSeconds - runLeaseOverheadSeconds) / maxValidationCommands}.")
  return max payload.leaseSeconds required

/-- The checks in front of an execution, with the lease length and the
identifier of the step that is current. -/
def admitExecution (runId : String) (payload : AgentRunExecuteRequest) : StoreProcedure (Nat × String) := do
  let durable ← runOr404 runId
  requireStepBoundary durable "start another execution"
  let leaseSeconds ← safeLeaseSeconds payload
  let current ← found durable.currentStep (.http 409 "Run has no current step")
  return (leaseSeconds, current.id)

/-- The trust part of an execution: a lease for the run and an authorization of
the current step. -/
def governExecution (runtime : Runtime) (runId stepId : String) (payload : AgentRunExecuteRequest)
    (user : AuthUser) : StoreProcedure (List ProposedAction) := do
  ensureRunCapability runtime runId user
  authorizeRunStep runtime runId stepId user.email payload.timeoutSeconds

/-- What an executor call leaves on the run by itself. -/
def sealFinalEvidence (outcome : ExecutorOutcome) : RunProcedure Unit :=
  match outcome with
  | .returned _ (some finalHash) =>
      RunScope.modifyRun fun run => { run with finalEvidenceHash := some finalHash }
  | _ => pure ()

/-- Call the executor for a step that was begun and apply what came back. -/
def runExecutor (runtime : Runtime) (runId : String) (outcome : ExecutorOutcome) (begun : Begun) :
    StoreProcedure Unit :=
  match begun with
  | .answered _ => pure ()
  | .invoking step _ => do
      onRun runId (sealFinalEvidence outcome)
      match outcome.result runtime with
      | none => Procedure.raise .workerCrashed
      | some result => onRun runId (finishExecution runtime step.id result)

/-- An execution up to the consumption of its actions, which it returns. -/
def attemptStep (runtime : Runtime) (runId currentId : String) (leaseSeconds : Nat)
    (payload : AgentRunExecuteRequest) (outcome : ExecutorOutcome) (user : AuthUser) :
    StoreProcedure (List ProposedAction) := do
  let actions ← governExecution runtime runId currentId payload user
  let begun ← onRun runId (beginExecution runtime payload.workerId leaseSeconds)
  runExecutor runtime runId outcome begun
  return actions

def executeRunNextStep (runtime : Runtime) (runId : String) (payload : AgentRunExecuteRequest)
    (outcome : ExecutorOutcome) (user : AuthUser) : StoreProcedure Unit := do
  let (leaseSeconds, currentId) ← admitExecution runId payload
  conflictResponse (do
    let actions ← attemptStep runtime runId currentId leaseSeconds payload outcome user
    consumeRunStepActions runtime runId currentId user.email actions)

def heartbeatAgentRun (runtime : Runtime) (runId : String) (payload : AgentRunHeartbeatRequest) :
    StoreProcedure Unit :=
  conflictResponse (onRun runId
    (heartbeatRun runtime payload.workerId payload.leaseToken payload.leaseSeconds))

def pauseRun (runtime : Runtime) (runId reason : String) : StoreProcedure Unit := do
  requireStepBoundary (← runOr404 runId) "pause the run"
  conflictResponse (onRun runId (pauseAgentRun runtime reason))
  persist

def resumeRun (runtime : Runtime) (runId reason : String) : StoreProcedure Unit := do
  conflictResponse (onRun runId (resumeAgentRun runtime reason))
  persist

def cancelRun (runtime : Runtime) (runId reason : String) : StoreProcedure Unit := do
  requireStepBoundary (← runOr404 runId) "cancel the run"
  conflictResponse (onRun runId (cancelAgentRun runtime reason))
  persist

def AgentRunStepStatus.nonRetryable : AgentRunStepStatus → Bool
  | .running | .blocked | .succeeded | .failed | .cancelled | .skipped => true
  | _ => false

/-- The step a retry is about: the one named in the request, wherever it is, or
the current step of the run. -/
def retryTarget (runId : String) (durable : DurableRun) (stepId : Option String) :
    StoreProcedure (String × AgentRunStep) :=
  if Text.present stepId = true then do
    let (owner, step) ← found ((← Procedure.state).stepWithRun (stepId.getD ""))
      (.http 404 "Agent run step not found")
    return (owner.run.id, step)
  else do
    let step ← found durable.currentStep (.http 409 "Run has no current step to retry")
    return (runId, step)

def retryRun (runtime : Runtime) (runId : String) (stepId : Option String) (reason : String) :
    StoreProcedure Unit := do
  let durable ← runOr404 runId
  demand (durable.run.status.isTerminal = false) (.http 409
    s!"Terminal run {durable.run.status.value} cannot be retried. Create a revised approval and a new run instead.")
  let (ownerId, step) ← retryTarget runId durable stepId
  demand (step.status.nonRetryable = false)
    (.http 409 s!"Step {step.status.value} is not eligible for bounded retry.")
  conflictResponse (do
    demand (ownerId = runId) (.agentRunConflict "Step does not belong to run.")
    onRun runId (atStep step.id (retryAgentRunStep runtime reason)))
  persist

/-- The watchdog reads the clock once and visits every run. -/
def recoverStaleLeases (runtime : Runtime) : StoreProcedure Unit := do
  let now ← readClock runtime
  let runIds := (← Procedure.state).agentRuns.keys
  Procedure.each (fun runId => do
    let _ ← onRun runId (recoverStaleLease runtime now)
    pure ()) runIds
  persist

/-- `authorize_run_step` on the current step of a run. -/
def authorizeCurrentStep (runtime : Runtime) (runId actor : String) (timeoutSeconds : Nat) :
    StoreProcedure Unit := do
  let durable ← runOr404 runId
  let current ← found durable.currentStep (.http 409 "Run has no current step")
  let _ ← authorizeRunStep runtime runId current.id actor timeoutSeconds
  pure ()

def Raised.asTrustError : Raised → Raised
  | .trustControlConflict message | .actionAuthorizationConflict message => .http 409 message
  | other => other.asNotFound

def trustErrorResponse {α : Type} (body : StoreProcedure α) : StoreProcedure α :=
  body.relabel Raised.asTrustError

def evaluateExternalAgentAction (runtime : Runtime) (agentId : String) (payload : ProposedAction) :
    StoreProcedure Unit := do
  demand payload.WithinLimits (.http 422 "ProposedAction")
  let agent ← found ((← Procedure.state).externalAgents.get? agentId) (.http 401 "Invalid agent token")
  assertAgentCan agent .executeGithub payload.projectId payload.repository
  let normalized := { payload with provider := agent.provider, agentId := some agent.id }
  let lease := (← Procedure.state).capabilityLeases.get? (normalized.leaseId.getD "")
  demand ((lease.any fun lease => Text.present lease.agentId && lease.agentId != some agent.id) = false)
    (.http 403 "Capability lease belongs to another agent")
  let _ ← evaluateGatewayAction runtime normalized s!"agent:{agent.id}"
  pure ()

def evaluateManualAction (runtime : Runtime) (payload : ProposedAction) (user : AuthUser) :
    StoreProcedure Unit := do
  demand payload.WithinLimits (.http 422 "ProposedAction")
  let _ ← evaluateGatewayAction runtime payload user.email
  pure ()

def decideExactAction (runtime : Runtime) (actionId : String) (payload : ActionAuthorizationCreate)
    (user : AuthUser) : StoreProcedure Unit :=
  trustErrorResponse (recordActionAuthorization runtime actionId payload.decision payload.reason user)

def consumeManualAction (runtime : Runtime) (actionId : String) (payload : ActionConsumption)
    (user : AuthUser) : StoreProcedure Unit := do
  demand (payload.actualRuntimeSeconds ≤ 3600 ∧ 0 ≤ payload.actualCostUsd ∧ payload.actualCostUsd ≤ 10 ∧
      payload.pullRequestsCreated ≤ 1 ∧ (payload.outputReference.getD "").length ≤ 4000)
    (.http 422 "ActionConsumption")
  trustErrorResponse (consumeEffectiveAction runtime actionId payload user.email)

def consumeExternalAgentAction (runtime : Runtime) (agentId actionId : String) (payload : ActionConsumption) :
    StoreProcedure Unit := do
  demand (payload.actualRuntimeSeconds ≤ 3600 ∧ 0 ≤ payload.actualCostUsd ∧ payload.actualCostUsd ≤ 10 ∧
      payload.pullRequestsCreated ≤ 1 ∧ (payload.outputReference.getD "").length ≤ 4000)
    (.http 422 "ActionConsumption")
  let agent ← found ((← Procedure.state).externalAgents.get? agentId) (.http 401 "Invalid agent token")
  let action ← found ((← Procedure.state).proposedActions.get? actionId) (.http 404 "Proposed action not found")
  demand (action.agentId = some agent.id) (.http 403 "Agent does not own this action")
  assertAgentCan agent .executeGithub action.projectId action.repository
  trustErrorResponse (consumeEffectiveAction runtime actionId payload s!"agent:{agent.id}")

def createAttestation (runtime : Runtime) (approvalRequestId : String)
    (decision : ReviewerAttestationDecision) (reason : String) (user : AuthUser) : StoreProcedure Unit :=
  trustErrorResponse (recordReviewerAttestation runtime approvalRequestId decision reason user)

def createLease (runtime : Runtime) (payload : CapabilityLeaseCreate) (user : AuthUser) :
    StoreProcedure Unit := do
  match payload.scope.validate with
  | .error field => Procedure.raise (.http 422 field)
  | .ok scope => do
      demand (30 ≤ payload.expiresInSeconds ∧ payload.expiresInSeconds ≤ 3600 ∧
          1 ≤ payload.requiredReviewerCount ∧ payload.requiredReviewerCount ≤ 10)
        (.http 422 "CapabilityLeaseCreate")
      let _ ← trustErrorResponse (issueCapabilityLease runtime { payload with scope := scope } user)
      pure ()

def leaseOr404 (runtime : Runtime) (leaseId : String) : StoreProcedure CapabilityLease := do
  let lease ← found ((← Procedure.state).capabilityLeases.get? leaseId) (.http 404 "Capability lease not found")
  refreshLeaseStatus runtime lease

def revokeLease (runtime : Runtime) (leaseId reason : String) (user : AuthUser) : StoreProcedure Unit := do
  let lease ← leaseOr404 runtime leaseId
  trustErrorResponse (revokeCapabilityLease runtime lease user reason)

end ControlTower
