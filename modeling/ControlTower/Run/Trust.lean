import ControlTower.Trust.Authorization

/-! Governed execution: the capability lease of a run, the actions derived for
its steps, their authorization before a side effect and their consumption after. -/

set_option autoImplicit false

namespace ControlTower

open Foundation
open Foundation.Procedure (demand found onlyIf)

/-- The step types with side effects. -/
def AgentRunStepType.hasSideEffect : AgentRunStepType → Bool
  | .createBranch | .applyChanges | .runValidation | .createPullRequest => true
  | .validateScope | .verifyResult | .sealEvidence => false

/-- The objections to a lease as the lease of a run, in order. -/
def leaseObjections (store : Store) (run : AgentRun) (lease : CapabilityLease) : List String :=
  let task := store.agentTasks.get? run.taskId
  let approval := store.approvalRequests.get? (run.approvalRequestId.getD "")
  reasonIf task.isNone "AgentTask is missing."
  ++ reasonIf approval.isNone "ApprovalRequest is missing."
  ++ reasonIf (lease.status != .active) s!"Capability lease is not active: {lease.status.value}."
  ++ reasonIf (some lease.approvalRequestId != run.approvalRequestId)
      "Capability lease approval does not match the run approval."
  ++ reasonIf (some lease.scope.repository != run.repository)
      "Capability lease repository does not match the run repository."
  ++ reasonIf (lease.scope.maxRetries + 1 < run.maxAttemptsPerStep)
      "Run attempt budget exceeds the capability lease retry budget."
  ++ reasonIf (task.any fun task => lease.provider != task.provider)
      "Capability lease provider does not match the AgentTask provider."
  ++ reasonIf (task.any fun task => Text.present lease.agentId && lease.agentId != task.externalAgentId)
      "Capability lease agent identity does not match the AgentTask agent."
  ++ reasonIf (task.any fun task => some lease.scope.branch != task.branchPreference)
      "Capability lease branch does not match the AgentTask branch."
  ++ reasonIf (approval.any fun approval => some lease.approvedPayloadHash != approval.approvedPayloadHash)
      "Capability lease is not bound to the current approved payload hash."

def validateLeaseForRun (runtime : Runtime) (run : AgentRun) (lease : CapabilityLease) :
    StoreProcedure CapabilityLease := do
  let lease ← refreshLeaseStatus runtime lease
  let reasons := leaseObjections (← Procedure.state) run lease
  demand (reasons = []) (.agentRunTrustConflict (Text.join " " reasons))
  return lease

def attachCapabilityLease (runtime : Runtime) (runId leaseId : String) : StoreProcedure Unit := do
  let durable ← runOr404 runId
  let run := durable.run
  if Text.present run.capabilityLeaseId = true then
    demand (run.capabilityLeaseId = some leaseId)
      (.agentRunTrustConflict "A durable run cannot be rebound to a different capability lease.")
  else do
    demand (run.status.isTerminal = false ∧ run.status ≠ .evaluating)
      (.agentRunTrustConflict s!"Capability lease cannot be attached while run is {run.status.value}.")
    demand (Text.present run.leaseOwner = false ∧ Text.present run.leaseToken = false)
      (.agentRunTrustConflict "Capability lease cannot change while a worker lease is active.")
    demand ((durable.currentStep.any (·.status == .running)) = false)
      (.agentRunTrustConflict "Capability lease cannot change while a step is running.")
    demand ((durable.steps.any fun step => step.stepType.hasSideEffect && decide (0 < step.attemptCount)) = false)
      (.agentRunTrustConflict "Capability lease must be attached before the first side-effect attempt.")
    let lease ← found ((← Procedure.state).capabilityLeases.get? leaseId)
      (.valueError "Capability lease not found.")
    let lease ← validateLeaseForRun runtime run lease
    let now ← readClock runtime
    onRun runId (RunScope.modifyRun fun run =>
      { run with capabilityLeaseId := some lease.id, updatedAt := now })
    persist

def actionId (runtime : Runtime) (run : AgentRun) (step : AgentRunStep) (suffix : String) : String :=
  "trust_action_" ++ Text.take 32 (runtime.sha256Hex (.object [
    ("capability_lease_id", .ofText run.capabilityLeaseId),
    ("next_attempt", .number (step.attemptCount + 1)),
    ("run_id", .text run.id),
    ("step_id", .text step.id),
    ("suffix", .text suffix)]))

/-- The fields that all actions of a step share. -/
def commonAction (run : AgentRun) (step : AgentRunStep) (task : AgentTask) (timeoutSeconds : Nat)
    (actionType : CapabilityActionType) (id : String) : ProposedAction :=
  { id
    leaseId := run.capabilityLeaseId
    provider := task.provider
    agentId := task.externalAgentId
    runId := some run.id
    taskId := some task.id
    projectId := task.projectId
    actionType
    repository := task.repository
    branch := task.branchPreference
    paths := []
    command := none
    networkDomains := []
    estimatedRuntimeSeconds := timeoutSeconds
    estimatedCostUsd := 0
    retryNumber := step.attemptCount
    metadata := [("idempotency_key", .text step.idempotencyKey), ("step_id", .text step.id),
      ("step_type", .text step.stepType.value)]
    createdAt := step.createdAt }

/-- The actions of a step's next attempt, as data. -/
def derivedActions (runtime : Runtime) (run : AgentRun) (step : AgentRunStep) (task : AgentTask)
    (approval : ApprovalRequest) (timeoutSeconds : Nat) : List ProposedAction :=
  let common := fun actionType suffix =>
    commonAction run step task timeoutSeconds actionType (actionId runtime run step suffix)
  match step.stepType with
  | .createBranch => [common .createBranch "branch"]
  | .applyChanges => [{ common .modifyFiles "files" with paths := approval.files.map (·.path) }]
  | .runValidation => approval.testPlan.mapIdx fun index command =>
      { common .runCommand s!"command:{index}" with command := some command }
  | .createPullRequest => [common .createPullRequest "pull-request"]
  | .validateScope | .verifyResult | .sealEvidence => []

def stepActions (runtime : Runtime) (run : AgentRun) (step : AgentRunStep) (timeoutSeconds : Nat) :
    StoreProcedure (List ProposedAction) := do
  let store ← Procedure.state
  let conflict := Raised.agentRunTrustConflict "Run trust evaluation requires task and approval truth."
  let task ← found (store.agentTasks.get? run.taskId) conflict
  let approval ← found (store.approvalRequests.get? (run.approvalRequestId.getD "")) conflict
  let actions := derivedActions runtime run step task approval timeoutSeconds
  demand (∀ action ∈ actions, action.WithinLimits) (.validationError "ProposedAction")
  return actions

def preflightAggregateBudget (lease : CapabilityLease) (actions : List ProposedAction) :
    StoreProcedure Unit := do
  let projectedRuntime := lease.consumedRuntimeSeconds + (actions.map (·.estimatedRuntimeSeconds)).sum
  let projectedCost := lease.consumedCostUsd + (actions.map (·.estimatedCostUsd)).sum
  let projectedPrs := lease.consumedPullRequests + actions.countP (·.actionType == .createPullRequest)
  demand (projectedRuntime ≤ lease.scope.maxRuntimeSeconds)
    (.agentRunTrustConflict
      "Trust preflight blocked execution because aggregate runtime exceeds the lease.")
  demand (projectedCost ≤ lease.scope.maxCostUsd)
    (.agentRunTrustConflict "Trust preflight blocked execution because aggregate cost exceeds the lease.")
  demand (projectedPrs ≤ lease.scope.maxPullRequests)
    (.agentRunTrustConflict "Trust preflight blocked execution because the PR budget is exhausted.")

/-- Put step and run where a human has to decide, or block them, or release
them after the exact approvals. -/
def markNeedsHuman (runtime : Runtime) (reason : String) : StepProcedure Unit :=
  transitionBoth runtime .needsHuman reason .needsHuman reason

def markBlocked (runtime : Runtime) (reason : String) : StepProcedure Unit :=
  transitionBoth runtime .blocked reason .blocked reason

def clearNeedsHuman (runtime : Runtime) : StepProcedure Unit := allowDecided runtime

/-- Mark the step and raise the conflict that names the reason. -/
def refuseStep {α : Type} (runId stepId : String) (mark : StepProcedure Unit) (reason : String) :
    StoreProcedure α := do
  onRun runId (atStep stepId mark)
  persist
  Procedure.raise (.agentRunTrustConflict reason)

/-- The decision in force for a derived action: a fresh evaluation, or the
latest decision on the stored action of the same identifier. -/
def decideDerivedAction (runtime : Runtime) (runId stepId : String) (action : ProposedAction)
    (actor : String) : StoreProcedure PolicyDecision := do
  let store ← Procedure.state
  match store.proposedActions.get? action.id with
  | none => evaluateGatewayAction runtime action actor
  | some existing =>
      if existing.fields ≠ action.fields then
        let reason := "Deterministic trust action identifier resolved to a different payload."
        refuseStep runId stepId (markBlocked runtime reason) reason
      else match store.latestPolicyDecision action.id with
        | none =>
            let reason := "Existing trust action has no policy decision."
            refuseStep runId stepId (markBlocked runtime reason) reason
        | some decision => pure decision

def approvalNeeded : String := "Exact action approval is required before execution: "

def authorizeAction (runtime : Runtime) (runId stepId actor : String) (action : ProposedAction) :
    StoreProcedure Unit := do
  let decision ← decideDerivedAction runtime runId stepId action actor
  match decision.decision with
  | .allow => pure ()
  | .block =>
      let reason := "Trust policy blocked execution: " ++ Text.join " " decision.reasons
      refuseStep runId stepId (markBlocked runtime reason) reason
  | .requireApproval =>
      let reason := approvalNeeded ++ action.id
      refuseStep runId stepId (markNeedsHuman runtime reason) reason

/-- Block the step when a check of the lease objects. -/
def blockOnConflict {α : Type} (runtime : Runtime) (runId stepId : String) (check : StoreProcedure α) :
    StoreProcedure α :=
  check.rescue fun error => match error with
    | .agentRunTrustConflict message => refuseStep runId stepId (markBlocked runtime message) message
    | other => Procedure.raise other

def authorizeRunStep (runtime : Runtime) (runId stepId actor : String) (timeoutSeconds : Nat) :
    StoreProcedure (List ProposedAction) := do
  let durable ← runOr404 runId
  let step ← found (findStep durable.steps stepId) (.valueError "Agent run step not found.")
  if runtime.trustEnforcement = false ∨ step.stepType.hasSideEffect = false then return []
  else do
    demand (Text.present durable.run.capabilityLeaseId = true)
      (.agentRunTrustConflict
        "Production trust enforcement requires a signed capability lease before side effects.")
    let lease ← found ((← Procedure.state).capabilityLeases.get? (durable.run.capabilityLeaseId.getD ""))
      (.agentRunTrustConflict "Run capability lease cannot be found.")
    let lease ← blockOnConflict runtime runId stepId (validateLeaseForRun runtime durable.run lease)
    let actions ← stepActions runtime durable.run step timeoutSeconds
    blockOnConflict runtime runId stepId (preflightAggregateBudget lease actions)
    Procedure.each (authorizeAction runtime runId stepId actor) actions
    onRun runId (atStep stepId (clearNeedsHuman runtime))
    persist
    return actions

/-- The consumption of the action at a position, out of `count` actions of a step
that ran for some seconds. -/
def actionConsumption (step : AgentRunStep) (durationSeconds count index : Nat) : ActionConsumption :=
  let perActionRuntime := durationSeconds / count
  let remainder := durationSeconds - perActionRuntime * count
  { actualRuntimeSeconds := perActionRuntime + (if index < remainder then 1 else 0)
    actualCostUsd := 0
    pullRequestsCreated := if step.stepType = .createPullRequest then 1 else 0
    retryConsumed := decide (1 < step.attemptCount) && index == 0
    outputReference := step.outputReference
    evidence := .object [
      ("attempt_count", .number step.attemptCount),
      ("run_id", .text step.runId),
      ("step_evidence_hash", .ofText step.evidenceHash),
      ("step_id", .text step.id),
      ("step_type", .text step.stepType.value)] }

def ActionConsumption.WithinLimits (consumption : ActionConsumption) : Prop :=
  consumption.actualRuntimeSeconds ≤ 3600 ∧ (consumption.outputReference.getD "").length ≤ 4000

instance (consumption : ActionConsumption) : Decidable consumption.WithinLimits := by
  unfold ActionConsumption.WithinLimits
  infer_instance

def consumeRunStepActions (runtime : Runtime) (runId stepId actor : String) (actions : List ProposedAction) :
    StoreProcedure Unit := do
  let durable ← runOr404 runId
  let step ← found (findStep durable.steps stepId) (.valueError "Agent run step not found.")
  if actions = [] ∨ step.status ≠ .succeeded then pure ()
  else
    let durationSeconds := step.durationMs.getD 0 / 1000
    Procedure.each (fun indexed : ProposedAction × Nat => do
      let consumption := actionConsumption step durationSeconds actions.length indexed.2
      demand consumption.WithinLimits (.validationError "ActionConsumption")
      consumeEffectiveAction runtime indexed.1.id consumption actor) actions.zipIdx

/-- The strict lease request derived from the sealed approval of a run. -/
def derivedLeaseRequest (task : AgentTask) (approval : ApprovalRequest) (scope : CapabilityScope) :
    CapabilityLeaseCreate :=
  { approvalRequestId := approval.id
    agentId := task.externalAgentId
    provider := task.provider
    mode := .strict
    scope
    expiresInSeconds := 3600
    requiredReviewerCount := 1
    preventSelfApproval := true }

def derivedScope (run : AgentRun) (task : AgentTask) (approval : ApprovalRequest) : CapabilityScope :=
  { repository := task.repository.getD ""
    branch := task.branchPreference.getD ""
    allowedActions := [.createBranch, .modifyFiles, .runCommand, .createPullRequest]
    allowedPathPrefixes := approval.files.map (·.path)
    allowedCommands := approval.testPlan
    allowedNetworkDomains := []
    maxRuntimeSeconds := 3600
    maxCostUsd := 10
    maxRetries := min 3 (run.maxAttemptsPerStep - 1)
    maxPullRequests := 1
    allowAutoMerge := false
    metadata := [("correlation_id", .text run.correlationId), ("derived_from", .text "sealed_approval"),
      ("run_id", .text run.id), ("task_id", .text task.id)] }

def ensureRunCapability (runtime : Runtime) (runId : String) (user : AuthUser) : StoreProcedure Unit :=
  if runtime.trustEnforcement = false then pure ()
  else do
    let run := (← runOr404 runId).run
    let store ← Procedure.state
    if Text.present run.capabilityLeaseId = true then
      demand ((store.capabilityLeases.get? (run.capabilityLeaseId.getD "")).isSome = true)
        (.runCapabilityConflict "Run references a missing capability lease.")
    else do
      let task ← found (store.agentTasks.get? run.taskId)
        (.runCapabilityConflict "Run cannot receive a capability without its AgentTask.")
      let approval ← found (store.approvalRequests.get? (run.approvalRequestId.getD ""))
        (.runCapabilityConflict "Run cannot receive a capability without its approval.")
      demand (Text.present approval.approvedPayloadHash = true)
        (.runCapabilityConflict "Run cannot receive a capability until the approved payload is sealed.")
      demand (Text.present task.repository = true ∧ Text.present task.branchPreference = true)
        (.runCapabilityConflict "Run capability requires an approved repository and feature branch.")
      match (derivedScope run task approval).validate with
      | .error field => Procedure.raise (.validationError field)
      | .ok scope =>
          let grant : StoreProcedure Unit := do
            let lease ← issueCapabilityLease runtime (derivedLeaseRequest task approval scope) user
            attachCapabilityLease runtime runId lease.id
          grant.rescue fun error => match error with
            | .trustControlConflict message => Procedure.raise (.runCapabilityConflict message)
            | other =>
                if other.isValueError then Procedure.raise (.runCapabilityConflict other.message)
                else Procedure.raise other

end ControlTower
