import ControlTower.Run.Supervisor
import ControlTower.Trust.Service

/-! Human decisions on exact actions, their effect on the run an action names,
and the consumption of allowed actions. -/

set_option autoImplicit false

namespace ControlTower

open Foundation
open Foundation.Procedure (demand found onlyIf)

def exactApprovalRecorded : String := "Exact trust action approval recorded."

/-- A step that waits for a human, and then a run that does, move on. -/
def allowDecided (runtime : Runtime) : StepProcedure Unit := do
  let state ← Procedure.state
  onlyIf (state.step.status = .needsHuman) (transitionStep runtime .ready exactApprovalRecorded)
  onlyIf (state.run.status = .needsHuman) (transitionRun runtime .scheduled exactApprovalRecorded)

def denyDecided (runtime : Runtime) (reason : String) : StepProcedure Unit := do
  let state ← Procedure.state
  onlyIf (state.step.status = .needsHuman) (transitionStep runtime .blocked reason)
  onlyIf (state.run.status = .needsHuman) (transitionRun runtime .blocked reason)

/-- The run and the step that the metadata of an action names, when the step
exists and belongs to the run. -/
def Store.namedByAction (runtime : Runtime) (store : Store) (actionId : String) : Option (String × String) :=
  (store.proposedActions.get? actionId).bind fun action =>
    if Text.present action.runId = true then
      (store.agentRuns.get? (action.runId.getD "")).bind fun durable =>
        (findStep durable.steps (metadataText runtime action.metadata "step_id")).map fun step =>
          (action.runId.getD "", step.id)
    else none

def applyDurableRunDecision (runtime : Runtime) (actionId : String)
    (decision : ActionAuthorizationDecision) (reason : String) : StoreProcedure Unit := do
  match (← Procedure.state).namedByAction runtime actionId with
  | none => pure ()
  | some (runId, stepId) =>
      onRun runId (atStep stepId (match decision with
        | .allow => allowDecided runtime
        | .block => denyDecided runtime reason))

def reviewerRoles : List UserRole := [.reviewer, .maintainer, .owner]

/-- The decision that a human verdict puts in force. -/
def effectiveVerdict (decision : ActionAuthorizationDecision) (riskLevel : RiskLevel) : Verdict :=
  match decision with
  | .allow =>
      { decision := .allow, riskLevel
        reasons := ["A human reviewer allowed this exact proposed action."]
        obligations := ["Execute only the immutable action payload and record consumption evidence."] }
  | .block =>
      { decision := .block, riskLevel
        reasons := ["A human reviewer denied this exact proposed action."]
        obligations := ["Do not execute; revise the action or capability lease."] }

/-- A human verdict on an action, signed over the payload of the action. -/
def signedAuthorization (runtime : Runtime) (id : String) (action : ProposedAction) (current : PolicyDecision)
    (decision : ActionAuthorizationDecision) (reason : String) (user : AuthUser) (now : Instant) :
    ActionAuthorization :=
  let unsigned : ActionAuthorization :=
    { id
      actionId := action.id
      actionPayloadHash := actionPayloadHash runtime action
      policyDecisionId := current.id
      reviewerUserId := user.id
      reviewerRole := user.role
      decision, reason
      signature := "pending"
      createdAt := now }
  { unsigned with signature := runtime.signPayload (authorizationSignaturePayload unsigned) }

/-- Store a first human verdict and the decision it puts in force. -/
def storeAuthorization (runtime : Runtime) (action : ProposedAction) (current : PolicyDecision)
    (decision : ActionAuthorizationDecision) (reason : String) (user : AuthUser) : StoreProcedure Unit := do
  let now ← readClock runtime
  let store ← Procedure.state
  let authorization := signedAuthorization runtime
    (runtime.newId "action_authorization" store.actionAuthorizations.keys) action current decision reason user now
  .modify fun store => { store with
    actionAuthorizations := store.actionAuthorizations.set authorization.id authorization }
  let effective ← storeDecision runtime action (effectiveVerdict decision current.riskLevel)
    (current.evaluatedPolicyVersion ++ "+human-decision")
  appendTrustEvent runtime effective.decision.eventType "proposed_action" action.id user.email
    action.correlationId
    (.object [("action_payload_hash", .text authorization.actionPayloadHash),
      ("authorization_id", .text authorization.id), ("decision", .text effective.decision.value),
      ("effective_policy_decision_id", .text effective.id),
      ("prior_policy_decision_id", .text current.id), ("reason", .text reason)])

/-- Apply a verdict that is already on record once more. -/
def repeatAuthorization (runtime : Runtime) (actionId : String) (action : ProposedAction)
    (existing : ActionAuthorization) : StoreProcedure Unit := do
  demand (verifyActionAuthorization runtime existing action = true)
    (.actionAuthorizationConflict
      "Stored action authorization no longer matches the immutable action payload.")
  applyDurableRunDecision runtime actionId existing.decision existing.reason
  persist

def recordActionAuthorization (runtime : Runtime) (actionId : String)
    (decision : ActionAuthorizationDecision) (reason : String) (user : AuthUser) : StoreProcedure Unit := do
  demand (user.role ∈ reviewerRoles)
    (.actionAuthorizationConflict "A reviewer role is required for action decisions.")
  let store ← Procedure.state
  let action ← found (store.proposedActions.get? actionId) (.valueError "Proposed action not found.")
  let current ← found (store.latestPolicyDecision actionId)
    (.actionAuthorizationConflict "Action has no policy decision.")
  demand (current.decision ≠ .block)
    (.actionAuthorizationConflict
      "A policy-blocked action cannot be overridden; revise scope and create a new action.")
  match store.authorizationOf actionId with
  | some existing => do
      if current.decision = .allow then repeatAuthorization runtime actionId action existing
      else do
        demand (existing.decision = decision ∧ existing.reason = reason)
          (.actionAuthorizationConflict "Action authorization is immutable once recorded.")
        repeatAuthorization runtime actionId action existing
  | none => do
      demand (current.decision ≠ .allow)
        (.actionAuthorizationConflict "Action is already allowed by policy.")
      storeAuthorization runtime action current decision reason user
      applyDurableRunDecision runtime actionId decision reason
      persist

def humanDecisionMark : String := "+human-decision"

def verifyHumanAllow (runtime : Runtime) (action : ProposedAction) : StoreProcedure Unit := do
  let authorization ← found ((← Procedure.state).authorizationOf action.id)
    (.trustControlConflict "Human-authorized ALLOW is missing its signed exact-action decision.")
  demand (authorization.decision = .allow)
    (.trustControlConflict "Human authorization does not allow this action.")
  demand (verifyActionAuthorization runtime authorization action = true)
    (.trustControlConflict "Human authorization signature or exact action payload hash is invalid.")

/-- Charge a consumption to a lease that can afford it. -/
def chargeLease (runtime : Runtime) (lease : CapabilityLease) (consumption : ActionConsumption) :
    StoreProcedure Unit := do
  let runtimeSeconds := lease.consumedRuntimeSeconds + consumption.actualRuntimeSeconds
  let cost := lease.consumedCostUsd + consumption.actualCostUsd
  let pullRequests := lease.consumedPullRequests + consumption.pullRequestsCreated
  let retries := lease.consumedRetries + (if consumption.retryConsumed then 1 else 0)
  demand (runtimeSeconds ≤ lease.scope.maxRuntimeSeconds)
    (.trustControlConflict "Actual runtime would exceed the capability budget.")
  demand (cost ≤ lease.scope.maxCostUsd)
    (.trustControlConflict "Actual cost would exceed the capability budget.")
  demand (pullRequests ≤ lease.scope.maxPullRequests)
    (.trustControlConflict "Actual pull-request count exceeds the capability budget.")
  demand (retries ≤ lease.scope.maxRetries)
    (.trustControlConflict "Actual retry count exceeds the capability budget.")
  let now ← readClock runtime
  changeLease lease.id fun lease =>
    { lease with
      consumedRuntimeSeconds := runtimeSeconds
      consumedCostUsd := cost
      consumedPullRequests := pullRequests
      consumedRetries := retries
      updatedAt := now }

def consumeEffectiveAction (runtime : Runtime) (actionId : String) (consumption : ActionConsumption)
    (actor : String) : StoreProcedure Unit := do
  let store ← Procedure.state
  let action ← found (store.proposedActions.get? actionId) (.valueError "Proposed action not found.")
  let decision ← found ((store.latestPolicyDecision action.id).filter (·.decision == .allow))
    (.trustControlConflict "Only an effective ALLOW decision can be consumed.")
  onlyIf (Text.contains decision.evaluatedPolicyVersion humanDecisionMark = true)
    (verifyHumanAllow runtime action)
  match store.actionConsumptions.get? action.id with
  | some existing =>
      demand (existing = consumption)
        (.trustControlConflict "Action consumption is immutable once recorded.")
  | none => do
      let lease ← found (store.capabilityLeases.get? (action.leaseId.getD ""))
        (.trustControlConflict "Allowed action is missing its capability lease.")
      let lease ← refreshLeaseStatus runtime lease
      demand (lease.status = .active)
        (.trustControlConflict "Capability lease is no longer active.")
      chargeLease runtime lease consumption
      .modify fun store => { store with
        actionConsumptions := store.actionConsumptions.set action.id consumption }
      appendTrustEvent runtime .actionConsumed "proposed_action" action.id actor action.correlationId
        (.object [("actual_cost_usd", usdDocument consumption.actualCostUsd),
          ("actual_runtime_seconds", .number consumption.actualRuntimeSeconds),
          ("effective_policy_decision_id", .text decision.id),
          ("evidence_hash", .text (runtime.sha256Hex consumption.evidence)),
          ("lease_id", .text lease.id), ("output_reference", .ofText consumption.outputReference),
          ("pull_requests_created", .number consumption.pullRequestsCreated),
          ("retry_consumed", .flag consumption.retryConsumed)])
      persist

end ControlTower
