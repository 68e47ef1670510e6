import ControlTower.Foundation.Machine
import ControlTower.Run.Routes

/-! The run service as a machine. A request carries what its caller sent and
what its executor answered, so a finite list of requests determines a run of
the service from its initial store. -/

set_option autoImplicit false

namespace ControlTower

open Foundation

/-- New contents for the records that other parts of the API own. -/
structure OutsideChange where
  agentTasks : Table String AgentTask
  agentTaskRows : Table String AgentTask
  agentTaskEvents : Table String AgentTaskEvent
  approvalRequests : Table String ApprovalRequest
  externalAgents : Table String ExternalAgent
  projects : List String
  workOrders : List String

inductive RunRequest where
  | createRun (payload : AgentRunCreate)
  | bindCapabilityLease (runId leaseId : String)
  | executeNext (runId : String) (payload : AgentRunExecuteRequest) (outcome : ExecutorOutcome)
      (user : AuthUser)
  | heartbeat (runId : String) (payload : AgentRunHeartbeatRequest)
  | pause (runId reason : String)
  | resume (runId reason : String)
  | cancel (runId reason : String)
  | retry (runId : String) (stepId : Option String) (reason : String)
  | recoverStale
  /-- `authorize_run_step` on the current step, without an execution after it. -/
  | authorize (runId actor : String) (timeoutSeconds : Nat)
  | evaluateExternal (agentId : String) (action : ProposedAction)
  | evaluateManual (action : ProposedAction) (user : AuthUser)
  | decide (actionId : String) (payload : ActionAuthorizationCreate) (user : AuthUser)
  | consumeExternal (agentId actionId : String) (payload : ActionConsumption)
  | consumeManual (actionId : String) (payload : ActionConsumption) (user : AuthUser)
  | attest (approvalRequestId : String) (decision : ReviewerAttestationDecision) (reason : String)
      (user : AuthUser)
  | issueLease (payload : CapabilityLeaseCreate) (user : AuthUser)
  | viewLease (leaseId : String)
  | revokeLease (leaseId reason : String) (user : AuthUser)
  /-- Tasks, approvals and agents change elsewhere, in any way. -/
  | outside (change : OutsideChange)

def applyOutside (change : OutsideChange) (store : Store) : Store :=
  { store with
    agentTasks := change.agentTasks
    agentTaskRows := change.agentTaskRows
    agentTaskEvents := change.agentTaskEvents
    approvalRequests := change.approvalRequests
    externalAgents := change.externalAgents
    projects := change.projects
    workOrders := change.workOrders }

def perform (runtime : Runtime) : RunRequest → StoreProcedure Unit
  | .createRun payload => createRun runtime payload
  | .bindCapabilityLease runId leaseId => bindRunCapabilityLease runtime runId leaseId
  | .executeNext runId payload outcome user => executeRunNextStep runtime runId payload outcome user
  | .heartbeat runId payload => heartbeatAgentRun runtime runId payload
  | .pause runId reason => pauseRun runtime runId reason
  | .resume runId reason => resumeRun runtime runId reason
  | .cancel runId reason => cancelRun runtime runId reason
  | .retry runId stepId reason => retryRun runtime runId stepId reason
  | .recoverStale => recoverStaleLeases runtime
  | .authorize runId actor timeoutSeconds => authorizeCurrentStep runtime runId actor timeoutSeconds
  | .evaluateExternal agentId action => evaluateExternalAgentAction runtime agentId action
  | .evaluateManual action user => evaluateManualAction runtime action user
  | .decide actionId payload user => decideExactAction runtime actionId payload user
  | .consumeExternal agentId actionId payload => consumeExternalAgentAction runtime agentId actionId payload
  | .consumeManual actionId payload user => consumeManualAction runtime actionId payload user
  | .attest approvalRequestId decision reason user =>
      createAttestation runtime approvalRequestId decision reason user
  | .issueLease payload user => createLease runtime payload user
  | .viewLease leaseId => do
      let _ ← leaseOr404 runtime leaseId
      pure ()
  | .revokeLease leaseId reason user => revokeLease runtime leaseId reason user
  | .outside change => .modify (applyOutside change)

/-- A store before any run, lease or action exists. -/
structure Store.Fresh (store : Store) : Prop where
  agentRuns : store.agentRuns = .empty
  capabilityLeases : store.capabilityLeases = .empty
  proposedActions : store.proposedActions = .empty
  policyDecisions : store.policyDecisions = .empty
  actionAuthorizations : store.actionAuthorizations = .empty
  actionConsumptions : store.actionConsumptions = .empty

def runMachine (runtime : Runtime) : Machine Store RunRequest where
  initial := Store.Fresh
  next store request := ((perform runtime request).run store).2

section Sample

/-- A store with one approved task and its sealed approval. -/
def approvedStore (runtime : Runtime) : Store :=
  let approval : ApprovalRequest :=
    { id := "approval_1"
      projectId := "project_1"
      workOrderId := none
      title := "Change the greeting"
      summary := "Change one file"
      agentName := "agent"
      targetBranch := "feature/greeting"
      files := [⟨"app/greeting.py", "modify", "+hello", some "hello"⟩]
      testPlan := ["pytest"]
      rollbackPlan := "revert"
      status := .approved
      risk := ⟨.low, [], false, []⟩
      sourceProvider := .codex
      sourceAgentId := none
      sourceAgentName := none
      sourceSessionId := none
      sourceTaskUrl := none
      createdByUserId := some "author"
      approvedPayloadHash := none
      approvedAt := some 0
      approvedByUserId := some "reviewer"
      createdAt := 0
      updatedAt := 0 }
  let sealed := { approval with approvedPayloadHash := some (computeApprovalPayloadHash runtime approval) }
  let task : AgentTask :=
    { id := "task_1"
      provider := .codex
      projectId := some "project_1"
      title := "Change the greeting"
      goal := "A new greeting"
      sourceUrl := none
      sourceSessionId := none
      sourceTaskId := none
      repository := some "owner/repository"
      branchPreference := some "feature/greeting"
      status := .approved
      externalAgentId := none
      externalAgentName := none
      approvalRequestId := some "approval_1"
      workerLeaseOwner := none
      workerLeaseExpiresAt := none
      workerLeaseToken := none
      createdAt := 0
      updatedAt := 0 }
  { ticks := 0
    projects := ["project_1"]
    workOrders := []
    externalAgents := .empty
    agentTasks := Table.empty.set "task_1" task
    agentTaskEvents := .empty
    approvalRequests := Table.empty.set "approval_1" sealed
    agentRuns := .empty
    capabilityLeases := .empty
    reviewerAttestations := .empty
    proposedActions := .empty
    policyDecisions := .empty
    actionAuthorizations := .empty
    actionConsumptions := .empty
    trustEvents := .empty
    agentTaskRows := Table.empty.set "task_1" task }

theorem approvedStore_fresh (runtime : Runtime) : (approvedStore runtime).Fresh :=
  ⟨rfl, rfl, rfl, rfl, rfl, rfl⟩

/-- The approved store after some requests. -/
def storeAfter (runtime : Runtime) (requests : List RunRequest) : Store :=
  (runMachine runtime).runAll (approvedStore runtime) requests

theorem storeAfter_reachable (runtime : Runtime) (requests : List RunRequest) :
    (runMachine runtime).Reachable Machine.anything (storeAfter runtime requests) :=
  ⟨approvedStore runtime, approvedStore_fresh runtime, Machine.follows_anything _ _⟩

/-- A request for a capability lease on the approved task. -/
def leaseRequest (mode : CapabilityLeaseMode) : CapabilityLeaseCreate where
  approvalRequestId := "approval_1"
  agentId := none
  provider := .codex
  mode := mode
  scope :=
    { repository := "owner/repository"
      branch := "feature/greeting"
      allowedActions := [.createBranch, .modifyFiles, .runCommand, .createPullRequest]
      allowedPathPrefixes := ["app/greeting.py"]
      allowedCommands := ["pytest"]
      allowedNetworkDomains := []
      maxRuntimeSeconds := 900
      maxCostUsd := 5
      maxRetries := 3
      maxPullRequests := 1
      allowAutoMerge := false
      metadata := [] }
  expiresInSeconds := 900
  requiredReviewerCount := 1
  preventSelfApproval := true

def sampleOwner : AuthUser := ⟨"owner", "owner@example.com", .owner⟩

end Sample

end ControlTower
