import ControlTower.Mcp.Registry

/-! The approval gate in front of the child servers. A call that may change
something waits for an approval; `resolve` acquires a lease on the waiting
request, lets the child server answer, and records the answer. -/

set_option autoImplicit false

namespace ControlTower

open Foundation
open Foundation.Procedure (demand found onlyIf)

def mcpMutatingToolNames : List String := ["write_file", "edit_file", "apply_patch", "github_create_pr"]

def mcpLeaseSeconds : Nat := 30

def MCPGatewayToolCall.isMutating (call : MCPGatewayToolCall) : Bool :=
  match call.mutating with
  | some flag => flag
  | none => mcpMutatingToolNames.contains call.toolName

/-- The gateway of a known project; it is made at its first use. -/
def gatewayForProject (projectId : String) : McpProcedure Unit := do
  let store ← Procedure.state
  demand (projectId ∈ store.projects) (.http 404 "Project not found")
  onlyIf (store.gateways.get? projectId = none)
    (.modify fun store => { store with gateways := store.gateways.set projectId .empty })

/-- The calls that the gateway of a project keeps in memory. -/
def McpStore.pendingCalls (store : McpStore) (projectId : String) : Table String MCPGatewayToolCall :=
  (store.gateways.get? projectId).getD .empty

def setPendingCalls (projectId : String) (calls : Table String MCPGatewayToolCall) : McpProcedure Unit :=
  .modify fun store => { store with gateways := store.gateways.set projectId calls }

def changePending (pendingId : String) (change : MCPPendingRequest → MCPPendingRequest) : McpProcedure Unit :=
  .modify fun store => { store with mcpPendingRequests := store.mcpPendingRequests.adjust pendingId change }

namespace MCPPendingRequest

variable (pending : MCPPendingRequest) (updatedAt : Instant)

/-- A new status; a final one gives up the lease. -/
def marked (status : MCPPendingStatus) : MCPPendingRequest :=
  { pending with
    status
    leaseOwner := if status ∈ finalPendingStatuses then none else pending.leaseOwner
    leaseExpiresAt := if status ∈ finalPendingStatuses then none else pending.leaseExpiresAt
    updatedAt }

/-- Back to waiting, without a lease. -/
def released : MCPPendingRequest :=
  { pending with status := .waitingForApproval, leaseOwner := none, leaseExpiresAt := none, updatedAt }

def leased (now : Instant) : MCPPendingRequest :=
  { pending with
    status := .forwarding
    attempts := pending.attempts + 1
    leaseOwner := some "mcp-gateway-resolver"
    leaseExpiresAt := some (now.plusSeconds mcpLeaseSeconds)
    updatedAt }

/-- After a failed call: retained for another one, or given up. -/
def failed (error : String) : MCPPendingRequest :=
  { pending with
    lastError := some error
    leaseOwner := none
    leaseExpiresAt := none
    status := if pending.maxAttempts ≤ pending.attempts then .deadLetter else .waitingForApproval
    updatedAt }

def retried (resetAttempts : Bool) : MCPPendingRequest :=
  { pending with
    status := .waitingForApproval
    attempts := if resetAttempts then 0 else pending.attempts
    leaseOwner := none
    leaseExpiresAt := none
    lastError := none
    updatedAt }

end MCPPendingRequest

/-- The identifiers that approvals have or had. -/
def McpStore.approvalIds (store : McpStore) : List String :=
  store.approvalRequests.keys ++ store.mcpPendingRequests.values.map (·.approvalRequestId)

def newMcpApproval (runtime : Runtime) (store : McpStore) (projectId : String) (call : MCPGatewayToolCall)
    (createdAt updatedAt : Instant) : ApprovalRequest where
  id := runtime.newId "approval" store.approvalIds
  projectId := projectId
  workOrderId := none
  title := "Approve MCP tool call: " ++ call.toolName
  summary := "Gateway intercepted mutating MCP call for " ++ call.serverName ++ "." ++ call.toolName
  agentName := "mcp-gateway"
  targetBranch := "mcp-gateway/" ++ call.toolName
  files := [{
    path := "mcp://" ++ call.serverName ++ "/" ++ call.toolName
    changeType := "mcp_tool_call"
    diff := "MCP mutating tool call requires approval: " ++ runtime.render call.document
    newContent := some (runtime.render call.document) }]
  testPlan := ["MCP gateway must forward only after approval."]
  rollbackPlan := "Deny or expire the approval; the child MCP server receives nothing."
  status := .requested
  risk := ⟨.high, ["Mutating MCP tool call intercepted by gateway."], false, []⟩
  sourceProvider := .other
  sourceAgentId := none
  sourceAgentName := some "mcp-gateway"
  sourceSessionId := call.sessionId
  sourceTaskUrl := none
  createdByUserId := none
  approvedPayloadHash := none
  approvedAt := none
  approvedByUserId := none
  createdAt := createdAt
  updatedAt := updatedAt

def newMcpPending (runtime : Runtime) (store : McpStore) (projectId approvalRequestId : String)
    (call : MCPGatewayToolCall) (createdAt updatedAt : Instant) : MCPPendingRequest where
  id := runtime.newId "mcp_pending" store.mcpPendingRequests.keys
  projectId := projectId
  approvalRequestId := approvalRequestId
  serverName := call.serverName
  toolName := call.toolName
  arguments := call.arguments
  sessionId := call.sessionId
  requestedBy := call.requestedBy
  status := .waitingForApproval
  attempts := 0
  maxAttempts := 3
  leaseOwner := none
  leaseExpiresAt := none
  lastError := none
  createdAt := createdAt
  updatedAt := updatedAt

/-- `_create_approval_request`. -/
def createMcpApproval (runtime : Runtime) (projectId : String) (call : MCPGatewayToolCall) :
    McpProcedure ApprovalRequest := do
  let approvalCreatedAt ← readClock runtime
  let approvalUpdatedAt ← readClock runtime
  let createdAt ← readClock runtime
  let updatedAt ← readClock runtime
  let store ← Procedure.state
  let approval := newMcpApproval runtime store projectId call approvalCreatedAt approvalUpdatedAt
  let pending := newMcpPending runtime store projectId approval.id call createdAt updatedAt
  .modify fun store => { store with
    approvalRequests := store.approvalRequests.set approval.id approval
    mcpPendingRequests := store.mcpPendingRequests.set pending.id pending }
  return approval

/-- What becomes of a submitted call: it goes to the child server at once, or it is held. -/
inductive SubmitOutcome where
  | forward (call : MCPGatewayToolCall)
  | held (approvalRequestId : String) (call : MCPGatewayToolCall) (decision : MCPGatewayDecision)

def submitToolCall (runtime : Runtime) (projectId : String) (call : MCPGatewayToolCall) :
    McpProcedure SubmitOutcome :=
  if call.isMutating = false then pure (.forward call)
  else do
    let approval ← createMcpApproval runtime projectId call
    let store ← Procedure.state
    setPendingCalls projectId ((store.pendingCalls projectId).set approval.id call)
    return .held approval.id call
      { forwarded := false
        approvalRequired := true
        approvalRequestId := some approval.id
        status := some approval.status
        result := none
        reason := "Mutating MCP tool call is waiting for mobile approval." }

/-- `POST /mcp-gateway/requests`. -/
def submitGatewayRequest (runtime : Runtime) (projectId : String) (call : MCPGatewayToolCall) :
    McpProcedure SubmitOutcome := do
  gatewayForProject projectId
  submitToolCall runtime projectId call

/-- `tools/call` of `POST /mcp/{project_id}/jsonrpc`. -/
def handleToolsCall (runtime : Runtime) (projectId : String) (params : List (String × Document)) :
    McpProcedure SubmitOutcome := do
  let store ← Procedure.state
  demand (projectId ∈ store.projects) (.http 404 "Project not found")
  match toolCallFromParams runtime store projectId params with
  | .error message => .raise (.valueError message)
  | .ok call => submitGatewayRequest runtime projectId call

def markPendingStatus (runtime : Runtime) (approvalRequestId : String) (status : MCPPendingStatus) :
    McpProcedure Unit := do
  match (← Procedure.state).pendingForApproval approvalRequestId with
  | none => pure ()
  | some pending =>
      onlyIf (pending.status ∉ finalPendingStatuses) do
        let updatedAt ← readClock runtime
        changePending pending.id fun pending => pending.marked updatedAt status

/-- Whether a lease with this expiry is still good; without an expiry the clock is not read. -/
def leaseStillGood (runtime : Runtime) (leaseExpiresAt : Option Instant) : McpProcedure Bool :=
  match leaseExpiresAt with
  | none => pure false
  | some expiresAt => do
      let now ← readClock runtime
      return decide (now < expiresAt)

def acquirePendingLease (runtime : Runtime) (pending : MCPPendingRequest) : McpProcedure Bool := do
  let leased ←
    if pending.status = .forwarding then leaseStillGood runtime pending.leaseExpiresAt else pure false
  if leased = true then return false
  else if pending.status ≠ .waitingForApproval ∧ pending.status ≠ .forwarding then return false
  else do
    let now ← readClock runtime
    let updatedAt ← readClock runtime
    changePending pending.id fun pending => pending.leased updatedAt now
    return true

/-- What the checks of `resolve` come to: an answer, or a call to the child server. -/
inductive ResolveOutcome where
  | decided (decision : MCPGatewayDecision)
  | forward (approval : ApprovalRequest) (call : MCPGatewayToolCall)

/-- The answer of `resolve` when nothing was forwarded. -/
def withheldDecision (approvalRequestId : Option String) (approval : Option ApprovalRequest) (reason : String) :
    ResolveOutcome :=
  .decided
    { forwarded := false
      approvalRequired := true
      approvalRequestId
      status := approval.map (·.status)
      result := none
      reason }

def leasedReason (pending : MCPPendingRequest) : String :=
  "MCP pending request is already leased by " ++ pending.leaseOwner.getD "None" ++ "."

/-- Take the call of an approval out of the memory of its gateway, or rebuild it
from the pending request while that one waits. -/
def takePendingCall (projectId approvalRequestId : String) : McpProcedure (Option MCPGatewayToolCall) := do
  let store ← Procedure.state
  let calls := store.pendingCalls projectId
  setPendingCalls projectId (calls.keep (· != approvalRequestId))
  match calls.get? approvalRequestId with
  | some call => return some call
  | none =>
      return ((store.pendingForApproval approvalRequestId).filter (·.status == .waitingForApproval)).map fun pending =>
        { serverName := pending.serverName
          toolName := pending.toolName
          arguments := pending.arguments
          sessionId := pending.sessionId
          requestedBy := pending.requestedBy
          mutating := some true }

/-- Release the lease of a request that is no longer forwarded, unless the lease
is still good; the result tells whether it is. -/
def releaseExpiredLease (runtime : Runtime) (pending : MCPPendingRequest) : McpProcedure Bool :=
  if pending.status = .forwarding then do
    let leased ← leaseStillGood runtime pending.leaseExpiresAt
    onlyIf (leased = false) do
      let updatedAt ← readClock runtime
      changePending pending.id fun pending => pending.released updatedAt
    return leased
  else pure false

/-- The lease on the pending request of a call, when there is one. -/
def acquireLeaseOf (runtime : Runtime) (approvalRequestId : String) : McpProcedure (Option MCPPendingRequest) := do
  match (← Procedure.state).pendingForApproval approvalRequestId with
  | none => return none
  | some pending => do
      let acquired ← acquirePendingLease runtime pending
      return if acquired = true then none else some pending

/-- The checks of `resolve` on an approved request, up to the call of the child server. -/
def forwardApproved (runtime : Runtime) (projectId : String) (approval : ApprovalRequest) :
    McpProcedure ResolveOutcome := do
  match ← takePendingCall projectId approval.id with
  | none => do
      markPendingStatus runtime approval.id .orphaned
      return withheldDecision (some approval.id) (some approval) "No pending MCP tool call is linked to this approval."
  | some call => do
      match ← acquireLeaseOf runtime approval.id with
      | some pending => return withheldDecision (some approval.id) (some approval) (leasedReason pending)
      | none => return .forward approval call

/-- The checks of `resolve` on a request that is neither final nor leased. -/
def resolveUnleased (runtime : Runtime) (projectId approvalRequestId : String) : McpProcedure ResolveOutcome := do
  match (← Procedure.state).approvalRequests.get? approvalRequestId with
  | none => do
      markPendingStatus runtime approvalRequestId .orphaned
      return withheldDecision none none "Approval request no longer exists; request was not forwarded."
  | some approval =>
      if approval.status ≠ .approved then do
        markPendingStatus runtime approval.id .blockedByDecision
        return withheldDecision (some approval.id) (some approval)
          ("Approval status is " ++ approval.status.value ++ "; request was not forwarded.")
      else if Text.present approval.approvedPayloadHash = false then
        return withheldDecision (some approval.id) (some approval)
          "Approved payload hash is missing; request was not forwarded."
      else if some (computeApprovalPayloadHash runtime approval) ≠ approval.approvedPayloadHash then
        return withheldDecision (some approval.id) (some approval)
          "Approval payload changed after approval; request was not forwarded."
      else forwardApproved runtime projectId approval

/-- `resolve_after_side_channel_decision` up to the call of the child server. -/
def resolveAfterSideChannelDecision (runtime : Runtime) (projectId approvalRequestId : String) :
    McpProcedure ResolveOutcome := do
  let store ← Procedure.state
  let approval := store.approvalRequests.get? approvalRequestId
  match store.pendingForApproval approvalRequestId with
  | none => resolveUnleased runtime projectId approvalRequestId
  | some pending =>
      if pending.status ∈ finalPendingStatuses then do
        setPendingCalls projectId ((store.pendingCalls projectId).keep (· != approvalRequestId))
        return withheldDecision (some approvalRequestId) approval
          ("MCP pending request is already final: " ++ pending.status.value ++ ".")
      else do
        let leased ← releaseExpiredLease runtime pending
        if leased = true then return withheldDecision (some approvalRequestId) approval (leasedReason pending)
        else resolveUnleased runtime projectId approvalRequestId

/-- `POST /mcp-gateway/approvals/{id}/resolve` up to the call of the child server. -/
def resolveGatewayRequest (runtime : Runtime) (approvalRequestId : String) : McpProcedure ResolveOutcome := do
  let store ← Procedure.state
  let approval ← found (store.approvalRequests.get? approvalRequestId) (.http 404 "Approval request not found")
  gatewayForProject approval.projectId
  resolveAfterSideChannelDecision runtime approval.projectId approvalRequestId

/-- Whether the child server refused or failed a call. -/
def forwardFailed (result : Document) : Bool := result.field "ok" == some (.flag false)

/-- `str(result.get("error") or result)`. -/
def forwardError (runtime : Runtime) (result : Document) : String :=
  match result.field "error" with
  | some (.text words) => if words = "" then runtime.render result else words
  | some other => if other.truthy then runtime.render other else runtime.render result
  | none => runtime.render result

def handleForwardFailure (runtime : Runtime) (approvalRequestId : String) (result : Document) : McpProcedure Unit := do
  match (← Procedure.state).pendingForApproval approvalRequestId with
  | none => pure ()
  | some pending => do
      let updatedAt ← readClock runtime
      changePending pending.id fun pending => pending.failed updatedAt (forwardError runtime result)

/-- The end of `resolve`: the answer of the child server is recorded. -/
def recordForwardResult (runtime : Runtime) (approvalRequestId : String) (result : Document) : McpProcedure Unit :=
  if forwardFailed result = true then handleForwardFailure runtime approvalRequestId result
  else markPendingStatus runtime approvalRequestId .forwarded

structure PendingRetryRequest where
  reason : String
  resetAttempts : Bool

/-- `POST /mcp-gateway/pending-requests/{id}/retry`. -/
def retryPendingGatewayRequest (runtime : Runtime) (pendingRequestId : String) (payload : PendingRetryRequest) :
    McpProcedure Unit := do
  let store ← Procedure.state
  let pending ← found (store.mcpPendingRequests.get? pendingRequestId) (.http 404 "MCP pending request not found")
  demand (pending.status ∉ closedPendingStatuses)
    (.http 409 ("MCP pending request cannot be retried from " ++ pending.status.value))
  let leased ←
    if pending.status = .forwarding then leaseStillGood runtime pending.leaseExpiresAt else pure false
  demand (leased = false) (.http 409 "MCP pending request has an active lease")
  let updatedAt ← readClock runtime
  changePending pendingRequestId fun pending => pending.retried updatedAt payload.resetAttempts

end ControlTower
