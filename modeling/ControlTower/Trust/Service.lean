import ControlTower.Store
import ControlTower.Trust.Policy

/-! The trust services: the event recorder, attestations, the issue and expiry
of capability leases, and the evaluation of actions at the gateway. -/

set_option autoImplicit false

namespace ControlTower

open Foundation
open Foundation.Procedure (demand found onlyIf)

/-- The event with the greatest sequence number. -/
def Store.latestTrustEvent (store : Store) : Option TrustEvent :=
  Selection.pick (fun best event => decide (best.sequence ≤ event.sequence)) store.trustEvents.values

def appendTrustEvent (runtime : Runtime) (eventType : TrustEventType) (entityType entityId actor : String)
    (correlationId : Option String) (payload : Document) : StoreProcedure Unit := do
  let now ← readClock runtime
  .modify fun store =>
    let previous := store.latestTrustEvent
    let event : TrustEvent :=
      { id := runtime.newId "trust_event" store.trustEvents.keys
        sequence := (previous.map (·.sequence + 1)).getD 1
        eventType, entityType, entityId, actor, correlationId, payload
        previousHash := previous.map (·.eventHash)
        eventHash := "pending"
        createdAt := now }
    { store with trustEvents :=
        store.trustEvents.set event.id { event with eventHash := runtime.sha256Hex (eventMaterial event) } }

/-- The latest decision on an action: the greatest time, then the greatest identifier. -/
def laterDecision (best decision : PolicyDecision) : Bool :=
  decide (best.evaluatedAt < decision.evaluatedAt) ||
    (best.evaluatedAt == decision.evaluatedAt && decide (best.id < decision.id))

def Store.latestPolicyDecision (store : Store) (actionId : String) : Option PolicyDecision :=
  Selection.pick laterDecision
    (store.policyDecisions.values.filter fun decision => decision.proposedActionId == actionId)

/-- The first recorded authorization of an action. -/
def Store.authorizationOf (store : Store) (actionId : String) : Option ActionAuthorization :=
  store.actionAuthorizations.values.find? fun authorization => authorization.actionId == actionId

def Store.linkedTaskForApproval (store : Store) (approvalRequestId : String) : Option AgentTask :=
  store.agentTasks.values.find? fun task => task.approvalRequestId == some approvalRequestId

/-- The reviewers who approved this exact payload. -/
def Store.approvalReviewerIds (store : Store) (approval : ApprovalRequest) (payloadHash : String) :
    List String :=
  keepFirst ((approval.approvedByUserId.toList.filter (· != "")) ++
    (store.reviewerAttestations.values.filter fun attestation =>
      attestation.approvalRequestId == approval.id && attestation.approvalPayloadHash == payloadHash &&
        attestation.decision == .approve).map (·.reviewerUserId))

def Store.hasDenial (store : Store) (approvalRequestId payloadHash : String) : Bool :=
  store.reviewerAttestations.values.any fun attestation =>
    attestation.approvalRequestId == approvalRequestId && attestation.approvalPayloadHash == payloadHash &&
      attestation.decision == .deny

def recordReviewerAttestation (runtime : Runtime) (approvalRequestId : String)
    (decision : ReviewerAttestationDecision) (reason : String) (user : AuthUser) : StoreProcedure Unit := do
  let store ← Procedure.state
  let approval ← found (store.approvalRequests.get? approvalRequestId)
    (.valueError "Approval request not found.")
  demand (Text.present approval.approvedPayloadHash = true)
    (.trustControlConflict "Approval payload must be sealed before attestation.")
  demand (approval.createdByUserId ≠ some user.id)
    (.trustControlConflict "The approval creator cannot attest their own request.")
  let payloadHash := approval.approvedPayloadHash.getD ""
  match store.reviewerAttestations.values.find? fun item =>
      item.approvalRequestId == approval.id && item.reviewerUserId == user.id &&
        item.approvalPayloadHash == payloadHash with
  | some existing =>
      demand (existing.decision = decision ∧ existing.reason = reason)
        (.trustControlConflict "Reviewer attestation is immutable once recorded.")
  | none => do
      let now ← readClock runtime
      let material := Document.object [
        ("approval_payload_hash", .text payloadHash), ("approval_request_id", .text approval.id),
        ("decision", .text decision.value), ("reason", .text reason),
        ("reviewer_role", .text user.role.value), ("reviewer_user_id", .text user.id)]
      let attestation : ReviewerAttestation :=
        { id := runtime.newId "attestation" store.reviewerAttestations.keys
          approvalRequestId := approval.id
          approvalPayloadHash := payloadHash
          reviewerUserId := user.id
          reviewerRole := user.role
          decision, reason
          signature := runtime.signPayload material
          createdAt := now }
      .modify fun store => { store with
        reviewerAttestations := store.reviewerAttestations.set attestation.id attestation }
      appendTrustEvent runtime .attestationRecorded "approval_request" approval.id user.email none
        (.object [("approval_payload_hash", .text payloadHash), ("attestation_id", .text attestation.id),
          ("decision", .text decision.value), ("reviewer_role", .text user.role.value)])
      persist

def normalizedPath (path : String) : String := Text.replaceChar '\\' '/' (Text.strip path)

def validateScopeAgainstApproval (payload : CapabilityLeaseCreate) (approval : ApprovalRequest) :
    StoreProcedure Unit := do
  let store ← Procedure.state
  let task ← found (store.linkedTaskForApproval approval.id)
    (.trustControlConflict "Capability leases require a linked AgentTask.")
  demand (some payload.scope.repository = task.repository)
    (.trustControlConflict "Lease repository must match the approved AgentTask repository.")
  demand (payload.scope.branch = approval.targetBranch ∧ some payload.scope.branch = task.branchPreference)
    (.trustControlConflict "Lease branch must match the approved target branch.")
  let approvedPaths := approval.files.map fun item => normalizedPath item.path
  let requestedPaths := keepFirst (payload.scope.allowedPathPrefixes.map fun item =>
    Text.stripEnd '/' (normalizedPath item))
  let outsidePaths := sortTexts (requestedPaths.filter fun path => !approvedPaths.contains path)
  demand (outsidePaths = [])
    (.trustControlConflict ("Lease path scope exceeds approved files: " ++ Text.join ", " outsidePaths))
  let approvedCommands := (approval.testPlan.map Text.strip).filter (· != "")
  let outsideCommands := sortTexts (payload.scope.allowedCommands.filter fun command =>
    !approvedCommands.contains (Text.strip command))
  demand (outsideCommands = [])
    (.trustControlConflict
      ("Lease command scope exceeds the approved test plan: " ++ Text.join ", " outsideCommands))
  demand (payload.scope.allowAutoMerge = false)
    (.trustControlConflict "Auto-merge cannot be granted by a capability lease.")

/-- Scan the leases for an active one of this approval and agent. The clock is
read for each lease that reaches the comparison of times. -/
def findActiveLease (runtime : Runtime) (approvalId : String) (agentId : Option String) :
    List CapabilityLease → StoreProcedure (Option CapabilityLease)
  | [] => pure none
  | lease :: rest =>
      if lease.approvalRequestId = approvalId ∧ lease.agentId = agentId ∧ lease.status = .active then do
        let now ← readClock runtime
        if now < lease.expiresAt then pure (some lease) else findActiveLease runtime approvalId agentId rest
      else findActiveLease runtime approvalId agentId rest

/-- `metadata.get("correlation_id")`, which a trust event takes as a text or not at all. -/
def correlationIdOf (metadata : List (String × Document)) : StoreProcedure (Option String) :=
  match metadata.lookup "correlation_id" with
  | none | some .null => pure none
  | some (.text words) => pure (some words)
  | some _ => .raise (.validationError "correlation_id")

/-- Store a new signed lease for a request that passed every check. -/
def storeLease (runtime : Runtime) (payload : CapabilityLeaseCreate) (approval : ApprovalRequest)
    (user : AuthUser) : StoreProcedure CapabilityLease := do
  let issuedAt ← readClock runtime
  let nonce ← drawSecret runtime
  let createdAt ← readClock runtime
  let store ← Procedure.state
  let metadata := Document.setField "request_fingerprint" (.text (runtime.sha256Hex payload.document))
    payload.scope.metadata
  let scope := { payload.scope with metadata := metadata }
  let unsigned : CapabilityLease :=
    { id := runtime.newId "lease" store.capabilityLeases.keys
      approvalRequestId := approval.id
      approvedPayloadHash := approval.approvedPayloadHash.getD ""
      agentId := payload.agentId
      provider := payload.provider
      mode := payload.mode
      scope
      issuedByUserId := user.id
      requiredReviewerCount := payload.requiredReviewerCount
      preventSelfApproval := payload.preventSelfApproval
      status := .active
      issuedAt
      expiresAt := issuedAt.plusSeconds payload.expiresInSeconds
      revokedAt := none
      revokedByUserId := none
      revocationReason := ""
      receiptNonce := nonce
      receiptSignature := "pending"
      consumedPullRequests := 0
      consumedRetries := 0
      consumedRuntimeSeconds := 0
      consumedCostUsd := 0
      createdAt
      updatedAt := createdAt }
  let lease := { unsigned with receiptSignature := runtime.signPayload (leaseReceiptPayload unsigned) }
  .modify fun store => { store with capabilityLeases := store.capabilityLeases.set lease.id lease }
  -- the lease is stored before the event checks the type of its correlation
  let correlationId ← correlationIdOf scope.metadata
  appendTrustEvent runtime .leaseIssued "capability_lease" lease.id user.email correlationId
    (.object [("agent_id", .ofText lease.agentId), ("approval_request_id", .text approval.id),
      ("branch", .text scope.branch), ("expires_at", .instant lease.expiresAt),
      ("mode", .text lease.mode.value), ("provider", .text lease.provider.value),
      ("repository", .text scope.repository),
      ("required_reviewer_count", .number lease.requiredReviewerCount)])
  persist
  return lease

def issueCapabilityLease (runtime : Runtime) (payload : CapabilityLeaseCreate) (user : AuthUser) :
    StoreProcedure CapabilityLease := do
  let store ← Procedure.state
  let approval ← found (store.approvalRequests.get? payload.approvalRequestId)
    (.valueError "Approval request not found.")
  demand (approval.status = .approved)
    (.trustControlConflict "Capability leases require an APPROVED request.")
  demand (Text.present approval.approvedPayloadHash = true)
    (.trustControlConflict "Approved payload hash is required before lease issuance.")
  let payloadHash := approval.approvedPayloadHash.getD ""
  demand (Text.present payload.agentId = true → payload.agentId.getD "" ∈ store.externalAgents.keys)
    (.valueError "External agent not found.")
  demand (store.hasDenial approval.id payloadHash = false)
    (.trustControlConflict "A reviewer denied this exact approval payload.")
  validateScopeAgainstApproval payload approval
  let reviewers := store.approvalReviewerIds approval payloadHash
  demand (payload.preventSelfApproval = true →
      (approval.createdByUserId.all fun creator => !reviewers.contains creator) = true)
    (.trustControlConflict "Self-approved work cannot receive a capability lease.")
  demand (payload.requiredReviewerCount ≤ reviewers.length)
    (.trustControlConflict s!"Lease requires {payload.requiredReviewerCount} distinct reviewers; only {reviewers.length} are recorded.")
  match ← findActiveLease runtime approval.id payload.agentId store.capabilityLeases.values with
  | some active => do
      demand (active.scope.metadata.lookup "request_fingerprint" =
          some (.text (runtime.sha256Hex payload.document)))
        (.trustControlConflict "An active lease already exists for this approval and agent.")
      return active
  | none => storeLease runtime payload approval user

/-- Change a stored lease where it stands. -/
def changeLease (leaseId : String) (change : CapabilityLease → CapabilityLease) : StoreProcedure Unit :=
  .modify fun store => { store with capabilityLeases := store.capabilityLeases.adjust leaseId change }

/-- Mark an active lease as expired once its time is over. -/
def refreshLeaseStatus (runtime : Runtime) (lease : CapabilityLease) : StoreProcedure CapabilityLease :=
  if lease.status = .active then do
    let now ← readClock runtime
    if lease.expiresAt ≤ now then do
      let updatedAt ← readClock runtime
      let expire := fun lease : CapabilityLease => { lease with status := .expired, updatedAt }
      changeLease lease.id expire
      appendTrustEvent runtime .leaseExpired "capability_lease" lease.id "system" none
        (.object [("expires_at", .instant lease.expiresAt)])
      persist
      return expire lease
    else return lease
  else return lease

def revokeCapabilityLease (runtime : Runtime) (lease : CapabilityLease) (user : AuthUser) (reason : String) :
    StoreProcedure Unit := do
  let lease ← refreshLeaseStatus runtime lease
  if lease.status = .revoked ∨ lease.status = .expired then pure ()
  else do
    demand (lease.status = .active)
      (.trustControlConflict s!"Lease cannot be revoked from {lease.status.value}.")
    let revokedAt ← readClock runtime
    let updatedAt ← readClock runtime
    changeLease lease.id fun lease =>
      { lease with
        status := .revoked
        revokedAt := some revokedAt
        revokedByUserId := some user.id
        revocationReason := reason
        updatedAt }
    appendTrustEvent runtime .leaseRevoked "capability_lease" lease.id user.email none
      (.object [("reason", .text reason)])
    persist

def storeDecision (runtime : Runtime) (action : ProposedAction) (verdict : Verdict) (version : String) :
    StoreProcedure PolicyDecision := do
  let now ← readClock runtime
  let store ← Procedure.state
  let decision : PolicyDecision :=
    { id := runtime.newId "decision" store.policyDecisions.keys
      proposedActionId := action.id
      leaseId := action.leaseId
      decision := verdict.decision
      riskLevel := verdict.riskLevel
      reasons := verdict.reasons
      obligations := verdict.obligations
      evaluatedPolicyVersion := version
      evaluatedAt := now }
  .modify fun store => { store with policyDecisions := store.policyDecisions.set decision.id decision }
  return decision

def PolicyDecisionType.eventType : PolicyDecisionType → TrustEventType
  | .allow => .actionAllowed
  | .requireApproval => .actionRequiresApproval
  | .block => .actionBlocked

/-- `run_id or task_id`. -/
def ProposedAction.correlationId (action : ProposedAction) : Option String :=
  if Text.present action.runId then action.runId else action.taskId

/-- The lease an action names, refreshed. -/
def leaseOfAction (runtime : Runtime) (action : ProposedAction) : StoreProcedure (Option CapabilityLease) := do
  match (← Procedure.state).capabilityLeases.get? (action.leaseId.getD "") with
  | some lease => do
      let refreshed ← refreshLeaseStatus runtime lease
      return some refreshed
  | none => return none

def evaluateGatewayAction (runtime : Runtime) (action : ProposedAction) (actor : String) :
    StoreProcedure PolicyDecision := do
  let lease ← leaseOfAction runtime action
  .modify fun store => { store with proposedActions := store.proposedActions.set action.id action }
  appendTrustEvent runtime .actionReceived "proposed_action" action.id actor action.correlationId
    (.object [("action_type", .text action.actionType.value), ("agent_id", .ofText action.agentId),
      ("lease_id", .ofText action.leaseId), ("provider", .text action.provider.value)])
  let now ← readClock runtime
  let decision ← storeDecision runtime action (evaluateProposedAction runtime action lease now) policyVersion
  appendTrustEvent runtime decision.decision.eventType "proposed_action" action.id actor action.correlationId
    (.object [("decision", .text decision.decision.value), ("decision_id", .text decision.id),
      ("obligations", .ofTexts decision.obligations), ("reasons", .ofTexts decision.reasons),
      ("risk_level", .text decision.riskLevel.value)])
  persist
  return decision

end ControlTower
