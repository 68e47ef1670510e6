import Mathlib.Data.Rat.Defs
import ControlTower.Foundation.Table
import ControlTower.Models

/-! Capability leases, proposed actions, policy decisions and the signed human
decisions on them, with the documents that are hashed and signed. -/

set_option autoImplicit false

namespace ControlTower

open Foundation

inductive CapabilityLeaseMode where
  | strict | bounded | supervised
  deriving DecidableEq, Repr

def CapabilityLeaseMode.value : CapabilityLeaseMode → String
  | .strict => "STRICT"
  | .bounded => "BOUNDED"
  | .supervised => "SUPERVISED"

inductive CapabilityLeaseStatus where
  | active | expired | revoked | consumed
  deriving DecidableEq, Repr

def CapabilityLeaseStatus.value : CapabilityLeaseStatus → String
  | .active => "ACTIVE"
  | .expired => "EXPIRED"
  | .revoked => "REVOKED"
  | .consumed => "CONSUMED"

inductive CapabilityActionType where
  | readRepository | createBranch | modifyFiles | runCommand | accessNetwork | createPullRequest
  | deploy | readSecret | writeDatabase | custom
  deriving DecidableEq, Repr

def CapabilityActionType.value : CapabilityActionType → String
  | .readRepository => "READ_REPOSITORY"
  | .createBranch => "CREATE_BRANCH"
  | .modifyFiles => "MODIFY_FILES"
  | .runCommand => "RUN_COMMAND"
  | .accessNetwork => "ACCESS_NETWORK"
  | .createPullRequest => "CREATE_PULL_REQUEST"
  | .deploy => "DEPLOY"
  | .readSecret => "READ_SECRET"
  | .writeDatabase => "WRITE_DATABASE"
  | .custom => "CUSTOM"

structure CapabilityScope where
  repository : String
  branch : String
  allowedActions : List CapabilityActionType
  allowedPathPrefixes : List String
  allowedCommands : List String
  allowedNetworkDomains : List String
  maxRuntimeSeconds : Nat
  maxCostUsd : Rat
  maxRetries : Nat
  maxPullRequests : Nat
  allowAutoMerge : Bool
  metadata : List (String × Document)
  deriving DecidableEq

def v1AllowedCapabilityActions : List CapabilityActionType :=
  [.readRepository, .createBranch, .modifyFiles, .runCommand, .accessNetwork, .createPullRequest]

/-- Trim, drop empty entries and keep the first of equal entries. -/
def normalizeStrings (values : List String) : List String :=
  values.foldl (fun normalized value =>
    let cleaned := Text.strip value
    if cleaned ≠ "" ∧ cleaned ∉ normalized then normalized ++ [cleaned] else normalized) []

def keepFirst {α : Type} [DecidableEq α] (values : List α) : List α :=
  values.foldl (fun kept value => if value ∈ kept then kept else kept ++ [value]) []

theorem mem_keepFirst {α : Type} [DecidableEq α] {values : List α} {value : α} :
    value ∈ keepFirst values ↔ value ∈ values := by
  have general : ∀ kept : List α, value ∈ values.foldl (fun kept value => if value ∈ kept then kept else kept ++ [value]) kept ↔
      value ∈ kept ∨ value ∈ values := by
    induction values with
    | nil => simp
    | cons first rest ih =>
      intro kept
      rw [List.foldl_cons, ih]
      split
      · rename_i known
        constructor
        · rintro (already | later)
          · exact .inl already
          · exact .inr (List.mem_cons_of_mem _ later)
        · rintro (already | member)
          · exact .inl already
          · rcases List.mem_cons.mp member with rfl | later
            · exact .inl known
            · exact .inr later
      · simp [or_assoc]
  simpa [keepFirst] using general []

theorem keepFirst_nodup {α : Type} [DecidableEq α] (values : List α) : (keepFirst values).Nodup := by
  have general : ∀ kept : List α, kept.Nodup →
      (values.foldl (fun kept value => if value ∈ kept then kept else kept ++ [value]) kept).Nodup := by
    induction values with
    | nil => exact fun _ => id
    | cons first rest ih =>
      intro kept distinct
      rw [List.foldl_cons]
      refine ih _ ?_
      split
      · exact distinct
      · rename_i unknown
        refine List.nodup_append.mpr ⟨distinct, List.nodup_singleton first, ?_⟩
        rintro left present right single rfl
        rw [List.mem_singleton] at single
        exact unknown (single ▸ present)
  exact general [] List.nodup_nil

/-- The field validators of a capability scope; an error names the field. -/
def CapabilityScope.validate (scope : CapabilityScope) : Except String CapabilityScope :=
  let repository := Text.strip scope.repository
  let branch := Text.strip scope.branch
  if ¬ Text.contains repository "/" ∨ Text.startsWith repository "/" ∨ Text.endsWith repository "/" then
    .error "repository"
  else if branch = "" ∨ branch = "main" ∨ branch = "master" then .error "branch"
  else if scope.allowedActions = [] ∨ 10 < scope.allowedActions.length ∨
      ¬ scope.allowedActions.all v1AllowedCapabilityActions.contains then .error "allowed_actions"
  else if 100 < scope.allowedPathPrefixes.length then .error "allowed_path_prefixes"
  else if 50 < scope.allowedCommands.length then .error "allowed_commands"
  else if 20 < scope.allowedNetworkDomains.length then .error "allowed_network_domains"
  else if scope.maxRuntimeSeconds = 0 ∨ 3600 < scope.maxRuntimeSeconds then .error "max_runtime_seconds"
  else if scope.maxCostUsd < 0 ∨ 10 < scope.maxCostUsd then .error "max_cost_usd"
  else if 3 < scope.maxRetries then .error "max_retries"
  else if 1 < scope.maxPullRequests then .error "max_pull_requests"
  else .ok { scope with
    repository
    branch
    allowedActions := keepFirst scope.allowedActions
    allowedPathPrefixes := normalizeStrings scope.allowedPathPrefixes
    allowedCommands := normalizeStrings scope.allowedCommands
    allowedNetworkDomains := normalizeStrings scope.allowedNetworkDomains }

structure CapabilityLeaseCreate where
  approvalRequestId : String
  agentId : Option String
  provider : AgentProvider
  mode : CapabilityLeaseMode
  scope : CapabilityScope
  expiresInSeconds : Nat
  requiredReviewerCount : Nat
  preventSelfApproval : Bool
  deriving DecidableEq

structure CapabilityLease where
  id : String
  approvalRequestId : String
  approvedPayloadHash : String
  agentId : Option String
  provider : AgentProvider
  mode : CapabilityLeaseMode
  scope : CapabilityScope
  issuedByUserId : String
  requiredReviewerCount : Nat
  preventSelfApproval : Bool
  status : CapabilityLeaseStatus
  issuedAt : Instant
  expiresAt : Instant
  revokedAt : Option Instant
  revokedByUserId : Option String
  revocationReason : String
  receiptNonce : String
  receiptSignature : String
  consumedPullRequests : Nat
  consumedRetries : Nat
  consumedRuntimeSeconds : Nat
  consumedCostUsd : Rat
  createdAt : Instant
  updatedAt : Instant
  deriving DecidableEq

inductive ReviewerAttestationDecision where
  | approve | deny
  deriving DecidableEq, Repr

def ReviewerAttestationDecision.value : ReviewerAttestationDecision → String
  | .approve => "APPROVE"
  | .deny => "DENY"

structure ReviewerAttestation where
  id : String
  approvalRequestId : String
  approvalPayloadHash : String
  reviewerUserId : String
  reviewerRole : UserRole
  decision : ReviewerAttestationDecision
  reason : String
  signature : String
  createdAt : Instant
  deriving DecidableEq

structure ProposedAction where
  id : String
  leaseId : Option String
  provider : AgentProvider
  agentId : Option String
  runId : Option String
  taskId : Option String
  projectId : Option String
  actionType : CapabilityActionType
  repository : Option String
  branch : Option String
  paths : List String
  command : Option String
  networkDomains : List String
  estimatedRuntimeSeconds : Nat
  estimatedCostUsd : Rat
  retryNumber : Nat
  metadata : List (String × Document)
  createdAt : Instant
  deriving DecidableEq

/-- The field limits of a proposed action. -/
def ProposedAction.WithinLimits (action : ProposedAction) : Prop :=
  action.paths.length ≤ 100 ∧ (action.command.getD "").length ≤ 4000 ∧
    action.networkDomains.length ≤ 20 ∧ action.estimatedRuntimeSeconds ≤ 3600 ∧
    0 ≤ action.estimatedCostUsd ∧ action.estimatedCostUsd ≤ 10 ∧ action.retryNumber ≤ 3

instance (action : ProposedAction) : Decidable action.WithinLimits := by
  unfold ProposedAction.WithinLimits
  infer_instance

structure ActionConsumption where
  actualRuntimeSeconds : Nat
  actualCostUsd : Rat
  pullRequestsCreated : Nat
  retryConsumed : Bool
  outputReference : Option String
  evidence : Document
  deriving DecidableEq

inductive PolicyDecisionType where
  | allow | requireApproval | block
  deriving DecidableEq, Repr

def PolicyDecisionType.value : PolicyDecisionType → String
  | .allow => "ALLOW"
  | .requireApproval => "REQUIRE_APPROVAL"
  | .block => "BLOCK"

structure PolicyDecision where
  id : String
  proposedActionId : String
  leaseId : Option String
  decision : PolicyDecisionType
  riskLevel : RiskLevel
  reasons : List String
  obligations : List String
  evaluatedPolicyVersion : String
  evaluatedAt : Instant
  deriving DecidableEq

inductive ActionAuthorizationDecision where
  | allow | block
  deriving DecidableEq, Repr

def ActionAuthorizationDecision.value : ActionAuthorizationDecision → String
  | .allow => "ALLOW"
  | .block => "BLOCK"

structure ActionAuthorization where
  id : String
  actionId : String
  actionPayloadHash : String
  policyDecisionId : String
  reviewerUserId : String
  reviewerRole : UserRole
  decision : ActionAuthorizationDecision
  reason : String
  signature : String
  createdAt : Instant
  deriving DecidableEq

inductive TrustEventType where
  | attestationRecorded | leaseIssued | leaseRevoked | leaseExpired | actionReceived | actionAllowed
  | actionRequiresApproval | actionBlocked | actionConsumed
  | credentialGrantIssued | credentialGrantRevoked | runException
  deriving DecidableEq, Repr

def TrustEventType.value : TrustEventType → String
  | .attestationRecorded => "ATTESTATION_RECORDED"
  | .leaseIssued => "LEASE_ISSUED"
  | .leaseRevoked => "LEASE_REVOKED"
  | .leaseExpired => "LEASE_EXPIRED"
  | .actionReceived => "ACTION_RECEIVED"
  | .actionAllowed => "ACTION_ALLOWED"
  | .actionRequiresApproval => "ACTION_REQUIRES_APPROVAL"
  | .actionBlocked => "ACTION_BLOCKED"
  | .actionConsumed => "ACTION_CONSUMED"
  | .credentialGrantIssued => "CREDENTIAL_GRANT_ISSUED"
  | .credentialGrantRevoked => "CREDENTIAL_GRANT_REVOKED"
  | .runException => "RUN_EXCEPTION"

structure TrustEvent where
  id : String
  sequence : Int
  eventType : TrustEventType
  entityType : String
  entityId : String
  actor : String
  correlationId : Option String
  payload : Document
  previousHash : Option String
  eventHash : String
  createdAt : Instant
  deriving DecidableEq

def usdDocument (amount : Rat) : Document := .fraction amount.num amount.den

/-- `model_dump` of a capability scope. -/
def CapabilityScope.document (scope : CapabilityScope) : Document :=
  .object [
    ("allow_auto_merge", .flag scope.allowAutoMerge),
    ("allowed_actions", .ofTexts (scope.allowedActions.map CapabilityActionType.value)),
    ("allowed_commands", .ofTexts scope.allowedCommands),
    ("allowed_network_domains", .ofTexts scope.allowedNetworkDomains),
    ("allowed_path_prefixes", .ofTexts scope.allowedPathPrefixes),
    ("branch", .text scope.branch),
    ("max_cost_usd", usdDocument scope.maxCostUsd),
    ("max_pull_requests", .number scope.maxPullRequests),
    ("max_retries", .number scope.maxRetries),
    ("max_runtime_seconds", .number scope.maxRuntimeSeconds),
    ("metadata", .object scope.metadata),
    ("repository", .text scope.repository)]

/-- `model_dump` of a lease request. -/
def CapabilityLeaseCreate.document (payload : CapabilityLeaseCreate) : Document :=
  .object [
    ("agent_id", .ofText payload.agentId),
    ("approval_request_id", .text payload.approvalRequestId),
    ("expires_in_seconds", .number payload.expiresInSeconds),
    ("mode", .text payload.mode.value),
    ("prevent_self_approval", .flag payload.preventSelfApproval),
    ("provider", .text payload.provider.value),
    ("required_reviewer_count", .number payload.requiredReviewerCount),
    ("scope", payload.scope.document)]

def leaseReceiptPayload (lease : CapabilityLease) : Document :=
  .object [
    ("agent_id", .ofText lease.agentId),
    ("approval_request_id", .text lease.approvalRequestId),
    ("approved_payload_hash", .text lease.approvedPayloadHash),
    ("expires_at", .instant lease.expiresAt),
    ("id", .text lease.id),
    ("issued_at", .instant lease.issuedAt),
    ("issued_by_user_id", .text lease.issuedByUserId),
    ("mode", .text lease.mode.value),
    ("prevent_self_approval", .flag lease.preventSelfApproval),
    ("provider", .text lease.provider.value),
    ("receipt_nonce", .text lease.receiptNonce),
    ("required_reviewer_count", .number lease.requiredReviewerCount),
    ("scope", lease.scope.document)]

/-- The payload of an action without its creation time. -/
def ProposedAction.fields (action : ProposedAction) : List (String × Document) :=
  [("action_type", .text action.actionType.value),
    ("agent_id", .ofText action.agentId),
    ("branch", .ofText action.branch),
    ("command", .ofText action.command),
    ("estimated_cost_usd", usdDocument action.estimatedCostUsd),
    ("estimated_runtime_seconds", .number action.estimatedRuntimeSeconds),
    ("id", .text action.id),
    ("lease_id", .ofText action.leaseId),
    ("metadata", .object action.metadata),
    ("network_domains", .ofTexts action.networkDomains),
    ("paths", .ofTexts action.paths),
    ("project_id", .ofText action.projectId),
    ("provider", .text action.provider.value),
    ("repository", .ofText action.repository),
    ("retry_number", .number action.retryNumber),
    ("run_id", .ofText action.runId),
    ("task_id", .ofText action.taskId)]

/-- `model_dump(mode="json")` of an action. -/
def ProposedAction.document (action : ProposedAction) : Document :=
  .object (Document.setField "created_at" (.instant action.createdAt) action.fields)

def authorizationSignaturePayload (authorization : ActionAuthorization) : Document :=
  .object [
    ("action_id", .text authorization.actionId),
    ("action_payload_hash", .text authorization.actionPayloadHash),
    ("decision", .text authorization.decision.value),
    ("policy_decision_id", .text authorization.policyDecisionId),
    ("reason", .text authorization.reason),
    ("reviewer_role", .text authorization.reviewerRole.value),
    ("reviewer_user_id", .text authorization.reviewerUserId)]

/-- The material of the hash chain of trust events. -/
def eventMaterial (event : TrustEvent) : Document :=
  .object [
    ("actor", .text event.actor),
    ("correlation_id", .ofText event.correlationId),
    ("created_at", .instant event.createdAt),
    ("entity_id", .text event.entityId),
    ("entity_type", .text event.entityType),
    ("event_type", .text event.eventType.value),
    ("payload", event.payload),
    ("previous_hash", .ofText event.previousHash),
    ("sequence", .number event.sequence)]

def actionPayloadHash (runtime : Runtime) (action : ProposedAction) : String :=
  runtime.sha256Hex action.document

def verifyPayloadSignature (runtime : Runtime) (payload : Document) (signature : String) : Bool :=
  runtime.signPayload payload == signature

def verifyActionAuthorization (runtime : Runtime) (authorization : ActionAuthorization)
    (action : ProposedAction) : Bool :=
  authorization.actionId == action.id &&
    authorization.actionPayloadHash == actionPayloadHash runtime action &&
    verifyPayloadSignature runtime (authorizationSignaturePayload authorization) authorization.signature

end ControlTower
