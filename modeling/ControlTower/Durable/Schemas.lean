import ControlTower.Foundation.Schema
import ControlTower.Trust.Model

/-! The models of the persisted records, field by field in the order in which a
dump writes them, with the bounds and validators that loading applies. -/

set_option autoImplicit false

namespace ControlTower.Durable

open Foundation
open Foundation.Shape (string choice strings choices int fewStrings brief)

section Enumerations

def riskLevels : List String := ["LOW", "MEDIUM", "HIGH", "CRITICAL", "BLOCKED"]

def approvalStatuses : List String :=
  ["REQUESTED", "APPROVED", "DENIED", "EXPIRED", "EXECUTING", "READY_FOR_PR", "FAILED", "MERGED", "CANCELLED",
    "PENDING_REVIEW", "REJECTED", "REVISION_REQUESTED", "BLOCKED", "APPLIED", "TESTS_RUNNING", "TESTS_PASSED",
    "TESTS_FAILED"]

def mcpPendingStatuses : List String :=
  ["WAITING_FOR_APPROVAL", "FORWARDING", "FORWARDED", "BLOCKED_BY_DECISION", "ORPHANED", "DEAD_LETTER"]

def userRoles : List String := ["OWNER", "MAINTAINER", "REVIEWER"]

def agentProviders : List String := ["CODEX", "CHATGPT", "CLAUDE", "CURSOR", "GITHUB_ACTIONS", "MANUAL", "OTHER"]

def agentActions : List String :=
  ["CREATE_APPROVAL", "CREATE_WORK_ORDER", "CREATE_AGENT_TASK", "APPEND_AGENT_TASK_EVENT", "READ_AGENT_TASK",
    "EXECUTE_GITHUB"]

def connectorTypes : List String := ["GENERIC_HTTP", "WEBHOOK", "MCP", "LOCAL_BRIDGE", "GPT_ACTIONS", "CUSTOM"]

def connectorProviderLabels : List String :=
  ["OPENCLAW", "ANTIGRAVITY", "GEMINI", "CLAUDE", "CURSOR", "CHATGPT", "CODEX", "CUSTOM"]

def connectorAuthTypes : List String := ["NONE", "API_KEY", "BEARER", "HMAC"]

def connectorStatuses : List String := ["ENABLED", "DISABLED"]

def connectorHealthStatuses : List String := ["UNKNOWN", "HEALTHY", "DEGRADED", "FAILING", "DISABLED"]

def agentTaskStatuses : List String :=
  ["RECEIVED", "PLANNING", "WAITING_FOR_APPROVAL", "APPROVED", "DENIED", "EXECUTING", "TESTING", "READY_FOR_PR",
    "FAILED", "CANCELLED", "DONE"]

def agentTaskEventTypes : List String :=
  ["TASK_CREATED", "PLAN_RECEIVED", "APPROVAL_CREATED", "APPROVED", "DENIED", "EXECUTION_STARTED", "TESTS_STARTED",
    "TESTS_PASSED", "TESTS_FAILED", "PR_CREATED", "RESULT_READY", "FAILED", "CANCELLED", "DONE", "NOTE"]

def agentRunStatuses : List String :=
  ["SCHEDULED", "RUNNING", "EVALUATING", "RETRY_WAIT", "PAUSED", "NEEDS_HUMAN", "BLOCKED", "SUCCEEDED", "FAILED",
    "CANCELLED"]

def agentRunStepTypes : List String :=
  ["VALIDATE_SCOPE", "CREATE_BRANCH", "APPLY_CHANGES", "RUN_VALIDATION", "CREATE_PULL_REQUEST", "VERIFY_RESULT",
    "SEAL_EVIDENCE"]

def agentRunStepStatuses : List String :=
  ["PENDING", "READY", "RUNNING", "RETRY_WAIT", "PAUSED", "NEEDS_HUMAN", "BLOCKED", "SUCCEEDED", "FAILED", "CANCELLED",
    "SKIPPED"]

def verificationDecisions : List String :=
  ["PASS", "RETRY_TRANSIENT", "NEEDS_REVISION", "NEEDS_HUMAN", "BLOCK_POLICY", "FAIL_PERMANENT"]

def agentRunEventTypes : List String :=
  ["RUN_CREATED", "RUN_STATE_CHANGED", "RUN_LEASE_ACQUIRED", "RUN_HEARTBEAT", "RUN_LEASE_RELEASED",
    "CAPABILITY_LEASE_ATTACHED", "TRUST_POLICY_EVALUATED", "STEP_READY", "STEP_STARTED", "STEP_HEARTBEAT",
    "STEP_SUCCEEDED", "STEP_RETRY_SCHEDULED", "STEP_NEEDS_HUMAN", "STEP_BLOCKED", "STEP_FAILED", "STEP_CANCELLED",
    "STALE_LEASE_RECOVERED", "DUPLICATE_DELIVERY_IGNORED", "EVIDENCE_RECORDED", "FAULT_INJECTED", "OPERATOR_ACTION"]

def agentRunFaultKinds : List String :=
  ["WORKER_CRASH", "GITHUB_TIMEOUT", "DUPLICATE_CALLBACK", "LOST_ACKNOWLEDGEMENT", "VALIDATION_TIMEOUT",
    "INVALID_AGENT_OUTPUT", "STALE_LEASE", "DATABASE_DISCONNECT", "CONTAINER_FAILURE", "FORBIDDEN_FILE_MUTATION"]

def capabilityActionTypes : List String :=
  ["READ_REPOSITORY", "CREATE_BRANCH", "MODIFY_FILES", "RUN_COMMAND", "ACCESS_NETWORK", "CREATE_PULL_REQUEST", "DEPLOY",
    "READ_SECRET", "WRITE_DATABASE", "CUSTOM"]

def trustEventTypes : List String :=
  ["ATTESTATION_RECORDED", "LEASE_ISSUED", "LEASE_REVOKED", "LEASE_EXPIRED", "ACTION_RECEIVED", "ACTION_ALLOWED",
    "ACTION_REQUIRES_APPROVAL", "ACTION_BLOCKED", "ACTION_CONSUMED", "CREDENTIAL_GRANT_ISSUED",
    "CREDENTIAL_GRANT_REVOKED", "RUN_EXCEPTION"]

end Enumerations

section Validators

/-- `validate_repository`. -/
def validateRepository (value : String) : Option String :=
  let cleaned := Text.strip value
  if Text.contains cleaned "/" = false ∨ Text.startsWith cleaned "/" = true ∨ Text.endsWith cleaned "/" = true then none
  else some cleaned

/-- `validate_branch`. -/
def validateBranch (value : String) : Option String :=
  let cleaned := Text.strip value
  if cleaned = "" ∨ cleaned = "main" ∨ cleaned = "master" then none else some cleaned

/-- `validate_v1_actions`. -/
def validateV1Actions (values : List String) : Option (List String) :=
  if values = [] ∨ 10 < values.length then none
  else if (values.all capabilityActionTypes.contains) = false then none
  else if (values.all ((v1AllowedCapabilityActions.map (·.value)).contains)) = false then none
  else some (keepFirst values)

/-- `normalize_strings` on a list of bounded length. -/
def normalizedStrings (longest : Nat) : Shape :=
  .texts fun values => if values.length ≤ longest then some (normalizeStrings values) else none

/-- `default_manual_source_provider`: null becomes the manual provider. -/
def sourceProvider : Shape :=
  .text (some "MANUAL") fun value => if value ∈ agentProviders then some value else none

end Validators

def optionalString : Shape := .optional string

def optionalMoment : Shape := .optional .moment

section Models

def user : Shape := .record [
  ("id", string), ("email", string), ("display_name", string), ("role", choice userRoles), ("password_hash", string),
  ("password_salt", string), ("disabled", .flag), ("email_verified", .flag), ("email_verification_hash", optionalString),
  ("email_verification_salt", optionalString), ("email_verification_expires_at", optionalMoment),
  ("email_verification_sent_at", optionalMoment), ("created_at", .moment), ("updated_at", .moment)]

def sessionToken : Shape := .record [
  ("id", string), ("user_id", string), ("token_hash", string), ("created_at", .moment), ("expires_at", .moment),
  ("revoked", .flag)]

def invite : Shape := .record [
  ("id", string), ("email", string), ("role", choice userRoles), ("token_hash", string),
  ("status", choice ["PENDING", "ACCEPTED", "EXPIRED", "REVOKED"]), ("expires_at", .moment),
  ("created_by_user_id", string), ("accepted_by_user_id", optionalString), ("created_at", .moment),
  ("updated_at", .moment)]

def externalAgent : Shape := .record [
  ("id", string), ("provider", choice agentProviders), ("display_name", string),
  ("auth_type", choice ["API_KEY", "WEBHOOK_SECRET", "MANUAL"]), ("allowed_project_ids", strings),
  ("allowed_repositories", strings), ("allowed_actions", choices agentActions), ("created_by_user_id", optionalString),
  ("enabled", .flag), ("secret_hash", optionalString), ("created_at", .moment), ("updated_at", .moment)]

def agentCredentialRecord : Shape := .record [
  ("id", string), ("agent_id", string), ("token_expires_at", optionalMoment), ("token_revoked_at", optionalMoment),
  ("token_rotated_at", optionalMoment), ("last_used_at", optionalMoment), ("failed_auth_count", int),
  ("last_auth_failed_at", optionalMoment), ("rate_limit_per_minute", int),
  ("rate_limit_window_started_at", optionalMoment), ("rate_limit_request_count", int), ("created_at", .moment),
  ("updated_at", .moment)]

def agentConnector : Shape := .record [
  ("id", string), ("name", string), ("connector_type", choice connectorTypes),
  ("provider_label", choice connectorProviderLabels), ("endpoint_url", optionalString), ("callback_url", optionalString),
  ("auth_type", choice connectorAuthTypes), ("status", choice connectorStatuses),
  ("health_status", choice connectorHealthStatuses), ("allowed_project_ids", strings), ("allowed_repositories", strings),
  ("allowed_actions", choices agentActions), ("rate_limit_per_minute", int), ("secret_ref", optionalString),
  ("last_used_at", optionalMoment), ("last_health_check_at", optionalMoment), ("failed_auth_count", int),
  ("last_error", optionalString), ("created_by_user_id", optionalString), ("config", .mapping), ("created_at", .moment),
  ("updated_at", .moment)]

def deviceRegistration : Shape := .record [
  ("id", string), ("user_id", optionalString), ("platform", string), ("token", string), ("app_version", string),
  ("created_at", .moment), ("updated_at", .moment)]

def agentTask : Shape := .record [
  ("provider", choice agentProviders), ("project_id", optionalString), ("title", string), ("goal", string),
  ("context", string), ("source_url", optionalString), ("source_session_id", optionalString),
  ("source_task_id", optionalString),
  ("requested_action", choice ["CREATE_WORK_ORDER", "CREATE_APPROVAL", "REVIEW_ARCHITECTURE", "GENERATE_DOCS", "OTHER"]),
  ("repository", optionalString), ("branch_preference", optionalString), ("risk_hint", .optional (choice riskLevels)),
  ("requires_approval", .flag), ("metadata", .mapping), ("id", string), ("status", choice agentTaskStatuses),
  ("external_agent_id", optionalString), ("external_agent_name", optionalString), ("approval_request_id", optionalString),
  ("worker_lease_owner", optionalString), ("worker_lease_expires_at", optionalMoment),
  ("worker_lease_token", optionalString), ("created_by_user_id", optionalString), ("created_at", .moment),
  ("updated_at", .moment)]

def agentTaskEvent : Shape := .record [
  ("event_type", choice agentTaskEventTypes), ("message", string), ("status", .optional (choice agentTaskStatuses)),
  ("metadata", .mapping), ("id", string), ("task_id", string), ("actor", string), ("created_at", .moment)]

def agentRun : Shape := .record [
  ("id", string), ("task_id", string), ("approval_request_id", optionalString), ("capability_lease_id", optionalString),
  ("project_id", optionalString), ("repository", optionalString), ("objective", string), ("correlation_id", string),
  ("status", choice agentRunStatuses), ("current_step_id", optionalString), ("current_step_index", int),
  ("max_attempts_per_step", int), ("pause_requested", .flag), ("cancel_requested", .flag),
  ("lease_owner", optionalString), ("lease_token", optionalString), ("lease_expires_at", optionalMoment),
  ("heartbeat_at", optionalMoment), ("started_at", optionalMoment), ("completed_at", optionalMoment),
  ("final_evidence_hash", optionalString), ("last_error", optionalString), ("metadata", .mapping),
  ("created_at", .moment), ("updated_at", .moment)]

def agentRunStep : Shape := .record [
  ("id", string), ("run_id", string), ("task_id", string), ("sequence", int), ("step_type", choice agentRunStepTypes),
  ("status", choice agentRunStepStatuses), ("attempt_count", int), ("max_attempts", int), ("idempotency_key", string),
  ("lease_owner", optionalString), ("lease_token", optionalString), ("lease_expires_at", optionalMoment),
  ("heartbeat_at", optionalMoment), ("next_retry_at", optionalMoment), ("started_at", optionalMoment),
  ("completed_at", optionalMoment), ("duration_ms", .optional int), ("decision", .optional (choice verificationDecisions)),
  ("reason", string), ("last_error", optionalString), ("evidence", .mapping), ("evidence_hash", optionalString),
  ("output_reference", optionalString), ("created_at", .moment), ("updated_at", .moment)]

def agentRunEvent : Shape := .record [
  ("id", string), ("run_id", string), ("task_id", string), ("step_id", optionalString), ("correlation_id", string),
  ("event_type", choice agentRunEventTypes), ("previous_status", optionalString), ("new_status", optionalString),
  ("message", string), ("reason", string), ("actor", string), ("attempt_number", .optional int),
  ("input_evidence_hash", optionalString), ("output_evidence_hash", optionalString), ("metadata", .mapping),
  ("created_at", .moment)]

def agentRunFaultConfig : Shape := .record [
  ("id", string), ("run_id", optionalString), ("step_type", .optional (choice agentRunStepTypes)),
  ("fault_kind", choice agentRunFaultKinds), ("enabled", .flag), ("remaining_uses", .integer (some 0) (some 100)),
  ("message", string), ("created_by", string), ("created_at", .moment)]

def capabilityScope : Shape := .record [
  ("repository", .text none validateRepository), ("branch", .text none validateBranch),
  ("allowed_actions", .texts validateV1Actions), ("allowed_path_prefixes", normalizedStrings 100),
  ("allowed_commands", normalizedStrings 50), ("allowed_network_domains", normalizedStrings 20),
  ("max_runtime_seconds", .integer (some 1) (some 3600)), ("max_cost_usd", .amount (some 0) (some 10)),
  ("max_retries", .integer (some 0) (some 3)), ("max_pull_requests", .integer (some 0) (some 1)),
  ("allow_auto_merge", .flag), ("metadata", .mapping)]

def capabilityLease : Shape := .record [
  ("id", string), ("approval_request_id", string), ("approved_payload_hash", string), ("agent_id", optionalString),
  ("provider", choice agentProviders), ("mode", choice ["STRICT", "BOUNDED", "SUPERVISED"]), ("scope", capabilityScope),
  ("issued_by_user_id", string), ("required_reviewer_count", int), ("prevent_self_approval", .flag),
  ("status", choice ["ACTIVE", "EXPIRED", "REVOKED", "CONSUMED"]), ("issued_at", .moment), ("expires_at", .moment),
  ("revoked_at", optionalMoment), ("revoked_by_user_id", optionalString), ("revocation_reason", string),
  ("receipt_nonce", string), ("receipt_signature", string), ("consumed_pull_requests", int), ("consumed_retries", int),
  ("consumed_runtime_seconds", int), ("consumed_cost_usd", .amount none none), ("created_at", .moment),
  ("updated_at", .moment)]

def reviewerAttestation : Shape := .record [
  ("id", string), ("approval_request_id", string), ("approval_payload_hash", string), ("reviewer_user_id", string),
  ("reviewer_role", choice userRoles), ("decision", choice ["APPROVE", "DENY"]), ("reason", string),
  ("signature", string), ("created_at", .moment)]

def proposedAction : Shape := .record [
  ("id", string), ("lease_id", optionalString), ("provider", choice agentProviders), ("agent_id", optionalString),
  ("run_id", optionalString), ("task_id", optionalString), ("project_id", optionalString),
  ("action_type", choice capabilityActionTypes), ("repository", optionalString), ("branch", optionalString),
  ("paths", fewStrings 100), ("command", .optional (brief 4000)), ("network_domains", fewStrings 20),
  ("estimated_runtime_seconds", .integer (some 0) (some 3600)), ("estimated_cost_usd", .amount (some 0) (some 10)),
  ("retry_number", .integer (some 0) (some 3)), ("metadata", .mapping), ("created_at", .moment)]

def policyDecision : Shape := .record [
  ("id", string), ("proposed_action_id", string), ("lease_id", optionalString),
  ("decision", choice ["ALLOW", "REQUIRE_APPROVAL", "BLOCK"]), ("risk_level", choice riskLevels), ("reasons", strings),
  ("obligations", strings), ("evaluated_policy_version", string), ("evaluated_at", .moment)]

def actionAuthorization : Shape := .record [
  ("id", string), ("action_id", string), ("action_payload_hash", string), ("policy_decision_id", string),
  ("reviewer_user_id", string), ("reviewer_role", choice userRoles), ("decision", choice ["ALLOW", "BLOCK"]),
  ("reason", string), ("signature", string), ("created_at", .moment)]

def actionConsumption : Shape := .record [
  ("actual_runtime_seconds", .integer (some 0) (some 3600)), ("actual_cost_usd", .amount (some 0) (some 10)),
  ("pull_requests_created", .integer (some 0) (some 1)), ("retry_consumed", .flag),
  ("output_reference", .optional (brief 4000)), ("evidence", .mapping)]

def credentialGrant : Shape := .record [
  ("id", string), ("lease_id", string),
  ("grant_type", choice ["GITHUB_APP_INSTALLATION", "OIDC_FEDERATION", "INTERNAL_CAPABILITY_TOKEN"]),
  ("audience", string), ("subject", string), ("scope", fewStrings 50), ("issued_at", .moment), ("expires_at", .moment),
  ("revoked", .flag), ("revoked_at", optionalMoment), ("token_hash", string), ("metadata", .mapping)]

def trustEvent : Shape := .record [
  ("id", string), ("sequence", int), ("event_type", choice trustEventTypes), ("entity_type", string),
  ("entity_id", string), ("actor", string), ("correlation_id", optionalString), ("payload", .mapping),
  ("previous_hash", optionalString), ("event_hash", string), ("created_at", .moment)]

def project : Shape := .record [
  ("name", string), ("description", string),
  ("mode", choice ["STRICT", "MANUAL", "ASSISTED", "LOW_RISK_AUTO", "LOCKDOWN"]), ("rules", strings), ("id", string),
  ("created_at", .moment)]

def mcpChildServer : Shape := .record [
  ("project_id", string), ("name", string), ("description", string), ("transport", string), ("endpoint", string),
  ("enabled", .flag),
  ("tools", .list (.record [("name", string), ("description", string), ("input_schema", .mapping), ("mutating", .flag)])),
  ("id", string), ("created_at", .moment), ("updated_at", .moment)]

def idea : Shape := .record [
  ("project_id", optionalString), ("title", string), ("raw_text", string), ("id", string), ("created_at", .moment)]

def workOrder : Shape := .record [
  ("project_id", string), ("idea_id", optionalString), ("goal", string), ("context", string), ("tasks", strings),
  ("affected_areas", strings), ("required_tests", strings), ("rollback_plan", string), ("id", string),
  ("risk_level", choice riskLevels), ("source_type", choice ["MANUAL", "AGENT_TASK", "CONNECTOR", "MCP"]),
  ("source_provider", sourceProvider), ("source_agent_id", optionalString), ("source_agent_name", optionalString),
  ("source_task_id", optionalString), ("source_session_id", optionalString), ("created_by_user_id", optionalString),
  ("verified_source", .flag), ("created_at", .moment)]

def approvalRequest : Shape := .record [
  ("project_id", string), ("work_order_id", optionalString), ("title", string), ("summary", string),
  ("agent_name", string), ("target_branch", string),
  ("files", .list (.record [("path", string), ("change_type", string), ("diff", string), ("new_content", optionalString)])),
  ("test_plan", strings), ("rollback_plan", string), ("source_provider", sourceProvider),
  ("source_agent_id", optionalString), ("source_agent_name", optionalString), ("source_session_id", optionalString),
  ("source_task_url", optionalString), ("id", string), ("status", choice approvalStatuses),
  ("risk", .record [("level", choice riskLevels), ("reasons", strings), ("blocked", .flag), ("required_actions", strings)]),
  ("created_by_user_id", optionalString), ("verified_source", .flag), ("approved_payload_hash", optionalString),
  ("approved_at", optionalMoment), ("approved_by_user_id", optionalString), ("created_at", .moment),
  ("updated_at", .moment)]

def mcpPendingRequest : Shape := .record [
  ("id", string), ("project_id", string), ("approval_request_id", string), ("server_name", string),
  ("tool_name", string), ("arguments", .mapping), ("session_id", optionalString), ("requested_by", string),
  ("status", choice mcpPendingStatuses), ("attempts", int), ("max_attempts", int), ("lease_owner", optionalString),
  ("lease_expires_at", optionalMoment), ("last_error", optionalString), ("created_at", .moment),
  ("updated_at", .moment)]

def testRun : Shape := .record [
  ("approval_request_id", string), ("command", string), ("status", string), ("output_summary", string), ("id", string),
  ("created_at", .moment)]

def notification : Shape := .record [
  ("id", string), ("title", string), ("body", string), ("entity_type", string), ("entity_id", string),
  ("user_id", optionalString), ("status", choice ["UNREAD", "READ"]), ("push_status", string),
  ("push_error", optionalString), ("created_at", .moment)]

def auditEvent : Shape := .record [
  ("id", string), ("event_type", string), ("actor", string), ("entity_id", string), ("details", .mapping),
  ("created_at", .moment)]

end Models

/-- The collections that are kept as maps, in the order in which they are written. -/
inductive EntityType where
  | user | session | invite | externalAgent | externalAgentCredential | agentConnector | deviceRegistration | agentTask
  | agentTaskEvent | agentRun | agentRunStep | agentRunEvent | agentRunFault | capabilityLease | reviewerAttestation
  | proposedAction | policyDecision | actionAuthorization | actionConsumption | credentialGrant | trustEvent | project
  | mcpChildServer | idea | workOrder | approvalRequest | mcpPendingRequest | testRun | notification
  deriving DecidableEq, Repr

namespace EntityType

def all : List EntityType :=
  [.user, .session, .invite, .externalAgent, .externalAgentCredential, .agentConnector, .deviceRegistration, .agentTask,
    .agentTaskEvent, .agentRun, .agentRunStep, .agentRunEvent, .agentRunFault, .capabilityLease, .reviewerAttestation,
    .proposedAction, .policyDecision, .actionAuthorization, .actionConsumption, .credentialGrant, .trustEvent, .project,
    .mcpChildServer, .idea, .workOrder, .approvalRequest, .mcpPendingRequest, .testRun, .notification]

/-- The name under which the rows of a collection are stored. -/
def value : EntityType → String
  | .user => "user"
  | .session => "session"
  | .invite => "invite"
  | .externalAgent => "external_agent"
  | .externalAgentCredential => "external_agent_credential"
  | .agentConnector => "agent_connector"
  | .deviceRegistration => "device_registration"
  | .agentTask => "agent_task"
  | .agentTaskEvent => "agent_task_event"
  | .agentRun => "agent_run"
  | .agentRunStep => "agent_run_step"
  | .agentRunEvent => "agent_run_event"
  | .agentRunFault => "agent_run_fault"
  | .capabilityLease => "capability_lease"
  | .reviewerAttestation => "reviewer_attestation"
  | .proposedAction => "proposed_action"
  | .policyDecision => "policy_decision"
  | .actionAuthorization => "action_authorization"
  | .actionConsumption => "action_consumption"
  | .credentialGrant => "credential_grant"
  | .trustEvent => "trust_event"
  | .project => "project"
  | .mcpChildServer => "mcp_child_server"
  | .idea => "idea"
  | .workOrder => "work_order"
  | .approvalRequest => "approval_request"
  | .mcpPendingRequest => "mcp_pending_request"
  | .testRun => "test_run"
  | .notification => "notification"

def model : EntityType → Shape
  | .user => Durable.user
  | .session => sessionToken
  | .invite => Durable.invite
  | .externalAgent => Durable.externalAgent
  | .externalAgentCredential => agentCredentialRecord
  | .agentConnector => Durable.agentConnector
  | .deviceRegistration => Durable.deviceRegistration
  | .agentTask => Durable.agentTask
  | .agentTaskEvent => Durable.agentTaskEvent
  | .agentRun => Durable.agentRun
  | .agentRunStep => Durable.agentRunStep
  | .agentRunEvent => Durable.agentRunEvent
  | .agentRunFault => agentRunFaultConfig
  | .capabilityLease => Durable.capabilityLease
  | .reviewerAttestation => Durable.reviewerAttestation
  | .proposedAction => Durable.proposedAction
  | .policyDecision => Durable.policyDecision
  | .actionAuthorization => Durable.actionAuthorization
  | .actionConsumption => Durable.actionConsumption
  | .credentialGrant => Durable.credentialGrant
  | .trustEvent => Durable.trustEvent
  | .project => Durable.project
  | .mcpChildServer => Durable.mcpChildServer
  | .idea => Durable.idea
  | .workOrder => Durable.workOrder
  | .approvalRequest => Durable.approvalRequest
  | .mcpPendingRequest => Durable.mcpPendingRequest
  | .testRun => Durable.testRun
  | .notification => Durable.notification

theorem mem_all (kind : EntityType) : kind ∈ all := by cases kind <;> decide

theorem value_injective {kind other : EntityType} (same : kind.value = other.value) : kind = other := by
  have apart : ∀ kind ∈ all, ∀ other ∈ all, kind.value = other.value → kind = other := by decide +kernel
  exact apart kind (mem_all kind) other (mem_all other) same

theorem value_ne_audit (kind : EntityType) : kind.value ≠ "audit_event" := by
  have apart : ∀ kind ∈ all, kind.value ≠ "audit_event" := by decide +kernel
  exact apart kind (mem_all kind)

theorem model_distinctNames (kind : EntityType) : kind.model.distinctNames = true := by
  have distinct : ∀ kind ∈ all, kind.model.distinctNames = true := by decide +kernel
  exact distinct kind (mem_all kind)

end EntityType

theorem auditEvent_distinctNames : auditEvent.distinctNames = true := by decide +kernel

end ControlTower.Durable
