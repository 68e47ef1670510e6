import ControlTower.Foundation.Table
import ControlTower.Foundation.Text
import ControlTower.Runtime

/-! The shared records: users, agents, approval requests and agent tasks, with
the approval payload that a decision freezes. -/

set_option autoImplicit false

namespace ControlTower

open Foundation
open Foundation.Procedure (demand found onlyIf)

inductive RiskLevel where
  | low | medium | high | critical | blocked
  deriving DecidableEq, Repr

def RiskLevel.value : RiskLevel → String
  | .low => "LOW"
  | .medium => "MEDIUM"
  | .high => "HIGH"
  | .critical => "CRITICAL"
  | .blocked => "BLOCKED"

inductive ApprovalStatus where
  | requested | approved | denied | expired | executing | readyForPr | failed | merged | cancelled
  | pendingReview | rejected | revisionRequested | blocked | applied
  | testsRunning | testsPassed | testsFailed
  deriving DecidableEq, Repr

def ApprovalStatus.value : ApprovalStatus → String
  | .requested => "REQUESTED"
  | .approved => "APPROVED"
  | .denied => "DENIED"
  | .expired => "EXPIRED"
  | .executing => "EXECUTING"
  | .readyForPr => "READY_FOR_PR"
  | .failed => "FAILED"
  | .merged => "MERGED"
  | .cancelled => "CANCELLED"
  | .pendingReview => "PENDING_REVIEW"
  | .rejected => "REJECTED"
  | .revisionRequested => "REVISION_REQUESTED"
  | .blocked => "BLOCKED"
  | .applied => "APPLIED"
  | .testsRunning => "TESTS_RUNNING"
  | .testsPassed => "TESTS_PASSED"
  | .testsFailed => "TESTS_FAILED"

inductive UserRole where
  | owner | maintainer | reviewer
  deriving DecidableEq, Repr

def UserRole.value : UserRole → String
  | .owner => "OWNER"
  | .maintainer => "MAINTAINER"
  | .reviewer => "REVIEWER"

inductive AgentProvider where
  | codex | chatgpt | claude | cursor | githubActions | manual | other
  deriving DecidableEq, Repr

def AgentProvider.value : AgentProvider → String
  | .codex => "CODEX"
  | .chatgpt => "CHATGPT"
  | .claude => "CLAUDE"
  | .cursor => "CURSOR"
  | .githubActions => "GITHUB_ACTIONS"
  | .manual => "MANUAL"
  | .other => "OTHER"

inductive AgentAction where
  | createApproval | createWorkOrder | createAgentTask | appendAgentTaskEvent | readAgentTask
  | executeGithub
  deriving DecidableEq, Repr

def AgentAction.value : AgentAction → String
  | .createApproval => "CREATE_APPROVAL"
  | .createWorkOrder => "CREATE_WORK_ORDER"
  | .createAgentTask => "CREATE_AGENT_TASK"
  | .appendAgentTaskEvent => "APPEND_AGENT_TASK_EVENT"
  | .readAgentTask => "READ_AGENT_TASK"
  | .executeGithub => "EXECUTE_GITHUB"

structure AuthUser where
  id : String
  email : String
  role : UserRole
  deriving DecidableEq

structure ExternalAgent where
  id : String
  provider : AgentProvider
  displayName : String
  allowedProjectIds : List String
  allowedRepositories : List String
  allowedActions : List AgentAction
  deriving DecidableEq

/-- `value and value not in allowed`, where an empty list allows everything. -/
def outsideAllowList (value : Option String) (allowed : List String) : Bool :=
  match value with
  | some name => name != "" && !allowed.isEmpty && !allowed.contains name
  | none => false

def assertAgentCan {σ : Type} (agent : ExternalAgent) (action : AgentAction)
    (projectId repositoryFullName : Option String) : Procedure σ Raised Unit := do
  demand (agent.allowedActions.contains action = true)
    (.http 403 s!"Agent is not allowed to perform {action.value}")
  demand (outsideAllowList projectId agent.allowedProjectIds = false)
    (.http 403 "Agent is not allowed for this project")
  demand (outsideAllowList repositoryFullName agent.allowedRepositories = false)
    (.http 403 "Agent is not allowed for this repository")

structure FileChange where
  path : String
  changeType : String
  diff : String
  newContent : Option String
  deriving DecidableEq

structure RiskAssessment where
  level : RiskLevel
  reasons : List String
  blocked : Bool
  requiredActions : List String
  deriving DecidableEq

structure ApprovalRequestCreate where
  projectId : String
  workOrderId : Option String
  title : String
  summary : String
  agentName : String
  targetBranch : String
  files : List FileChange
  testPlan : List String
  rollbackPlan : String
  sourceProvider : Option AgentProvider
  sourceAgentId : Option String
  sourceAgentName : Option String
  sourceSessionId : Option String
  sourceTaskUrl : Option String
  deriving DecidableEq

structure ApprovalRequest where
  id : String
  projectId : String
  workOrderId : Option String
  title : String
  summary : String
  agentName : String
  targetBranch : String
  files : List FileChange
  testPlan : List String
  rollbackPlan : String
  status : ApprovalStatus
  risk : RiskAssessment
  sourceProvider : AgentProvider
  sourceAgentId : Option String
  sourceAgentName : Option String
  sourceSessionId : Option String
  sourceTaskUrl : Option String
  createdByUserId : Option String
  approvedPayloadHash : Option String
  approvedAt : Option Instant
  approvedByUserId : Option String
  createdAt : Instant
  updatedAt : Instant
  deriving DecidableEq

/-- Approvals are stored under their own identifiers. -/
def Filed (approvals : Table String ApprovalRequest) : Prop :=
  ∀ approvalId approval, approvals.get? approvalId = some approval → approval.id = approvalId

def FileChange.snapshot (file : FileChange) : Document :=
  .object [("change_type", .text file.changeType), ("diff", .text file.diff),
    ("new_content", .ofText file.newContent), ("path", .text file.path)]

def approvalPayloadSnapshot (approval : ApprovalRequest) : Document :=
  .object [
    ("agent_name", .text approval.agentName),
    ("files", .list (approval.files.map FileChange.snapshot)),
    ("project_id", .text approval.projectId),
    ("rollback_plan", .text approval.rollbackPlan),
    ("source_agent_id", .ofText approval.sourceAgentId),
    ("source_agent_name", .ofText approval.sourceAgentName),
    ("source_provider", .text approval.sourceProvider.value),
    ("source_session_id", .ofText approval.sourceSessionId),
    ("source_task_url", .ofText approval.sourceTaskUrl),
    ("summary", .text approval.summary),
    ("target_branch", .text approval.targetBranch),
    ("test_plan", .ofTexts approval.testPlan),
    ("title", .text approval.title),
    ("work_order_id", .ofText approval.workOrderId)]

def computeApprovalPayloadHash (runtime : Runtime) (approval : ApprovalRequest) : String :=
  "sha256:" ++ runtime.sha256Hex (approvalPayloadSnapshot approval)

inductive AgentTaskStatus where
  | received | planning | waitingForApproval | approved | denied | executing | testing | readyForPr
  | failed | cancelled | done
  deriving DecidableEq, Repr

def AgentTaskStatus.value : AgentTaskStatus → String
  | .received => "RECEIVED"
  | .planning => "PLANNING"
  | .waitingForApproval => "WAITING_FOR_APPROVAL"
  | .approved => "APPROVED"
  | .denied => "DENIED"
  | .executing => "EXECUTING"
  | .testing => "TESTING"
  | .readyForPr => "READY_FOR_PR"
  | .failed => "FAILED"
  | .cancelled => "CANCELLED"
  | .done => "DONE"

structure AgentTask where
  id : String
  provider : AgentProvider
  projectId : Option String
  title : String
  goal : String
  sourceUrl : Option String
  sourceSessionId : Option String
  sourceTaskId : Option String
  repository : Option String
  branchPreference : Option String
  status : AgentTaskStatus
  externalAgentId : Option String
  externalAgentName : Option String
  approvalRequestId : Option String
  workerLeaseOwner : Option String
  workerLeaseExpiresAt : Option Instant
  workerLeaseToken : Option String
  createdAt : Instant
  updatedAt : Instant
  deriving DecidableEq

end ControlTower
