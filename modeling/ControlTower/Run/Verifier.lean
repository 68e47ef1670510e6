import ControlTower.Run.Model

/-! Classification of executor outcomes into verification decisions. -/

set_option autoImplicit false

namespace ControlTower

open Foundation

inductive AgentRunFaultKind where
  | workerCrash | githubTimeout | duplicateCallback | lostAcknowledgement | validationTimeout
  | invalidAgentOutput | staleLease | databaseDisconnect | containerFailure | forbiddenFileMutation
  deriving DecidableEq, Repr

def AgentRunFaultKind.value : AgentRunFaultKind → String
  | .workerCrash => "WORKER_CRASH"
  | .githubTimeout => "GITHUB_TIMEOUT"
  | .duplicateCallback => "DUPLICATE_CALLBACK"
  | .lostAcknowledgement => "LOST_ACKNOWLEDGEMENT"
  | .validationTimeout => "VALIDATION_TIMEOUT"
  | .invalidAgentOutput => "INVALID_AGENT_OUTPUT"
  | .staleLease => "STALE_LEASE"
  | .databaseDisconnect => "DATABASE_DISCONNECT"
  | .containerFailure => "CONTAINER_FAILURE"
  | .forbiddenFileMutation => "FORBIDDEN_FILE_MUTATION"

def defaultFaultReason : AgentRunFaultKind → String
  | .workerCrash => "Worker lost during execution; lease expired."
  | .githubTimeout => "GitHub request timed out temporarily."
  | .duplicateCallback => "Duplicate callback delivered for the same idempotency key."
  | .lostAcknowledgement =>
      "Lost acknowledgement after a possible side effect; manual reconciliation required."
  | .validationTimeout => "Validation timed out."
  | .invalidAgentOutput => "Invalid agent output requires revision."
  | .staleLease => "Worker lease expired before completion."
  | .databaseDisconnect => "Database connection temporarily unavailable."
  | .containerFailure => "Container startup temporarily unavailable."
  | .forbiddenFileMutation => "Forbidden file mutation outside approved scope."

def transientMarkers : List String :=
  ["timeout", "timed out", "temporarily unavailable", "connection reset", "connection refused",
    "rate limit", "http 429", "http 500", "http 502", "http 503", "http 504", "worker lost",
    "lease expired", "container startup"]

def policyBlockMarkers : List String :=
  ["protected branch", "direct main", "branch must not be main", "secret", "credential",
    "approval signature", "approved payload hash", "outside approved scope", "forbidden file",
    "unapproved mutation"]

def revisionMarkers : List String :=
  ["tests failed", "validation failed", "objective incomplete", "scope change", "additional files",
    "patch does not match", "regression"]

def humanMarkers : List String :=
  ["needs human", "manual review", "ambiguous", "conflicting payload", "already exists",
    "lost acknowledgement"]

def containsAny (runtime : Runtime) (reason : String) (markers : List String) : Bool :=
  markers.any (Text.contains (runtime.lower reason))

/-- The fields of an evidence object; absent evidence is the empty object. -/
def evidenceFields (evidence : Document) : List (String × Document) :=
  match evidence with
  | .object fields => fields
  | _ => []

def failureDecision (runtime : Runtime) (reason : String) : VerificationDecision :=
  if containsAny runtime reason policyBlockMarkers then .blockPolicy
  else if containsAny runtime reason revisionMarkers then .needsRevision
  else if containsAny runtime reason humanMarkers then .needsHuman
  else if containsAny runtime reason transientMarkers then .retryTransient
  else .failPermanent

def classifyExecutionResult (runtime : Runtime) (success : Bool) (reason : String) (evidence : Document)
    (duplicateSafe : Bool) : AgentRunStepExecutionResult :=
  if success then
    { success := true, decision := .pass, reason := Text.orElse reason "Execution contract passed."
      evidence, outputReference := none }
  else if duplicateSafe && containsAny runtime reason ["already exists", "duplicate", "already applied"] then
    { success := true, decision := .pass
      reason :=
        "Duplicate delivery matched previously verified side effects and was treated as idempotent."
      evidence := .object (Document.setField "original_reason" (.text reason)
        (Document.setField "duplicate_safe" (.flag true) (evidenceFields evidence)))
      outputReference := none }
  else
    { success := false, decision := failureDecision runtime reason
      reason := Text.orElse reason "Execution contract failed without a reason."
      evidence, outputReference := none }

/-- What the executor call of one attempt did. Sealing evidence also writes the
final evidence hash of the run. -/
inductive ExecutorOutcome where
  | returned (result : AgentRunStepExecutionResult) (finalEvidenceHash : Option String)
  | raised (exceptionType reason : String)
  | faultInjected (faultKind : AgentRunFaultKind) (message : String)
  /-- The worker process ended; nothing after the call happens. -/
  | crashed

/-- The result the supervisor applies, if the call came back. -/
def ExecutorOutcome.result (runtime : Runtime) : ExecutorOutcome → Option AgentRunStepExecutionResult
  | .returned result _ => some result
  | .raised exceptionType reason =>
      some (classifyExecutionResult runtime false reason
        (.object [("exception_type", .text exceptionType)]) false)
  | .faultInjected faultKind message =>
      some (classifyExecutionResult runtime false (Text.orElse message (defaultFaultReason faultKind))
        (.object [("fault_kind", .text faultKind.value)]) false)
  | .crashed => none

end ControlTower
