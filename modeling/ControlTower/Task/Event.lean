import ControlTower.Models

/-! The events of agent tasks. -/

set_option autoImplicit false

namespace ControlTower

open Foundation

inductive AgentTaskEventType where
  | taskCreated | planReceived | approvalCreated | approved | denied | executionStarted | testsStarted
  | testsPassed | testsFailed | prCreated | resultReady | failed | cancelled | done | note
  deriving DecidableEq, Repr

def AgentTaskEventType.value : AgentTaskEventType → String
  | .taskCreated => "TASK_CREATED"
  | .planReceived => "PLAN_RECEIVED"
  | .approvalCreated => "APPROVAL_CREATED"
  | .approved => "APPROVED"
  | .denied => "DENIED"
  | .executionStarted => "EXECUTION_STARTED"
  | .testsStarted => "TESTS_STARTED"
  | .testsPassed => "TESTS_PASSED"
  | .testsFailed => "TESTS_FAILED"
  | .prCreated => "PR_CREATED"
  | .resultReady => "RESULT_READY"
  | .failed => "FAILED"
  | .cancelled => "CANCELLED"
  | .done => "DONE"
  | .note => "NOTE"

structure AgentTaskEvent where
  id : String
  taskId : String
  eventType : AgentTaskEventType
  message : String
  status : Option AgentTaskStatus
  actor : String
  metadata : List (String × Document)
  createdAt : Instant
  deriving DecidableEq

end ControlTower
