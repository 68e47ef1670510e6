import ControlTower.Run.Model

/-! The transition tables of runs and steps, the two guarded transitions, and
the reference derivation of a run status from its steps. -/

set_option autoImplicit false

namespace ControlTower

open Foundation

def AgentRunStatus.isTerminal : AgentRunStatus → Bool
  | .blocked | .succeeded | .failed | .cancelled => true
  | _ => false

def AgentRunStepStatus.isTerminal : AgentRunStepStatus → Bool
  | .blocked | .succeeded | .failed | .cancelled | .skipped => true
  | _ => false

@[simp] theorem AgentRunStatus.isTerminal_each :
    (isTerminal .scheduled = false ∧ isTerminal .running = false ∧ isTerminal .evaluating = false ∧
      isTerminal .retryWait = false ∧ isTerminal .paused = false ∧ isTerminal .needsHuman = false) ∧
    isTerminal .blocked = true ∧ isTerminal .succeeded = true ∧ isTerminal .failed = true ∧
      isTerminal .cancelled = true := by decide

def runTransitions : AgentRunStatus → List AgentRunStatus
  | .scheduled => [.running, .paused, .needsHuman, .cancelled, .blocked, .failed]
  | .running => [.scheduled, .evaluating, .retryWait, .paused, .needsHuman, .blocked, .succeeded,
      .failed, .cancelled]
  | .evaluating => [.running, .retryWait, .needsHuman, .blocked, .succeeded, .failed, .cancelled]
  | .retryWait => [.scheduled, .running, .paused, .needsHuman, .blocked, .failed, .cancelled]
  | .paused => [.scheduled, .running, .cancelled]
  | .needsHuman => [.scheduled, .running, .blocked, .failed, .cancelled]
  | .blocked | .succeeded | .failed | .cancelled => []

def stepTransitions : AgentRunStepStatus → List AgentRunStepStatus
  | .pending => [.ready, .paused, .needsHuman, .blocked, .cancelled, .skipped]
  | .ready => [.running, .paused, .needsHuman, .blocked, .cancelled, .skipped]
  | .running => [.succeeded, .retryWait, .needsHuman, .blocked, .failed, .cancelled]
  | .retryWait => [.ready, .needsHuman, .blocked, .failed, .cancelled]
  | .paused => [.ready, .cancelled]
  | .needsHuman => [.ready, .blocked, .failed, .cancelled]
  | .blocked | .succeeded | .failed | .cancelled | .skipped => []

def canTransitionRun (current target : AgentRunStatus) : Bool :=
  target == current || (runTransitions current).contains target

def canTransitionStep (current target : AgentRunStepStatus) : Bool :=
  target == current || (stepTransitions current).contains target

/-- The run after a permitted move to another status. -/
def AgentRun.moved (run : AgentRun) (target : AgentRunStatus) (now : Instant) (reason : String) : AgentRun :=
  { run with
    status := target
    updatedAt := now
    startedAt := if target = .running ∧ run.startedAt = none then some now else run.startedAt
    completedAt := if target.isTerminal then some now else run.completedAt
    leaseOwner := if target.isTerminal then none else run.leaseOwner
    leaseToken := if target.isTerminal then none else run.leaseToken
    leaseExpiresAt := if target.isTerminal then none else run.leaseExpiresAt
    lastError := if reason ≠ "" ∧ (target = .failed ∨ target = .blocked) then some reason else run.lastError }

/-- The step after a permitted move to another status. -/
def AgentRunStep.moved (step : AgentRunStep) (target : AgentRunStepStatus) (now : Instant)
    (reason : String) : AgentRunStep :=
  let startedAt := if target = .running ∧ step.startedAt = none then some now else step.startedAt
  { step with
    status := target
    updatedAt := now
    startedAt
    attemptCount := if target = .running then step.attemptCount + 1 else step.attemptCount
    completedAt := if target.isTerminal then some now else step.completedAt
    durationMs := if target.isTerminal then
        match startedAt with
        | some started => some ((now - started) / 1000)
        | none => step.durationMs
      else step.durationMs
    leaseOwner := if target.isTerminal then none else step.leaseOwner
    leaseToken := if target.isTerminal then none else step.leaseToken
    leaseExpiresAt := if target.isTerminal then none else step.leaseExpiresAt
    reason := if reason ≠ "" then reason else step.reason
    lastError := if reason ≠ "" ∧ (target = .failed ∨ target = .blocked) then some reason
      else step.lastError }

section Moved

variable (run : AgentRun) (step : AgentRunStep) (goal : AgentRunStatus) (target : AgentRunStepStatus)
  (now : Instant) (reason : String)

@[simp] theorem AgentRun.moved_status : (run.moved goal now reason).status = goal := rfl
@[simp] theorem AgentRun.moved_id : (run.moved goal now reason).id = run.id := rfl
@[simp] theorem AgentRun.moved_currentStepId :
    (run.moved goal now reason).currentStepId = run.currentStepId := rfl
@[simp] theorem AgentRun.moved_pauseRequested :
    (run.moved goal now reason).pauseRequested = run.pauseRequested := rfl
@[simp] theorem AgentRun.moved_cancelRequested :
    (run.moved goal now reason).cancelRequested = run.cancelRequested := rfl
@[simp] theorem AgentRunStep.moved_status : (step.moved target now reason).status = target := rfl
@[simp] theorem AgentRunStep.moved_id : (step.moved target now reason).id = step.id := rfl
@[simp] theorem AgentRunStep.moved_maxAttempts :
    (step.moved target now reason).maxAttempts = step.maxAttempts := rfl
@[simp] theorem AgentRunStep.moved_attemptCount :
    (step.moved target now reason).attemptCount =
      if target = .running then step.attemptCount + 1 else step.attemptCount := rfl

end Moved

/-- The status that a run should have, derived from its steps. -/
def deriveRunStatus (steps : List AgentRunStep) (pauseRequested cancelRequested : Bool) : AgentRunStatus :=
  if cancelRequested then .cancelled
  else if steps.any (·.status == .blocked) then .blocked
  else if steps.any (·.status == .needsHuman) then .needsHuman
  else if steps.any (·.status == .failed) then .failed
  else if pauseRequested || steps.any (·.status == .paused) then .paused
  else if !steps.isEmpty && steps.all (fun step => step.status == .succeeded || step.status == .skipped) then
    .succeeded
  else if steps.any (·.status == .retryWait) then .retryWait
  else if steps.any (·.status == .running) then .running
  else .scheduled

/-- Terminal run statuses have no way out. -/
theorem terminal_run_stuck (current target : AgentRunStatus) (terminal : current.isTerminal = true) :
    canTransitionRun current target = true ↔ target = current := by
  cases current <;> simp_all [AgentRunStatus.isTerminal, canTransitionRun, runTransitions]

/-- Terminal step statuses have no way out. -/
theorem terminal_step_stuck (current target : AgentRunStepStatus) (terminal : current.isTerminal = true) :
    canTransitionStep current target = true ↔ target = current := by
  cases current <;> simp_all [AgentRunStepStatus.isTerminal, canTransitionStep, stepTransitions]

end ControlTower
