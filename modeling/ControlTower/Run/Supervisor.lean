import ControlTower.Foundation.Selection
import ControlTower.Run.Transition
import ControlTower.Run.Verifier

/-! The supervisor of durable runs: worker leases, the execution of one step,
the watchdog, and the operator controls. -/

set_option autoImplicit false

namespace ControlTower

open Foundation
open Foundation.Procedure (demand found onlyIf)

/-- The holder of a lease that has not expired, if there is one. -/
def AgentRun.leaseHeld (run : AgentRun) (now : Instant) : Bool :=
  Text.present run.leaseOwner && run.leaseExpiresAt.any fun expires => now < expires

def acquireRunLease (runtime : Runtime) (workerId : String) (leaseSeconds : Nat) : RunProcedure String := do
  let now ← readClock runtime
  let run := (← Procedure.state).run
  demand (run.leaseHeld now = true → run.leaseOwner = some workerId)
    (.agentRunConflict ("Run is leased by " ++ run.leaseOwner.getD "" ++ " until " ++
      runtime.isoformat (run.leaseExpiresAt.getD 0) ++ "."))
  if run.leaseHeld now = true ∧ Text.present run.leaseToken = true then pure (run.leaseToken.getD "")
  else do
    let token ← drawSecret runtime
    RunScope.modifyRun fun run =>
      { run with
        leaseOwner := some workerId
        leaseToken := some token
        heartbeatAt := some now
        leaseExpiresAt := some (now.plusSeconds leaseSeconds)
        updatedAt := now }
    pure token

def AgentRun.extended (run : AgentRun) (now : Instant) (leaseSeconds : Nat) : AgentRun :=
  { run with heartbeatAt := some now, leaseExpiresAt := some (now.plusSeconds leaseSeconds), updatedAt := now }

def AgentRunStep.extended (step : AgentRunStep) (now : Instant) (leaseSeconds : Nat) : AgentRunStep :=
  { step with heartbeatAt := some now, leaseExpiresAt := some (now.plusSeconds leaseSeconds), updatedAt := now }

def heartbeatRun (runtime : Runtime) (workerId leaseToken : String) (leaseSeconds : Nat) :
    RunProcedure Unit := do
  let scope ← Procedure.state
  demand (scope.run.leaseOwner = some workerId ∧ scope.run.leaseToken = some leaseToken)
    (.agentRunConflict "Run heartbeat rejected because lease owner or token does not match.")
  let now ← readClock runtime
  RunScope.modifyRun fun run => run.extended now leaseSeconds
  atCurrentStep (do
    let current := (← Procedure.state).step
    onlyIf (current.leaseOwner = some workerId ∧ current.leaseToken = some leaseToken)
      (modifyStep fun step => step.extended now leaseSeconds))

def AgentRun.withoutLease (run : AgentRun) : AgentRun :=
  { run with leaseOwner := none, leaseToken := none, leaseExpiresAt := none }

def AgentRunStep.withoutLease (step : AgentRunStep) : AgentRunStep :=
  { step with leaseOwner := none, leaseToken := none, leaseExpiresAt := none }

def releaseRunLease (runtime : Runtime) (leaseToken : String) : RunProcedure Unit := do
  let run := (← Procedure.state).run
  if leaseToken ≠ "" ∧ run.leaseToken ≠ some leaseToken then pure ()
  else do
    let now ← readClock runtime
    RunScope.modifyRun fun run => { run.withoutLease with updatedAt := now }

/-- Whether the backoff of a step is over. -/
def AgentRunStep.backoffElapsed (step : AgentRunStep) (now : Instant) : Bool :=
  step.status == .retryWait && step.nextRetryAt.any fun retryAt => retryAt ≤ now

/-- The first step that has not passed, when it is ready or its backoff is over. -/
def readyStepAmong (runtime : Runtime) (now : Instant) :
    List AgentRunStep → RunProcedure (Option AgentRunStep)
  | [] => pure none
  | step :: rest =>
      if step.backoffElapsed now = true then do
        let ready ← atStep step.id (returningStep (transitionStep runtime .ready "Retry backoff elapsed."))
        pure (some ready)
      else if step.status = .ready then pure (some step)
      else if step.status = .succeeded ∨ step.status = .skipped then readyStepAmong runtime now rest
      else pure none

def readyStep (runtime : Runtime) : RunProcedure (Option AgentRunStep) := do
  let now ← readClock runtime
  readyStepAmong runtime now (← Procedure.state).steps

/-- Make the step the current step of the run. -/
def pointAtStep : StepProcedure Unit :=
  .modify fun state => { state with
    run := { state.run with currentStepId := some state.step.id, currentStepIndex := state.step.sequence } }

def nextPendingStep (runtime : Runtime) (completed : AgentRunStep) : RunProcedure Bool := do
  let scope ← Procedure.state
  match scope.steps.find? fun step => decide (completed.sequence < step.sequence) && step.status == .pending with
  | none => pure false
  | some step => do
      atStep step.id (do
        transitionStep runtime .ready ""
        pointAtStep)
      pure true

/-- Write the verdict of an execution onto the step, before any transition. -/
def recordResult (runtime : Runtime) (result : AgentRunStepExecutionResult) : StepProcedure Unit := do
  let now ← readClock runtime
  modifyStep fun step =>
    { step with
      decision := some result.decision
      reason := result.reason
      evidence := result.evidence
      evidenceHash := some (runtime.sha256Hex result.evidence)
      outputReference := result.outputReference
      updatedAt := now }

/-- Move the step, then the run. The step keeps its move when the run refuses. -/
def transitionBoth (runtime : Runtime) (step : AgentRunStepStatus) (stepReason : String)
    (run : AgentRunStatus) (runReason : String) : StepProcedure Unit := do
  transitionStep runtime step stepReason
  transitionRun runtime run runReason

def retryDelaySeconds (attemptCount : Nat) : Nat := min 300 (2 ^ max 1 attemptCount)

/-- The verdicts other than `PASS`. -/
def applyFailure (runtime : Runtime) (result : AgentRunStepExecutionResult) : StepProcedure Unit := do
  let step := (← Procedure.state).step
  match result.decision with
  | .retryTransient =>
      if step.attemptCount < step.maxAttempts then do
        transitionStep runtime .retryWait result.reason
        let now ← readClock runtime
        modifyStep fun step =>
          { step with nextRetryAt := some (now.plusSeconds (retryDelaySeconds step.attemptCount)) }
        transitionRun runtime .retryWait result.reason
      else
        transitionBoth runtime .needsHuman ("Retry budget exhausted. " ++ result.reason)
          .needsHuman result.reason
  | .needsRevision | .needsHuman =>
      transitionBoth runtime .needsHuman result.reason .needsHuman result.reason
  | .blockPolicy => transitionBoth runtime .blocked result.reason .blocked result.reason
  | .pass | .failPermanent => transitionBoth runtime .failed result.reason .failed result.reason

/-- After a step has passed: go on to the next one, or end the run. -/
def advance (runtime : Runtime) (completed : AgentRunStep) : RunProcedure Unit := do
  let another ← nextPendingStep runtime completed
  if another then do
    let now ← readClock runtime
    RunScope.modifyRun fun run => { run with status := .running, updatedAt := now }
  else
    atStep completed.id (transitionRun runtime .succeeded "")

def applyExecutionResult (runtime : Runtime) (stepId : String) (result : AgentRunStepExecutionResult) :
    RunProcedure Unit :=
  if result.decision = .pass then do
    let completed ← atStep stepId (returningStep (do
      recordResult runtime result
      transitionStep runtime .succeeded result.reason))
    advance runtime completed
  else
    atStep stepId (do
      recordResult runtime result
      applyFailure runtime result)

/-- What the part of `execute_next_step` before the executor call comes to. -/
inductive Begun where
  /-- Answered without calling the executor. -/
  | answered (result : AgentRunStepExecutionResult)
  /-- The executor is called for this step under this lease token. -/
  | invoking (step : AgentRunStep) (leaseToken : String)

/-- Move the run without touching any step. -/
def transitionRunOf (runtime : Runtime) (target : AgentRunStatus) (reason : String) :
    RunProcedure Unit := do
  let run := (← Procedure.state).run
  if target = run.status then pure ()
  else do
    demand (canTransitionRun run.status target = true) (illegalRunTransition run.status target)
    let now ← readClock runtime
    RunScope.modifyRun fun run => run.moved target now reason

/-- Cancel a step that is not over. -/
def cancelStep (runtime : Runtime) (reason : String) (step : AgentRunStep) : RunProcedure Unit :=
  onlyIf (step.status.isTerminal = false) (atStep step.id (transitionStep runtime .cancelled reason))

def cancelSteps (runtime : Runtime) (reason : String) : RunProcedure Unit := do
  RunScope.modifyRun fun run => { run with cancelRequested := true }
  let scope ← Procedure.state
  Procedure.each (cancelStep runtime (Text.orElse reason "Run cancelled.")) scope.steps

def cancelAgentRun (runtime : Runtime) (reason : String) : RunProcedure Unit := do
  let scope ← Procedure.state
  if scope.run.status = .cancelled then pure ()
  else do
    demand (scope.run.status.isTerminal = false)
      (.agentRunConflict "Completed terminal run cannot be cancelled.")
    cancelSteps runtime reason
    transitionRunOf runtime .cancelled reason

/-- Start an attempt of the step under the lease of the run. -/
def startStep (runtime : Runtime) (workerId leaseToken : String) : StepProcedure Unit := do
  transitionStep runtime .running ""
  let now ← readClock runtime
  let state ← Procedure.state
  modifyStep fun step =>
    { step with
      leaseOwner := some workerId
      leaseToken := some leaseToken
      leaseExpiresAt := state.run.leaseExpiresAt
      heartbeatAt := some now }
  pointAtStep
  onlyIf (state.run.status = .scheduled ∨ state.run.status = .retryWait) (transitionRun runtime .running "")

/-- `execute_next_step` up to the executor call. -/
def beginExecution (runtime : Runtime) (workerId : String) (leaseSeconds : Nat) : RunProcedure Begun := do
  let run := (← Procedure.state).run
  demand (run.status.isTerminal = false)
    (.agentRunConflict s!"Terminal run cannot execute: {run.status.value}.")
  demand (run.pauseRequested = false ∧ run.status ≠ .paused)
    (.agentRunConflict "Paused run cannot execute until resumed.")
  if run.cancelRequested then do
    cancelAgentRun runtime "Cancellation was already requested."
    Procedure.raise (.agentRunConflict "Cancelled run cannot execute.")
  else do
    let leaseToken ← acquireRunLease runtime workerId leaseSeconds
    match ← readyStep runtime with
    | none => do
        releaseRunLease runtime leaseToken
        demand (run.status = .retryWait) (.agentRunConflict "No executable step is ready.")
        return .answered
          { success := false, decision := .retryTransient
            reason := "No step is ready because retry backoff has not elapsed."
            evidence := .object [], outputReference := none }
    | some step => do
        let started ← atStep step.id (returningStep (startStep runtime workerId leaseToken))
        return .invoking started leaseToken

/-- `execute_next_step` from the executor's answer on. -/
def finishExecution (runtime : Runtime) (stepId : String) (result : AgentRunStepExecutionResult) :
    RunProcedure Unit := do
  applyExecutionResult runtime stepId result
  atStep stepId (modifyStep AgentRunStep.withoutLease)
  let now ← readClock runtime
  RunScope.modifyRun fun run => { run.withoutLease with updatedAt := now }

def recoverRunningStep (runtime : Runtime) (now : Instant) : StepProcedure Unit := do
  modifyStep AgentRunStep.withoutLease
  let state ← Procedure.state
  if state.step.attemptCount < state.step.maxAttempts then do
    transitionStep runtime .retryWait "Worker lease expired."
    modifyStep fun step => { step with nextRetryAt := some now }
    onlyIf (state.run.status = .running) (transitionRun runtime .retryWait "Worker lease expired.")
  else do
    transitionStep runtime .needsHuman "Worker lease expired and retry budget is exhausted."
    onlyIf (state.run.status = .running ∨ state.run.status = .retryWait)
      (transitionRun runtime .needsHuman "Worker lease expired and retry budget is exhausted.")

/-- The watchdog on one run, at the instant its sweep read. The result says
whether an expired lease was found. -/
def recoverStaleLease (runtime : Runtime) (now : Instant) : RunProcedure Bool := do
  let run := (← Procedure.state).run
  if run.leaseExpiresAt.all fun expires => now < expires then pure false
  else do
    RunScope.modifyRun fun run => { run.withoutLease with heartbeatAt := none }
    atCurrentStep (do
      let current := (← Procedure.state).step
      onlyIf (current.status = .running) (recoverRunningStep runtime now))
    pure true

def pauseAgentRun (runtime : Runtime) (reason : String) : RunProcedure Unit := do
  let run := (← Procedure.state).run
  demand (run.status.isTerminal = false) (.agentRunConflict "Terminal run cannot be paused.")
  RunScope.modifyRun fun run => { run with pauseRequested := true }
  transitionRunOf runtime .paused reason

/-- The current step on its way back from a wait to `READY`. -/
def resumeStep (runtime : Runtime) (reason : String) : StepProcedure Unit := do
  let status := (← Procedure.state).step.status
  onlyIf (status = .paused ∨ status = .needsHuman ∨ status = .retryWait) (do
    transitionStep runtime .ready (Text.orElse reason "Operator resumed step.")
    modifyStep fun step => { step with nextRetryAt := none })

def resumeAgentRun (runtime : Runtime) (reason : String) : RunProcedure Unit := do
  let run := (← Procedure.state).run
  demand (run.status = .paused ∨ run.status = .needsHuman ∨ run.status = .retryWait)
    (.agentRunConflict s!"Run cannot resume from {run.status.value}.")
  RunScope.modifyRun fun run => { run with pauseRequested := false }
  atCurrentStep (resumeStep runtime reason)
  transitionRunOf runtime .scheduled reason

def retryAgentRunStep (runtime : Runtime) (reason : String) : StepProcedure Unit := do
  let state ← Procedure.state
  demand (state.step.runId = state.run.id) (.agentRunConflict "Step does not belong to run.")
  demand (state.step.status = .retryWait ∨ state.step.status = .needsHuman ∨ state.step.status = .failed)
    (.agentRunConflict s!"Step cannot be retried from {state.step.status.value}.")
  demand (state.step.attemptCount < state.step.maxAttempts)
    (.agentRunConflict "Step retry budget is exhausted.")
  modifyStep fun step => { step with status := if step.status = .failed then .needsHuman else step.status }
  transitionStep runtime .ready (Text.orElse reason "Operator approved retry.")
  modifyStep fun step => { step with nextRetryAt := none }
  pointAtStep
  modifyRun fun run => { run with pauseRequested := false }
  onlyIf (state.run.status = .needsHuman ∨ state.run.status = .retryWait)
    (transitionRun runtime .scheduled reason)

end ControlTower
