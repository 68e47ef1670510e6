import ControlTower.Run.StateMachine

/-! What the run service means for the control of a run, without times, texts
and evidence: one step has the focus, every step before it has passed, every
step behind it waits. A move may be refused after part of its effect. -/

set_option autoImplicit false

namespace ControlTower

open Foundation
open Foundation.Procedure (demand onlyIf)

/-- The fields of a step that no operation changes. -/
structure StepIdentity where
  id : String
  runId : String
  taskId : String
  sequence : Nat
  stepType : AgentRunStepType
  maxAttempts : Nat
  idempotencyKey : String
  createdAt : Instant
  deriving DecidableEq

def AgentRunStep.identity (step : AgentRunStep) : StepIdentity :=
  ⟨step.id, step.runId, step.taskId, step.sequence, step.stepType, step.maxAttempts, step.idempotencyKey,
    step.createdAt⟩

/-- The fields of a run that no supervisor operation changes. -/
structure RunBinding where
  id : String
  taskId : String
  approvalRequestId : Option String
  capabilityLeaseId : Option String
  projectId : Option String
  repository : Option String
  correlationId : String
  maxAttemptsPerStep : Nat
  deriving DecidableEq

def AgentRun.binding (run : AgentRun) : RunBinding :=
  ⟨run.id, run.taskId, run.approvalRequestId, run.capabilityLeaseId, run.projectId, run.repository,
    run.correlationId, run.maxAttemptsPerStep⟩

structure Course where
  binding : RunBinding
  run : AgentRunStatus
  pauseRequested : Bool
  cancelRequested : Bool
  pointer : Option String
  /-- The worker that holds the lease of the run. -/
  holder : Option String
  /-- The steps that have passed, with their attempts. -/
  behind : List (StepIdentity × Nat)
  focus : StepIdentity
  step : AgentRunStepStatus
  attempts : Nat
  waiting : List StepIdentity
  deriving DecidableEq

/-- The attempt budget of the focused step is used up. -/
def Course.Spent (course : Course) : Prop := course.focus.maxAttempts ≤ course.attempts

instance (course : Course) : Decidable course.Spent := by
  unfold Course.Spent
  infer_instance

abbrev Move := Procedure Course Unit Unit

namespace Move

def toRun (target : AgentRunStatus) : Move := do
  let course ← Procedure.state
  if target = course.run then pure ()
  else do
    demand (canTransitionRun course.run target = true) ()
    .modify fun course =>
      { course with run := target, holder := if target.isTerminal then none else course.holder }

def toStep (target : AgentRunStepStatus) : Move := do
  let course ← Procedure.state
  demand (canTransitionStep course.step target = true) ()
  .modify fun course =>
    { course with
      step := target
      attempts := if target = .running ∧ course.step ≠ .running then course.attempts + 1
        else course.attempts }

def point : Move := .modify fun course => { course with pointer := some course.focus.id }

def toBoth (step : AgentRunStepStatus) (run : AgentRunStatus) : Move := do
  toStep step
  toRun run

def allow : Move := do
  let course ← Procedure.state
  onlyIf (course.step = .needsHuman) (toStep .ready)
  onlyIf (course.run = .needsHuman) (toRun .scheduled)

def deny : Move := do
  let course ← Procedure.state
  onlyIf (course.step = .needsHuman) (toStep .blocked)
  onlyIf (course.run = .needsHuman) (toRun .blocked)

/-- A verdict on an action that names another step of the run. -/
def allowElsewhere : Move := do
  let course ← Procedure.state
  onlyIf (course.run = .needsHuman) (toRun .scheduled)

def denyElsewhere : Move := do
  let course ← Procedure.state
  onlyIf (course.run = .needsHuman) (toRun .blocked)

def pause : Move := do
  let course ← Procedure.state
  demand (course.run.isTerminal = false) ()
  .modify fun course => { course with pauseRequested := true }
  toRun .paused

def resumeStep : Move := do
  let course ← Procedure.state
  onlyIf (course.step = .paused ∨ course.step = .needsHuman ∨ course.step = .retryWait) (toStep .ready)

def resume : Move := do
  let course ← Procedure.state
  demand (course.run = .paused ∨ course.run = .needsHuman ∨ course.run = .retryWait) ()
  .modify fun course => { course with pauseRequested := false }
  resumeStep
  toRun .scheduled

def cancelSteps : Move := do
  let course ← Procedure.state
  .modify fun course => { course with cancelRequested := true }
  onlyIf (course.step.isTerminal = false) (toStep .cancelled)

def cancel : Move := do
  let course ← Procedure.state
  if course.run = .cancelled then pure ()
  else do
    demand (course.run.isTerminal = false) ()
    cancelSteps
    toRun .cancelled

def retry : Move := do
  let course ← Procedure.state
  demand (course.focus.runId = course.binding.id) ()
  demand (course.step = .retryWait ∨ course.step = .needsHuman ∨ course.step = .failed) ()
  demand (course.attempts < course.focus.maxAttempts) ()
  .modify fun course => { course with step := if course.step = .failed then .needsHuman else course.step }
  toStep .ready
  point
  .modify fun course => { course with pauseRequested := false }
  onlyIf (course.run = .needsHuman ∨ course.run = .retryWait) (toRun .scheduled)

def release : Move := .modify fun course => { course with holder := none }

/-- A running step loses its worker. -/
def recoverStep : Move := do
  let course ← Procedure.state
  if course.attempts < course.focus.maxAttempts then do
    toStep .retryWait
    onlyIf (course.run = .running) (toRun .retryWait)
  else do
    toStep .needsHuman
    onlyIf (course.run = .running ∨ course.run = .retryWait) (toRun .needsHuman)

/-- The watchdog finds the lease of the run expired. -/
def recover : Move := do
  release
  let course ← Procedure.state
  onlyIf (course.step = .running) recoverStep

/-- The focused step starts an attempt. -/
def start : Move := do
  toStep .running
  let course ← Procedure.state
  point
  onlyIf (course.run = .scheduled ∨ course.run = .retryWait) (toRun .running)

/-- A worker takes the lease of the run and starts the focused step. -/
def begin (workerId : String) : Move := do
  .modify fun course => { course with holder := some workerId }
  let course ← Procedure.state
  onlyIf (course.step = .retryWait) (toStep .ready)
  start

/-- The verdict of an attempt. -/
def settle (decision : VerificationDecision) : Move := do
  let course ← Procedure.state
  match decision with
  | .pass => do
      toStep .succeeded
      match course.waiting with
      | [] => toRun .succeeded
      | next :: rest =>
          .modify fun course =>
            { course with
              run := .running
              pointer := some next.id
              behind := course.behind ++ [(course.focus, course.attempts)]
              focus := next
              step := .ready
              attempts := 0
              waiting := rest }
  | .retryTransient =>
      if course.attempts < course.focus.maxAttempts then toBoth .retryWait .retryWait
      else toBoth .needsHuman .needsHuman
  | .needsRevision | .needsHuman => toBoth .needsHuman .needsHuman
  | .blockPolicy => toBoth .blocked .blocked
  | .failPermanent => toBoth .failed .failed

/-- The worker of an attempt brings its verdict and leaves. -/
def finish (decision : VerificationDecision) : Move := do
  settle decision
  release

/-- The run takes a capability lease. -/
def bind (leaseId : String) : Move :=
  .modify fun course => { course with binding.capabilityLeaseId := some leaseId }

/-- The two refusals of an authorization. -/
def hold : Move := toBoth .needsHuman .needsHuman
def block : Move := toBoth .blocked .blocked

end Move

/-- Where a move leads. -/
def Course.after (course : Course) (move : Move) : Course := (move.run course).2

/-- Whether a move is carried out to its end. -/
def Course.accepts (course : Course) (move : Move) : Bool := (move.run course).1.isOk

section Run

variable (course : Course)

/-- The course after a permitted change of the step status. -/
def Course.stepped (target : AgentRunStepStatus) : Course :=
  { course with
    step := target
    attempts := if target = .running ∧ course.step ≠ .running then course.attempts + 1 else course.attempts }

/-- The course after a permitted change of the run status. -/
def Course.ran (target : AgentRunStatus) : Course :=
  { course with
    run := target
    holder := if target ≠ course.run ∧ target.isTerminal = true then none else course.holder }

namespace Move

theorem run_toStep (target : AgentRunStepStatus) :
    (toStep target).run course =
      if canTransitionStep course.step target = true then (.ok (), course.stepped target)
      else (.error (), course) := by
  by_cases legal : canTransitionStep course.step target = true
  · simp [toStep, Procedure.run_bind, demand, legal, Course.stepped]
  · simp [toStep, Procedure.run_bind, demand, legal]

theorem run_toRun (target : AgentRunStatus) :
    (toRun target).run course =
      if canTransitionRun course.run target = true then (.ok (), course.ran target)
      else (.error (), course) := by
  by_cases same : target = course.run
  · subst same
    simp [toRun, Procedure.run_bind, canTransitionRun, Course.ran]
  · by_cases legal : canTransitionRun course.run target = true
    · simp [toRun, Procedure.run_bind, demand, legal, same, Course.ran]
    · simp [toRun, Procedure.run_bind, demand, legal, same]

theorem run_toBoth (step : AgentRunStepStatus) (run : AgentRunStatus) :
    (toBoth step run).run course =
      if canTransitionStep course.step step = true then
        if canTransitionRun course.run run = true then (.ok (), (course.stepped step).ran run)
        else (.error (), course.stepped step)
      else (.error (), course) := by
  by_cases legal : canTransitionStep course.step step = true
  · simp [toBoth, Procedure.run_bind, run_toStep, run_toRun, legal, Course.stepped]
  · simp [toBoth, Procedure.run_bind, run_toStep, legal]

theorem run_allow :
    allow.run course = (.ok (), { course with
      step := if course.step = .needsHuman then .ready else course.step
      run := if course.run = .needsHuman then .scheduled else course.run }) := by
  by_cases gate : course.step = .needsHuman <;> by_cases held : course.run = .needsHuman <;>
    simp [allow, Procedure.run_bind, onlyIf, gate, held, run_toStep, run_toRun, canTransitionStep,
      stepTransitions, canTransitionRun, runTransitions, Course.stepped, Course.ran]

theorem run_deny :
    deny.run course = (.ok (), { course with
      step := if course.step = .needsHuman then .blocked else course.step
      run := if course.run = .needsHuman then .blocked else course.run
      holder := if course.run = .needsHuman then none else course.holder }) := by
  by_cases gate : course.step = .needsHuman <;> by_cases held : course.run = .needsHuman <;>
    simp [deny, Procedure.run_bind, onlyIf, gate, held, run_toStep, run_toRun, canTransitionStep,
      stepTransitions, canTransitionRun, runTransitions, Course.stepped, Course.ran]

theorem run_allowElsewhere :
    allowElsewhere.run course = (.ok (), { course with
      run := if course.run = .needsHuman then .scheduled else course.run }) := by
  by_cases held : course.run = .needsHuman <;>
    simp [allowElsewhere, Procedure.run_bind, onlyIf, held, run_toRun, canTransitionRun, runTransitions,
      Course.ran]

theorem run_denyElsewhere :
    denyElsewhere.run course = (.ok (), { course with
      run := if course.run = .needsHuman then .blocked else course.run
      holder := if course.run = .needsHuman then none else course.holder }) := by
  by_cases held : course.run = .needsHuman <;>
    simp [denyElsewhere, Procedure.run_bind, onlyIf, held, run_toRun, canTransitionRun, runTransitions,
      Course.ran]

/-- The flag of a pause stays when the run refuses it. -/
theorem run_pause :
    pause.run course =
      if course.run.isTerminal = true then (.error (), course)
      else if canTransitionRun course.run .paused = true then
        (.ok (), { course with pauseRequested := true, run := .paused })
      else (.error (), { course with pauseRequested := true }) := by
  cases ended : course.run.isTerminal
  · by_cases legal : canTransitionRun course.run .paused = true <;>
      simp [pause, Procedure.run_bind, demand, ended, run_toRun, legal, Course.ran]
  · simp [pause, Procedure.run_bind, demand, ended]

theorem run_resume :
    resume.run course =
      if course.run = .paused ∨ course.run = .needsHuman ∨ course.run = .retryWait then
        (.ok (), { course with
          pauseRequested := false
          step := if course.step = .paused ∨ course.step = .needsHuman ∨ course.step = .retryWait then .ready
            else course.step
          run := .scheduled })
      else (.error (), course) := by
  by_cases waits : course.run = .paused ∨ course.run = .needsHuman ∨ course.run = .retryWait
  · have allowed : canTransitionRun course.run .scheduled = true := by
      rcases waits with waits | waits | waits <;> rw [waits] <;> rfl
    by_cases idle : course.step = .paused ∨ course.step = .needsHuman ∨ course.step = .retryWait
    · have legal : canTransitionStep course.step .ready = true := by
        rcases idle with idle | idle | idle <;> rw [idle] <;> rfl
      simp [resume, resumeStep, Procedure.run_bind, demand, waits, onlyIf, idle, run_toStep, legal, run_toRun,
        allowed, Course.stepped, Course.ran]
    · simp [resume, resumeStep, Procedure.run_bind, demand, waits, onlyIf, idle, run_toRun, allowed,
        Course.ran]
  · simp [resume, Procedure.run_bind, demand, waits]

theorem run_cancelSteps :
    cancelSteps.run course = (.ok (), { course with
      cancelRequested := true
      step := if course.step.isTerminal = true then course.step else .cancelled }) := by
  cases ended : course.step.isTerminal
  · have legal : canTransitionStep course.step .cancelled = true := by
      revert ended
      cases course.step <;> simp [AgentRunStepStatus.isTerminal, canTransitionStep, stepTransitions]
    simp [cancelSteps, Procedure.run_bind, onlyIf, ended, run_toStep, legal, Course.stepped]
  · simp [cancelSteps, Procedure.run_bind, onlyIf, ended]

theorem canTransitionRun_cancelled (status : AgentRunStatus) (active : status.isTerminal = false) :
    canTransitionRun status .cancelled = true := by
  cases status <;> first | rfl | simp [AgentRunStatus.isTerminal] at active

theorem run_cancel :
    cancel.run course =
      if course.run = .cancelled then (.ok (), course)
      else if course.run.isTerminal = true then (.error (), course)
      else (.ok (), { course with
        cancelRequested := true
        step := if course.step.isTerminal = true then course.step else .cancelled
        run := .cancelled
        holder := none }) := by
  by_cases already : course.run = .cancelled
  · simp [cancel, Procedure.run_bind, already]
  · cases ended : course.run.isTerminal
    · have allowed := canTransitionRun_cancelled course.run ended
      simp [cancel, Procedure.run_bind, already, demand, ended, run_cancelSteps, run_toRun, allowed, Course.ran,
        Ne.symm already]
    · simp [cancel, Procedure.run_bind, already, demand, ended]

theorem run_retry (owned : course.focus.runId = course.binding.id) :
    retry.run course =
      if (course.step = .retryWait ∨ course.step = .needsHuman ∨ course.step = .failed) ∧ ¬ course.Spent then
        (.ok (), { course with
          pauseRequested := false
          pointer := some course.focus.id
          step := .ready
          run := if course.run = .needsHuman ∨ course.run = .retryWait then .scheduled else course.run })
      else (.error (), course) := by
  by_cases waits : course.step = .retryWait ∨ course.step = .needsHuman ∨ course.step = .failed
  · by_cases left : course.attempts < course.focus.maxAttempts
    · have unspent : ¬ course.Spent := Nat.not_le.mpr left
      have legal : canTransitionStep (if course.step = .failed then .needsHuman else course.step) .ready = true := by
        rcases waits with waits | waits | waits <;> rw [waits] <;> rfl
      by_cases held : course.run = .needsHuman ∨ course.run = .retryWait
      · have allowed : canTransitionRun course.run .scheduled = true := by
          rcases held with held | held <;> rw [held] <;> rfl
        simp [retry, Procedure.run_bind, demand, owned, waits, left, unspent, run_toStep, legal, Course.stepped,
          point, onlyIf, held, run_toRun, allowed, Course.ran]
      · simp [retry, Procedure.run_bind, demand, owned, waits, left, unspent, run_toStep, legal, Course.stepped,
          point, onlyIf, held]
    · have spent : course.Spent := Nat.not_lt.mp left
      simp [retry, Procedure.run_bind, demand, owned, waits, left, spent]
  · simp [retry, Procedure.run_bind, demand, owned, waits]

theorem run_recover :
    recover.run course = (.ok (),
      if course.step = .running then
        if course.Spent then { course with
          holder := none
          step := .needsHuman
          run := if course.run = .running ∨ course.run = .retryWait then .needsHuman else course.run }
        else { course with
          holder := none
          step := .retryWait
          run := if course.run = .running then .retryWait else course.run }
      else { course with holder := none }) := by
  by_cases attempt : course.step = .running
  · by_cases left : course.attempts < course.focus.maxAttempts
    · have unspent : ¬ course.Spent := Nat.not_le.mpr left
      by_cases active : course.run = .running <;>
        simp [recover, release, Procedure.run_bind, onlyIf, attempt, recoverStep, left, unspent, run_toStep,
          canTransitionStep, stepTransitions, run_toRun, canTransitionRun, runTransitions, active, Course.stepped,
          Course.ran]
    · have spent : course.Spent := Nat.not_lt.mp left
      by_cases active : course.run = .running ∨ course.run = .retryWait
      · have allowed : canTransitionRun course.run .needsHuman = true := by
          rcases active with active | active <;> rw [active] <;> rfl
        simp [recover, release, Procedure.run_bind, onlyIf, attempt, recoverStep, left, spent, run_toStep,
          canTransitionStep, stepTransitions, run_toRun, allowed, active, Course.stepped, Course.ran]
      · simp [recover, release, Procedure.run_bind, onlyIf, attempt, recoverStep, left, spent, run_toStep,
          canTransitionStep, stepTransitions, active, Course.stepped]
  · simp [recover, release, Procedure.run_bind, onlyIf, attempt]

/-- An attempt of a ready step always starts. -/
theorem run_start (ready : course.step = .ready) :
    start.run course = (.ok (), { course with
      step := .running
      attempts := course.attempts + 1
      pointer := some course.focus.id
      run := if course.run = .scheduled ∨ course.run = .retryWait then .running else course.run }) := by
  have legal : canTransitionStep .ready .running = true := rfl
  by_cases idle : course.run = .scheduled ∨ course.run = .retryWait
  · have allowed : canTransitionRun course.run .running = true := by
      rcases idle with idle | idle <;> rw [idle] <;> rfl
    simp [start, Procedure.run_bind, run_toStep, legal, Course.stepped, ready, point, onlyIf, idle, run_toRun,
      allowed, Course.ran]
  · simp [start, Procedure.run_bind, run_toStep, legal, Course.stepped, ready, point, onlyIf, idle]

theorem run_begin (workerId : String) (idle : course.step = .ready ∨ course.step = .retryWait) :
    (begin workerId).run course = start.run { course with holder := some workerId, step := .ready } := by
  rcases idle with idle | idle <;>
    simp [begin, Procedure.run_bind, onlyIf, idle, run_toStep, canTransitionStep, stepTransitions,
      Course.stepped]

/-- The last step of a run passes. -/
theorem run_settle_last (legal : canTransitionStep course.step .succeeded = true) (last : course.waiting = []) :
    (settle .pass).run course = (toRun .succeeded).run (course.stepped .succeeded) := by
  simp [settle, Procedure.run_bind, run_toStep, legal, last]

/-- A step passes and the next one gets the focus. -/
theorem run_settle_next {next : StepIdentity} {rest : List StepIdentity}
    (legal : canTransitionStep course.step .succeeded = true) (waiting : course.waiting = next :: rest) :
    (settle .pass).run course = (.ok (), { course with
      run := .running
      pointer := some next.id
      behind := course.behind ++ [(course.focus, course.attempts)]
      focus := next
      step := .ready
      attempts := 0
      waiting := rest }) := by
  simp [settle, Procedure.run_bind, run_toStep, legal, waiting, Course.stepped]

theorem run_settle_illegal (illegal : ¬ canTransitionStep course.step .succeeded = true) :
    (settle .pass).run course = (.error (), course) := by
  simp [settle, Procedure.run_bind, run_toStep, illegal]

/-- The step and run status that a failed attempt leads to. -/
def verdict (decision : VerificationDecision) : AgentRunStepStatus × AgentRunStatus :=
  match decision with
  | .pass => (.succeeded, .succeeded)
  | .retryTransient => if course.Spent then (.needsHuman, .needsHuman) else (.retryWait, .retryWait)
  | .needsRevision | .needsHuman => (.needsHuman, .needsHuman)
  | .blockPolicy => (.blocked, .blocked)
  | .failPermanent => (.failed, .failed)

/-- A failed attempt of a running step is always recorded in full. -/
theorem run_finish_failure {decision : VerificationDecision} (failure : decision ≠ .pass)
    (attempt : course.step = .running) (active : course.run = .running) :
    (finish decision).run course = (.ok (), { course with
      step := (verdict course decision).1
      run := (verdict course decision).2
      holder := none }) := by
  cases decision with
  | pass => exact absurd rfl failure
  | retryTransient =>
    by_cases left : course.attempts < course.focus.maxAttempts
    · have unspent : ¬ course.Spent := Nat.not_le.mpr left
      simp [finish, settle, release, Procedure.run_bind, left, unspent, run_toBoth, attempt, active,
        canTransitionStep, stepTransitions, canTransitionRun, runTransitions, Course.stepped, Course.ran, verdict]
    · have spent : course.Spent := Nat.not_lt.mp left
      simp [finish, settle, release, Procedure.run_bind, left, spent, run_toBoth, attempt, active,
        canTransitionStep, stepTransitions, canTransitionRun, runTransitions, Course.stepped, Course.ran, verdict]
  | needsRevision | needsHuman | blockPolicy | failPermanent =>
    simp [finish, settle, release, Procedure.run_bind, run_toBoth, attempt, active,
      canTransitionStep, stepTransitions, canTransitionRun, runTransitions, Course.stepped, Course.ran, verdict]

theorem run_finish_last (attempt : course.step = .running) (active : course.run = .running)
    (last : course.waiting = []) :
    (finish .pass).run course = (.ok (), { course with step := .succeeded, run := .succeeded, holder := none }) := by
  have legal : canTransitionStep course.step .succeeded = true := by rw [attempt]; rfl
  have allowed : canTransitionRun course.run .succeeded = true := by rw [active]; rfl
  simp only [finish, Procedure.run_bind, run_settle_last course legal last, run_toRun]
  simp [Course.stepped, allowed, release, Course.ran]

theorem run_finish_next {next : StepIdentity} {rest : List StepIdentity} (attempt : course.step = .running)
    (waiting : course.waiting = next :: rest) :
    (finish .pass).run course = (.ok (), { course with
      run := .running
      pointer := some next.id
      holder := none
      behind := course.behind ++ [(course.focus, course.attempts)]
      focus := next
      step := .ready
      attempts := 0
      waiting := rest }) := by
  have legal : canTransitionStep course.step .succeeded = true := by rw [attempt]; rfl
  simp [finish, Procedure.run_bind, run_settle_next course legal waiting, release]

end Move

end Run

end ControlTower
