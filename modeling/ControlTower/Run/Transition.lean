import ControlTower.Run.StateMachine

/-! Guarded transitions as procedures. Most supervisor functions take a run and
one of its steps; they work on that pair, and `atStep` runs them inside the
list of all steps of the run. -/

set_option autoImplicit false

namespace ControlTower

open Foundation
open Foundation.Procedure (demand found onlyIf)

/-- A run, the step a function was called with, and the clock position. -/
structure RunAtStep where
  run : AgentRun
  step : AgentRunStep
  ticks : Nat

/-- A run with all its steps and the clock position. -/
structure RunScope where
  run : AgentRun
  steps : List AgentRunStep
  ticks : Nat

instance : Clocked RunAtStep where
  ticks := RunAtStep.ticks
  tick state := { state with ticks := state.ticks + 1 }

instance : Clocked RunScope where
  ticks := RunScope.ticks
  tick state := { state with ticks := state.ticks + 1 }

abbrev StepProcedure := Procedure RunAtStep Raised
abbrev RunProcedure := Procedure RunScope Raised

def modifyRun (change : AgentRun → AgentRun) : StepProcedure Unit :=
  .modify fun state => { state with run := change state.run }

def modifyStep (change : AgentRunStep → AgentRunStep) : StepProcedure Unit :=
  .modify fun state => { state with step := change state.step }

def RunScope.modifyRun (change : AgentRun → AgentRun) : RunProcedure Unit :=
  .modify fun scope => { scope with run := change scope.run }

def illegalRunTransition (current target : AgentRunStatus) : Raised :=
  .invalidAgentRunTransition s!"Illegal AgentRun transition: {current.value} -> {target.value}"

def illegalStepTransition (current target : AgentRunStepStatus) : Raised :=
  .invalidAgentRunTransition s!"Illegal AgentRunStep transition: {current.value} -> {target.value}"

def transitionRun (runtime : Runtime) (target : AgentRunStatus) (reason : String) : StepProcedure Unit := do
  let state ← Procedure.state
  if target = state.run.status then pure ()
  else do
    demand (canTransitionRun state.run.status target = true)
      (illegalRunTransition state.run.status target)
    let now ← readClock runtime
    modifyRun fun run => run.moved target now reason

def transitionStep (runtime : Runtime) (target : AgentRunStepStatus) (reason : String) :
    StepProcedure Unit := do
  let state ← Procedure.state
  if target = state.step.status then pure ()
  else do
    demand (canTransitionStep state.step.status target = true)
      (illegalStepTransition state.step.status target)
    let now ← readClock runtime
    modifyStep fun step => step.moved target now reason

/-- Work on the step with the given identifier as it stands and store it back,
also when the work raises. -/
def atStep {α : Type} (stepId : String) (body : StepProcedure α) : RunProcedure α where
  run scope := match findStep scope.steps stepId with
    | some step =>
        let outcome := body.run ⟨scope.run, step, scope.ticks⟩
        (outcome.1, ⟨outcome.2.run, putStep scope.steps outcome.2.step, outcome.2.ticks⟩)
    | none => (.error (.valueError "Agent run step not found."), scope)

/-- Answer with the step as the work leaves it. -/
def returningStep (body : StepProcedure Unit) : StepProcedure AgentRunStep := do
  body
  return (← Procedure.state).step

/-- Work on the current step of the run, if it has one. -/
def atCurrentStep (body : StepProcedure Unit) : RunProcedure Unit := do
  let scope ← Procedure.state
  match findStep scope.steps (scope.run.currentStepId.getD "") with
  | none => pure ()
  | some current => atStep current.id body

section Ends

variable {runtime : Runtime} {reason : String}

@[simp] theorem RunAtStep.tick_run (state : RunAtStep) : (Clocked.tick state).run = state.run := rfl
@[simp] theorem RunAtStep.tick_step (state : RunAtStep) : (Clocked.tick state).step = state.step := rfl
@[simp] theorem RunScope.tick_run (scope : RunScope) : (Clocked.tick scope).run = scope.run := rfl
@[simp] theorem RunScope.tick_steps (scope : RunScope) : (Clocked.tick scope).steps = scope.steps := rfl

@[simp] theorem ends_modifyRun {change : AgentRun → AgentRun} {state : RunAtStep}
    {post : Except Raised Unit → RunAtStep → Prop} :
    (modifyRun change).Ends state post ↔ post (.ok ()) { state with run := change state.run } := Iff.rfl

@[simp] theorem ends_modifyStep {change : AgentRunStep → AgentRunStep} {state : RunAtStep}
    {post : Except Raised Unit → RunAtStep → Prop} :
    (modifyStep change).Ends state post ↔ post (.ok ()) { state with step := change state.step } := Iff.rfl

theorem transitionStep_legal (runtime : Runtime) (target : AgentRunStepStatus) (reason : String)
    (state : RunAtStep) (other : target ≠ state.step.status) (legal : canTransitionStep state.step.status target = true) :
    (transitionStep runtime target reason).run state =
      (.ok (), ⟨state.run, state.step.moved target (runtime.clock state.ticks) reason, state.ticks + 1⟩) := by
  simp only [transitionStep, Procedure.run_bind, Procedure.run_state, other, if_false, demand, legal, if_true,
    Procedure.run_pure]
  rfl

end Ends

end ControlTower
