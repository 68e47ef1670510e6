import ControlTower.Run.Supervisor
import ControlTower.Trust.Authorization

/-! What every supervisor procedure leaves as it is: the identifiers of the run
and of its steps. Its clock only moves on. -/

set_option autoImplicit false

namespace ControlTower

open Foundation
open Foundation.Procedure

def RunAtStep.Onward (before after : RunAtStep) : Prop :=
  after.run.id = before.run.id ∧ after.step.id = before.step.id ∧ before.ticks ≤ after.ticks

def RunScope.Onward (before after : RunScope) : Prop :=
  after.run.id = before.run.id ∧ after.steps.map (·.id) = before.steps.map (·.id) ∧ before.ticks ≤ after.ticks

theorem RunAtStep.onward_self (state : RunAtStep) : state.Onward state := ⟨rfl, rfl, Nat.le_refl _⟩

theorem RunAtStep.onward_trans (first middle last : RunAtStep) (start : first.Onward middle)
    (rest : middle.Onward last) : first.Onward last :=
  ⟨rest.1.trans start.1, rest.2.1.trans start.2.1, start.2.2.trans rest.2.2⟩

theorem RunScope.onward_self (scope : RunScope) : scope.Onward scope := ⟨rfl, rfl, Nat.le_refl _⟩

theorem RunScope.onward_trans (first middle last : RunScope) (start : first.Onward middle)
    (rest : middle.Onward last) : first.Onward last :=
  ⟨rest.1.trans start.1, rest.2.1.trans start.2.1, start.2.2.trans rest.2.2⟩

section Step

variable {runtime : Runtime} {α β : Type}

abbrev StepOnward {α : Type} (body : StepProcedure α) : Prop := Guarantees RunAtStep.Onward body

theorem stepOnward_bind {first : StepProcedure α} {next : α → StepProcedure β} (start : StepOnward first)
    (rest : ∀ value, StepOnward (next value)) : StepOnward (first >>= next) :=
  guarantees_bind RunAtStep.onward_trans start rest

theorem stepOnward_read {next : RunAtStep → StepProcedure β} (rest : ∀ state, StepOnward (next state)) :
    StepOnward (Procedure.state >>= next) :=
  stepOnward_bind (guarantees_state RunAtStep.onward_self) rest

theorem stepOnward_pure (value : α) : StepOnward (pure value) := guarantees_pure RunAtStep.onward_self value

theorem stepOnward_demand {condition : Prop} [Decidable condition] {error : Raised} :
    StepOnward (demand condition error) :=
  guarantees_demand RunAtStep.onward_self error

theorem stepOnward_onlyIf {condition : Prop} [Decidable condition] {body : StepProcedure Unit}
    (onward : StepOnward body) : StepOnward (onlyIf condition body) :=
  guarantees_onlyIf RunAtStep.onward_self onward

theorem stepOnward_readClock : StepOnward (readClock runtime : StepProcedure Instant) :=
  fun state => ⟨rfl, rfl, Nat.le_succ state.ticks⟩

theorem modifyRun_onward {change : AgentRun → AgentRun} (kept : ∀ run, (change run).id = run.id) :
    StepOnward (modifyRun change) :=
  fun state => ⟨kept state.run, rfl, Nat.le_refl _⟩

theorem modifyStep_onward {change : AgentRunStep → AgentRunStep} (kept : ∀ step, (change step).id = step.id) :
    StepOnward (modifyStep change) :=
  fun state => ⟨rfl, kept state.step, Nat.le_refl _⟩

theorem transitionRun_onward (target : AgentRunStatus) (reason : String) :
    StepOnward (transitionRun runtime target reason) :=
  stepOnward_read fun _ => guarantees_ite (stepOnward_pure _) (stepOnward_bind stepOnward_demand fun _ =>
    stepOnward_bind stepOnward_readClock fun _ => modifyRun_onward fun _ => rfl)

theorem transitionStep_onward (target : AgentRunStepStatus) (reason : String) :
    StepOnward (transitionStep runtime target reason) :=
  stepOnward_read fun _ => guarantees_ite (stepOnward_pure _) (stepOnward_bind stepOnward_demand fun _ =>
    stepOnward_bind stepOnward_readClock fun _ => modifyStep_onward fun _ => rfl)

theorem transitionBoth_onward (step : AgentRunStepStatus) (stepReason : String) (run : AgentRunStatus)
    (runReason : String) : StepOnward (transitionBoth runtime step stepReason run runReason) :=
  stepOnward_bind (transitionStep_onward _ _) fun _ => transitionRun_onward _ _

theorem pointAtStep_onward : StepOnward pointAtStep := fun _ => ⟨rfl, rfl, Nat.le_refl _⟩

theorem recordResult_onward (result : AgentRunStepExecutionResult) : StepOnward (recordResult runtime result) :=
  stepOnward_bind stepOnward_readClock fun _ => modifyStep_onward fun _ => rfl

theorem applyFailure_onward (result : AgentRunStepExecutionResult) : StepOnward (applyFailure runtime result) := by
  refine stepOnward_read fun _ => ?_
  split
  · refine guarantees_ite ?_ (transitionBoth_onward _ _ _ _)
    refine stepOnward_bind (transitionStep_onward _ _) fun _ => stepOnward_bind stepOnward_readClock fun _ => ?_
    exact stepOnward_bind (modifyStep_onward fun _ => rfl) fun _ => transitionRun_onward _ _
  all_goals exact transitionBoth_onward _ _ _ _

theorem startStep_onward (workerId leaseToken : String) : StepOnward (startStep runtime workerId leaseToken) := by
  refine stepOnward_bind (transitionStep_onward _ _) fun _ => stepOnward_bind stepOnward_readClock fun _ => ?_
  refine stepOnward_read fun _ => stepOnward_bind (modifyStep_onward fun _ => rfl) fun _ => ?_
  exact stepOnward_bind pointAtStep_onward fun _ => stepOnward_onlyIf (transitionRun_onward _ _)

theorem recoverRunningStep_onward (now : Instant) : StepOnward (recoverRunningStep runtime now) := by
  refine stepOnward_bind (modifyStep_onward fun _ => rfl) fun _ => stepOnward_read fun _ => guarantees_ite ?_ ?_
  · refine stepOnward_bind (transitionStep_onward _ _) fun _ => ?_
    exact stepOnward_bind (modifyStep_onward fun _ => rfl) fun _ => stepOnward_onlyIf (transitionRun_onward _ _)
  · exact stepOnward_bind (transitionStep_onward _ _) fun _ => stepOnward_onlyIf (transitionRun_onward _ _)

theorem resumeStep_onward (reason : String) : StepOnward (resumeStep runtime reason) :=
  stepOnward_read fun _ => stepOnward_onlyIf (stepOnward_bind (transitionStep_onward _ _) fun _ =>
    modifyStep_onward fun _ => rfl)

theorem retryAgentRunStep_onward (reason : String) : StepOnward (retryAgentRunStep runtime reason) := by
  refine stepOnward_read fun _ => ?_
  iterate 3 refine stepOnward_bind stepOnward_demand fun _ => ?_
  refine stepOnward_bind (modifyStep_onward fun _ => rfl) fun _ => ?_
  refine stepOnward_bind (transitionStep_onward _ _) fun _ => ?_
  refine stepOnward_bind (modifyStep_onward fun _ => rfl) fun _ => stepOnward_bind pointAtStep_onward fun _ => ?_
  exact stepOnward_bind (modifyRun_onward fun _ => rfl) fun _ => stepOnward_onlyIf (transitionRun_onward _ _)

theorem allowDecided_onward : StepOnward (allowDecided runtime) :=
  stepOnward_read fun _ => stepOnward_bind (stepOnward_onlyIf (transitionStep_onward _ _)) fun _ =>
    stepOnward_onlyIf (transitionRun_onward _ _)

theorem denyDecided_onward (reason : String) : StepOnward (denyDecided runtime reason) :=
  stepOnward_read fun _ => stepOnward_bind (stepOnward_onlyIf (transitionStep_onward _ _)) fun _ =>
    stepOnward_onlyIf (transitionRun_onward _ _)

theorem returningStep_onward {body : StepProcedure Unit} (onward : StepOnward body) :
    StepOnward (returningStep body) :=
  stepOnward_bind onward fun _ => stepOnward_read fun _ => stepOnward_pure _

end Step

section Run

variable {runtime : Runtime} {α β : Type}

abbrev RunOnward {α : Type} (body : RunProcedure α) : Prop := Guarantees RunScope.Onward body

theorem runOnward_bind {first : RunProcedure α} {next : α → RunProcedure β} (start : RunOnward first)
    (rest : ∀ value, RunOnward (next value)) : RunOnward (first >>= next) :=
  guarantees_bind RunScope.onward_trans start rest

theorem runOnward_read {next : RunScope → RunProcedure β} (rest : ∀ scope, RunOnward (next scope)) :
    RunOnward (Procedure.state >>= next) :=
  runOnward_bind (guarantees_state RunScope.onward_self) rest

theorem runOnward_pure (value : α) : RunOnward (pure value) := guarantees_pure RunScope.onward_self value

theorem runOnward_demand {condition : Prop} [Decidable condition] {error : Raised} :
    RunOnward (demand condition error) :=
  guarantees_demand RunScope.onward_self error

theorem runOnward_onlyIf {condition : Prop} [Decidable condition] {body : RunProcedure Unit}
    (onward : RunOnward body) : RunOnward (onlyIf condition body) :=
  guarantees_onlyIf RunScope.onward_self onward

theorem runOnward_clock (value : RunScope → α) :
    RunOnward (Procedure.update fun scope => (value scope, Clocked.tick scope)) :=
  fun scope => ⟨rfl, rfl, Nat.le_succ scope.ticks⟩

theorem runOnward_readClock : RunOnward (readClock runtime : RunProcedure Instant) := runOnward_clock _

theorem runOnward_modifyRun {change : AgentRun → AgentRun} (kept : ∀ run, (change run).id = run.id) :
    RunOnward (RunScope.modifyRun change) :=
  fun scope => ⟨kept scope.run, rfl, Nat.le_refl _⟩

theorem putStep_ids (steps : List AgentRunStep) (step : AgentRunStep) :
    (putStep steps step).map (·.id) = steps.map (·.id) := by
  simp only [putStep, List.map_map]
  refine List.map_congr_left fun other _ => ?_
  by_cases same : other.id = step.id <;> simp [same]

theorem atStep_onward (stepId : String) {body : StepProcedure α} (onward : StepOnward body) :
    RunOnward (atStep stepId body) := by
  intro scope
  cases found : findStep scope.steps stepId with
  | none =>
    simp only [atStep, found]
    exact scope.onward_self
  | some step =>
    have went := onward ⟨scope.run, step, scope.ticks⟩
    simp only [atStep, found]
    exact ⟨went.1, putStep_ids _ _, went.2.2⟩

theorem atCurrentStep_onward {body : StepProcedure Unit} (onward : StepOnward body) :
    RunOnward (atCurrentStep body) := by
  refine runOnward_read fun scope => ?_
  split
  · exact runOnward_pure _
  · exact atStep_onward _ onward

theorem transitionRunOf_onward (target : AgentRunStatus) (reason : String) :
    RunOnward (transitionRunOf runtime target reason) :=
  runOnward_read fun _ => guarantees_ite (runOnward_pure _) (runOnward_bind runOnward_demand fun _ =>
    runOnward_bind runOnward_readClock fun _ => runOnward_modifyRun fun _ => rfl)

theorem acquireRunLease_onward (workerId : String) (leaseSeconds : Nat) :
    RunOnward (acquireRunLease runtime workerId leaseSeconds) := by
  refine runOnward_bind runOnward_readClock fun _ => runOnward_read fun _ => ?_
  refine runOnward_bind runOnward_demand fun _ => guarantees_ite (runOnward_pure _) ?_
  exact runOnward_bind (runOnward_clock _) fun _ => runOnward_bind (runOnward_modifyRun fun _ => rfl) fun _ =>
    runOnward_pure _

theorem heartbeatRun_onward (workerId leaseToken : String) (leaseSeconds : Nat) :
    RunOnward (heartbeatRun runtime workerId leaseToken leaseSeconds) := by
  refine runOnward_read fun _ => runOnward_bind runOnward_demand fun _ => runOnward_bind runOnward_readClock fun _ => ?_
  refine runOnward_bind (runOnward_modifyRun fun _ => rfl) fun _ => atCurrentStep_onward ?_
  exact stepOnward_read fun _ => stepOnward_onlyIf (modifyStep_onward fun _ => rfl)

theorem releaseRunLease_onward (leaseToken : String) : RunOnward (releaseRunLease runtime leaseToken) :=
  runOnward_read fun _ => guarantees_ite (runOnward_pure _) (runOnward_bind runOnward_readClock fun _ =>
    runOnward_modifyRun fun _ => rfl)

theorem readyStepAmong_onward (now : Instant) (steps : List AgentRunStep) :
    RunOnward (readyStepAmong runtime now steps) := by
  induction steps with
  | nil => exact runOnward_pure _
  | cons step rest ih =>
    refine guarantees_ite ?_ (guarantees_ite (runOnward_pure _) (guarantees_ite ih (runOnward_pure _)))
    exact runOnward_bind (atStep_onward _ (returningStep_onward (transitionStep_onward _ _))) fun _ => runOnward_pure _

theorem readyStep_onward : RunOnward (readyStep runtime) :=
  runOnward_bind runOnward_readClock fun _ => runOnward_read fun _ => readyStepAmong_onward _ _

theorem cancelSteps_onward (reason : String) : RunOnward (cancelSteps runtime reason) := by
  refine runOnward_bind (runOnward_modifyRun fun _ => rfl) fun _ => runOnward_read fun _ => ?_
  exact guarantees_each RunScope.onward_self RunScope.onward_trans _ fun _ _ =>
    runOnward_onlyIf (atStep_onward _ (transitionStep_onward _ _))

theorem cancelAgentRun_onward (reason : String) : RunOnward (cancelAgentRun runtime reason) := by
  refine runOnward_read fun _ => guarantees_ite (runOnward_pure _) (runOnward_bind runOnward_demand fun _ => ?_)
  exact runOnward_bind (cancelSteps_onward _) fun _ => transitionRunOf_onward _ _

theorem pauseAgentRun_onward (reason : String) : RunOnward (pauseAgentRun runtime reason) :=
  runOnward_read fun _ => runOnward_bind runOnward_demand fun _ =>
    runOnward_bind (runOnward_modifyRun fun _ => rfl) fun _ => transitionRunOf_onward _ _

theorem resumeAgentRun_onward (reason : String) : RunOnward (resumeAgentRun runtime reason) := by
  refine runOnward_read fun _ => runOnward_bind runOnward_demand fun _ => ?_
  refine runOnward_bind (runOnward_modifyRun fun _ => rfl) fun _ => ?_
  exact runOnward_bind (atCurrentStep_onward (resumeStep_onward _)) fun _ => transitionRunOf_onward _ _

theorem recoverStaleLease_onward (now : Instant) : RunOnward (recoverStaleLease runtime now) := by
  refine runOnward_read fun _ => guarantees_ite (runOnward_pure _) ?_
  refine runOnward_bind (runOnward_modifyRun fun _ => rfl) fun _ => runOnward_bind (atCurrentStep_onward ?_) fun _ =>
    runOnward_pure _
  exact stepOnward_read fun _ => stepOnward_onlyIf (recoverRunningStep_onward _)

theorem beginExecution_onward (workerId : String) (leaseSeconds : Nat) :
    RunOnward (beginExecution runtime workerId leaseSeconds) := by
  refine runOnward_read fun _ => runOnward_bind runOnward_demand fun _ => runOnward_bind runOnward_demand fun _ => ?_
  refine guarantees_ite ?_ ?_
  · exact runOnward_bind (cancelAgentRun_onward _) fun _ => guarantees_raise RunScope.onward_self _
  · refine runOnward_bind (acquireRunLease_onward _ _) fun _ => runOnward_bind readyStep_onward fun found => ?_
    split
    · exact runOnward_bind (releaseRunLease_onward _) fun _ => runOnward_bind runOnward_demand fun _ => runOnward_pure _
    · exact runOnward_bind (atStep_onward _ (returningStep_onward (startStep_onward _ _))) fun _ => runOnward_pure _

theorem advance_onward (completed : AgentRunStep) : RunOnward (advance runtime completed) := by
  refine runOnward_bind (runOnward_read fun _ => ?_) fun _ => guarantees_ite ?_ ?_
  · split
    · exact runOnward_pure _
    · refine runOnward_bind (atStep_onward _ ?_) fun _ => runOnward_pure _
      exact stepOnward_bind (transitionStep_onward _ _) fun _ => pointAtStep_onward
  · exact runOnward_bind runOnward_readClock fun _ => runOnward_modifyRun fun _ => rfl
  · exact atStep_onward _ (transitionRun_onward _ _)

theorem applyExecutionResult_onward (stepId : String) (result : AgentRunStepExecutionResult) :
    RunOnward (applyExecutionResult runtime stepId result) := by
  refine guarantees_ite (runOnward_bind (atStep_onward _ (returningStep_onward ?_)) advance_onward) (atStep_onward _ ?_)
  · exact stepOnward_bind (recordResult_onward _) fun _ => transitionStep_onward _ _
  · exact stepOnward_bind (recordResult_onward _) fun _ => applyFailure_onward _

theorem finishExecution_onward (stepId : String) (result : AgentRunStepExecutionResult) :
    RunOnward (finishExecution runtime stepId result) := by
  refine runOnward_bind (applyExecutionResult_onward _ _) fun _ => ?_
  refine runOnward_bind (atStep_onward _ (modifyStep_onward fun _ => rfl)) fun _ => ?_
  exact runOnward_bind runOnward_readClock fun _ => runOnward_modifyRun fun _ => rfl

end Run

end ControlTower
