import Mathlib.Logic.Relation
import ControlTower.Run.Creation
import ControlTower.Run.Routes

/-! What can happen to the record of a run and to the record of a step, one change at
a time. Every supervisor procedure is a chain of such changes, so what each change
keeps holds of every stored run. -/

set_option autoImplicit false

namespace ControlTower

open Foundation
open Foundation.Procedure
open Relation (ReflTransGen)

/-- The changes of a run record. -/
inductive RunChange (run : AgentRun) : AgentRun → Prop where
  | moved (goal : AgentRunStatus) (now : Instant) (reason : String) : RunChange run (run.moved goal now reason)
  /-- The next step is ready. -/
  | resumed (now : Instant) : RunChange run { run with status := .running, updatedAt := now }
  | leased (active : run.status.isTerminal = false) (workerId leaseToken : String) (now : Instant) (leaseSeconds : Nat) :
      RunChange run { run with
        leaseOwner := some workerId
        leaseToken := some leaseToken
        heartbeatAt := some now
        leaseExpiresAt := some (now.plusSeconds leaseSeconds)
        updatedAt := now }
  | extended (workerId leaseToken : String) (held : run.leaseOwner = some workerId ∧ run.leaseToken = some leaseToken)
      (now : Instant) (leaseSeconds : Nat) : RunChange run (run.extended now leaseSeconds)
  | released (heartbeatAt : Option Instant) (updatedAt : Instant) :
      RunChange run { run.withoutLease with heartbeatAt := heartbeatAt, updatedAt := updatedAt }
  /-- Flags, the pointer, the capability lease and the final evidence. -/
  | marked (pauseRequested cancelRequested : Bool) (currentStepId : Option String) (currentStepIndex : Nat)
      (capabilityLeaseId finalEvidenceHash : Option String) (updatedAt : Instant) :
      RunChange run { run with
        pauseRequested := pauseRequested
        cancelRequested := cancelRequested
        currentStepId := currentStepId
        currentStepIndex := currentStepIndex
        capabilityLeaseId := capabilityLeaseId
        finalEvidenceHash := finalEvidenceHash
        updatedAt := updatedAt }

/-- The changes of a step record. -/
inductive StepChange (runtime : Runtime) (step : AgentRunStep) : AgentRunStep → Prop where
  | same : StepChange runtime step step
  | moved (goal : AgentRunStepStatus) (now : Instant) (reason : String) :
      StepChange runtime step (step.moved goal now reason)
  | recorded (result : AgentRunStepExecutionResult) (now : Instant) :
      StepChange runtime step { step with
        decision := some result.decision
        reason := result.reason
        evidence := result.evidence
        evidenceHash := some (runtime.sha256Hex result.evidence)
        outputReference := result.outputReference
        updatedAt := now }
  | leased (workerId leaseToken : String) (leaseExpiresAt : Option Instant) (now : Instant) :
      StepChange runtime step { step with
        leaseOwner := some workerId
        leaseToken := some leaseToken
        leaseExpiresAt := leaseExpiresAt
        heartbeatAt := some now }
  | extended (now : Instant) (leaseSeconds : Nat) : StepChange runtime step (step.extended now leaseSeconds)
  | released : StepChange runtime step step.withoutLease
  | delayed (nextRetryAt : Option Instant) : StepChange runtime step { step with nextRetryAt := nextRetryAt }
  /-- A failed step is taken up again. -/
  | reopened : StepChange runtime step { step with status := .needsHuman }

/-- A change of a run, or of the step a procedure was called with. -/
inductive PairChange (runtime : Runtime) : AgentRun × AgentRunStep → AgentRun × AgentRunStep → Prop where
  | run {run later : AgentRun} {step : AgentRunStep} (change : RunChange run later) :
      PairChange runtime (run, step) (later, step)
  | step {run : AgentRun} {step later : AgentRunStep} (change : StepChange runtime step later) :
      PairChange runtime (run, step) (run, later)

/-- A change of a run, or of one of its steps. -/
inductive DurableChange (runtime : Runtime) : DurableRun → DurableRun → Prop where
  | run {run later : AgentRun} {steps : List AgentRunStep} (change : RunChange run later) :
      DurableChange runtime ⟨run, steps⟩ ⟨later, steps⟩
  | step {run : AgentRun} {steps : List AgentRunStep} {step later : AgentRunStep}
      (found : findStep steps step.id = some step) (change : StepChange runtime step later) :
      DurableChange runtime ⟨run, steps⟩ ⟨run, putStep steps later⟩

abbrev RunAtStep.Changes (runtime : Runtime) (before after : RunAtStep) : Prop :=
  ReflTransGen (PairChange runtime) (before.run, before.step) (after.run, after.step)

abbrev RunScope.Changes (runtime : Runtime) (before after : RunScope) : Prop :=
  ReflTransGen (DurableChange runtime) ⟨before.run, before.steps⟩ ⟨after.run, after.steps⟩

section Records

variable {runtime : Runtime} {steps : List AgentRunStep} {step later : AgentRunStep}

theorem StepChange.id (change : StepChange runtime step later) : later.id = step.id := by
  cases change <;> rfl

theorem findStep_putStep (found : findStep steps step.id = some step) (same : later.id = step.id) :
    findStep (putStep steps later) step.id = some later := by
  unfold findStep putStep at *
  induction steps with
  | nil => cases found
  | cons first rest ih =>
    by_cases here : first.id = step.id
    · simp [here, same]
    · simp [here, same] at found ⊢
      simpa [same] using ih (by simpa using found)

theorem putStep_twice (steps : List AgentRunStep) (same : later.id = step.id) :
    putStep (putStep steps step) later = putStep steps later := by
  simp only [putStep, List.map_map]
  apply List.map_congr_left
  intro other _
  by_cases here : other.id = step.id <;> simp [here, same]

/-- A chain of changes on a run and one of its steps, written back into the steps. -/
theorem changes_putStep {run : AgentRun} {pair : AgentRun × AgentRunStep} (found : findStep steps step.id = some step)
    (changes : ReflTransGen (PairChange runtime) (run, step) pair) :
    pair.2.id = step.id ∧ ReflTransGen (DurableChange runtime) ⟨run, steps⟩ ⟨pair.1, putStep steps pair.2⟩ := by
  induction changes with
  | refl => exact ⟨rfl, .single (.step found .same)⟩
  | tail _ change ih =>
    obtain ⟨named, reached⟩ := ih
    cases change with
    | run change => exact ⟨named, reached.tail (.run change)⟩
    | @step run middle later change =>
      have named : middle.id = step.id := named
      have present : findStep (putStep steps middle) middle.id = some middle := by
        rw [named]
        exact findStep_putStep found named
      refine ⟨change.id.trans named, ?_⟩
      have next : DurableChange runtime ⟨run, putStep steps middle⟩ ⟨run, putStep (putStep steps middle) later⟩ :=
        .step present change
      rw [putStep_twice steps change.id] at next
      exact reached.tail next

end Records

section Step

variable {runtime : Runtime} {α β : Type}

abbrev StepChanges (runtime : Runtime) {α : Type} (body : StepProcedure α) : Prop :=
  Guarantees (RunAtStep.Changes runtime) body

theorem RunAtStep.changes_self (runtime : Runtime) (state : RunAtStep) : state.Changes runtime state := .refl

theorem RunAtStep.changes_trans (runtime : Runtime) (first middle last : RunAtStep) (start : first.Changes runtime middle)
    (rest : middle.Changes runtime last) : first.Changes runtime last :=
  start.trans rest

theorem stepChanges_bind {first : StepProcedure α} {next : α → StepProcedure β} (start : StepChanges runtime first)
    (rest : ∀ value, StepChanges runtime (next value)) : StepChanges runtime (first >>= next) :=
  guarantees_bind (RunAtStep.changes_trans runtime) start rest

theorem stepChanges_pure (value : α) : StepChanges runtime (pure value) :=
  guarantees_pure (RunAtStep.changes_self runtime) value

theorem stepChanges_read {next : RunAtStep → StepProcedure β} (rest : ∀ state, StepChanges runtime (next state)) :
    StepChanges runtime (Procedure.state >>= next) :=
  stepChanges_bind (guarantees_state (RunAtStep.changes_self runtime)) rest

theorem stepChanges_demand {condition : Prop} [Decidable condition] {error : Raised} :
    StepChanges runtime (demand condition error) :=
  guarantees_demand (RunAtStep.changes_self runtime) error

theorem stepChanges_onlyIf {condition : Prop} [Decidable condition] {body : StepProcedure Unit}
    (changes : StepChanges runtime body) : StepChanges runtime (onlyIf condition body) :=
  guarantees_onlyIf (RunAtStep.changes_self runtime) changes

theorem stepChanges_readClock : StepChanges runtime (readClock runtime : StepProcedure Instant) := fun _ => .refl

theorem modifyRun_changes {change : AgentRun → AgentRun} (changes : ∀ run, RunChange run (change run)) :
    StepChanges runtime (modifyRun change) := fun state => .single (.run (changes state.run))

theorem modifyStep_changes {change : AgentRunStep → AgentRunStep} (changes : ∀ step, StepChange runtime step (change step)) :
    StepChanges runtime (modifyStep change) := fun state => .single (.step (changes state.step))

theorem transitionRun_changes (target : AgentRunStatus) (reason : String) :
    StepChanges runtime (transitionRun runtime target reason) :=
  stepChanges_read fun _ => guarantees_ite (stepChanges_pure _) (stepChanges_bind stepChanges_demand fun _ =>
    stepChanges_bind stepChanges_readClock fun _ => modifyRun_changes fun _ => .moved _ _ _)

theorem transitionStep_changes (target : AgentRunStepStatus) (reason : String) :
    StepChanges runtime (transitionStep runtime target reason) :=
  stepChanges_read fun _ => guarantees_ite (stepChanges_pure _) (stepChanges_bind stepChanges_demand fun _ =>
    stepChanges_bind stepChanges_readClock fun _ => modifyStep_changes fun _ => .moved _ _ _)

theorem transitionBoth_changes (step : AgentRunStepStatus) (stepReason : String) (run : AgentRunStatus)
    (runReason : String) : StepChanges runtime (transitionBoth runtime step stepReason run runReason) :=
  stepChanges_bind (transitionStep_changes _ _) fun _ => transitionRun_changes _ _

theorem pointAtStep_changes : StepChanges runtime pointAtStep :=
  fun state => .single (.run (.marked state.run.pauseRequested state.run.cancelRequested _ _
    state.run.capabilityLeaseId state.run.finalEvidenceHash state.run.updatedAt))

theorem recordResult_changes (result : AgentRunStepExecutionResult) : StepChanges runtime (recordResult runtime result) :=
  stepChanges_bind stepChanges_readClock fun _ => modifyStep_changes fun _ => .recorded result _

theorem applyFailure_changes (result : AgentRunStepExecutionResult) : StepChanges runtime (applyFailure runtime result) := by
  apply stepChanges_read
  intro state
  split
  · apply guarantees_ite
    · refine stepChanges_bind (transitionStep_changes _ _) fun _ => stepChanges_bind stepChanges_readClock fun _ => ?_
      exact stepChanges_bind (modifyStep_changes fun _ => .delayed _) fun _ => transitionRun_changes _ _
    · exact transitionBoth_changes _ _ _ _
  all_goals exact transitionBoth_changes _ _ _ _

theorem startStep_changes (workerId leaseToken : String) : StepChanges runtime (startStep runtime workerId leaseToken) := by
  refine stepChanges_bind (transitionStep_changes _ _) fun _ => stepChanges_bind stepChanges_readClock fun _ => ?_
  refine stepChanges_read fun _ => stepChanges_bind (modifyStep_changes fun _ => .leased _ _ _ _) fun _ => ?_
  exact stepChanges_bind pointAtStep_changes fun _ => stepChanges_onlyIf (transitionRun_changes _ _)

theorem recoverRunningStep_changes (now : Instant) : StepChanges runtime (recoverRunningStep runtime now) := by
  refine stepChanges_bind (modifyStep_changes fun _ => .released) fun _ => stepChanges_read fun _ => ?_
  apply guarantees_ite
  · refine stepChanges_bind (transitionStep_changes _ _) fun _ => ?_
    exact stepChanges_bind (modifyStep_changes fun _ => .delayed _) fun _ => stepChanges_onlyIf (transitionRun_changes _ _)
  · exact stepChanges_bind (transitionStep_changes _ _) fun _ => stepChanges_onlyIf (transitionRun_changes _ _)

theorem resumeStep_changes (reason : String) : StepChanges runtime (resumeStep runtime reason) :=
  stepChanges_read fun _ => stepChanges_onlyIf (stepChanges_bind (transitionStep_changes _ _) fun _ =>
    modifyStep_changes fun _ => .delayed _)

theorem retryAgentRunStep_changes (reason : String) : StepChanges runtime (retryAgentRunStep runtime reason) := by
  apply stepChanges_read
  intro state
  iterate 3 refine stepChanges_bind stepChanges_demand fun _ => ?_
  have reopens : StepChanges runtime (modifyStep fun step =>
      { step with status := if step.status = .failed then .needsHuman else step.status }) := by
    apply modifyStep_changes
    intro step
    split
    · exact .reopened
    · exact .same
  refine stepChanges_bind reopens fun _ => stepChanges_bind (transitionStep_changes _ _) fun _ => ?_
  refine stepChanges_bind (modifyStep_changes fun _ => .delayed _) fun _ => stepChanges_bind pointAtStep_changes fun _ => ?_
  refine stepChanges_bind (modifyRun_changes fun run => ?_) fun _ => stepChanges_onlyIf (transitionRun_changes _ _)
  exact .marked false run.cancelRequested run.currentStepId run.currentStepIndex run.capabilityLeaseId
    run.finalEvidenceHash run.updatedAt

theorem allowDecided_changes : StepChanges runtime (allowDecided runtime) :=
  stepChanges_read fun _ => stepChanges_bind (stepChanges_onlyIf (transitionStep_changes _ _)) fun _ =>
    stepChanges_onlyIf (transitionRun_changes _ _)

theorem denyDecided_changes (reason : String) : StepChanges runtime (denyDecided runtime reason) :=
  stepChanges_read fun _ => stepChanges_bind (stepChanges_onlyIf (transitionStep_changes _ _)) fun _ =>
    stepChanges_onlyIf (transitionRun_changes _ _)

theorem returningStep_changes {body : StepProcedure Unit} (changes : StepChanges runtime body) :
    StepChanges runtime (returningStep body) :=
  stepChanges_bind changes fun _ => stepChanges_read fun _ => stepChanges_pure _

end Step

section Run

variable {runtime : Runtime} {α β : Type}

abbrev RunChanges (runtime : Runtime) {α : Type} (body : RunProcedure α) : Prop :=
  Guarantees (RunScope.Changes runtime) body

theorem RunScope.changes_self (runtime : Runtime) (scope : RunScope) : scope.Changes runtime scope := .refl

theorem RunScope.changes_trans (runtime : Runtime) (first middle last : RunScope) (start : first.Changes runtime middle)
    (rest : middle.Changes runtime last) : first.Changes runtime last :=
  start.trans rest

theorem runChanges_bind {first : RunProcedure α} {next : α → RunProcedure β} (start : RunChanges runtime first)
    (rest : ∀ value, RunChanges runtime (next value)) : RunChanges runtime (first >>= next) :=
  guarantees_bind (RunScope.changes_trans runtime) start rest

theorem runChanges_pure (value : α) : RunChanges runtime (pure value) :=
  guarantees_pure (RunScope.changes_self runtime) value

theorem runChanges_read {next : RunScope → RunProcedure β} (rest : ∀ scope, RunChanges runtime (next scope)) :
    RunChanges runtime (Procedure.state >>= next) :=
  runChanges_bind (guarantees_state (RunScope.changes_self runtime)) rest

theorem runChanges_demand {condition : Prop} [Decidable condition] {error : Raised} :
    RunChanges runtime (demand condition error) :=
  guarantees_demand (RunScope.changes_self runtime) error

theorem runChanges_onlyIf {condition : Prop} [Decidable condition] {body : RunProcedure Unit}
    (changes : RunChanges runtime body) : RunChanges runtime (onlyIf condition body) :=
  guarantees_onlyIf (RunScope.changes_self runtime) changes

theorem runChanges_readClock : RunChanges runtime (readClock runtime : RunProcedure Instant) := fun _ => .refl

theorem runChanges_modifyRun {change : AgentRun → AgentRun} (changes : ∀ run, RunChange run (change run)) :
    RunChanges runtime (RunScope.modifyRun change) := fun scope => .single (.run (changes scope.run))

theorem atStep_changes (stepId : String) {body : StepProcedure α} (changes : StepChanges runtime body) :
    RunChanges runtime (atStep stepId body) := by
  intro scope
  cases found : findStep scope.steps stepId with
  | none =>
    simp only [atStep, found]
    exact .refl
  | some step =>
    obtain ⟨-, named⟩ := findStep_some found
    have went := changes ⟨scope.run, step, scope.ticks⟩
    simp only [atStep, found]
    exact (changes_putStep (named.symm ▸ found) went).2

theorem atCurrentStep_changes {body : StepProcedure Unit} (changes : StepChanges runtime body) :
    RunChanges runtime (atCurrentStep body) := by
  apply runChanges_read
  intro scope
  split
  · exact runChanges_pure _
  · exact atStep_changes _ changes

theorem transitionRunOf_changes (target : AgentRunStatus) (reason : String) :
    RunChanges runtime (transitionRunOf runtime target reason) :=
  runChanges_read fun _ => guarantees_ite (runChanges_pure _) (runChanges_bind runChanges_demand fun _ =>
    runChanges_bind runChanges_readClock fun _ => runChanges_modifyRun fun _ => .moved _ _ _)

/-- What follows a chain of changes extends it. -/
theorem changes_then {scope after : RunScope} {body : RunProcedure α} (changes : scope.Changes runtime after)
    (rest : RunChanges runtime body) : body.Ends after fun _ last => scope.Changes runtime last :=
  (rest.ends after).mono fun _ _ reached => changes.trans reached

/-- A worker takes the lease of a run that is not over. -/
theorem acquireRunLease_changes {scope : RunScope} (active : scope.run.status.isTerminal = false) (workerId : String)
    (leaseSeconds : Nat) :
    (acquireRunLease runtime workerId leaseSeconds).Ends scope fun _ after => scope.Changes runtime after := by
  unfold acquireRunLease
  rw [ends_bind, ends_readClock, continue_ok]
  refine ends_read (ends_guard .refl fun _ => ?_)
  rw [ends_ite]
  refine ⟨fun _ => .refl, fun _ => ?_⟩
  simp only [ends_bind, ends_drawSecret, continue_ok, RunScope.modifyRun, ends_modify, ends_pure]
  exact .single (.run (.leased active _ _ _ _))

/-- A heartbeat of the worker that holds the lease. -/
theorem heartbeatRun_changes (workerId leaseToken : String) (leaseSeconds : Nat) :
    RunChanges runtime (heartbeatRun runtime workerId leaseToken leaseSeconds) := by
  intro scope
  have beats : (heartbeatRun runtime workerId leaseToken leaseSeconds).Ends scope fun _ after =>
      scope.Changes runtime after := by
    refine ends_read (ends_guard .refl fun held => ?_)
    rw [ends_bind, ends_readClock, continue_ok]
    have extends_ : (RunScope.modifyRun fun run => run.extended (runtime.clock scope.ticks) leaseSeconds).Ends
        (Clocked.tick scope) fun _ after => scope.Changes runtime after :=
      .single (.run (.extended workerId leaseToken held _ _))
    refine Ends.bind extends_ (fun _ after changes => ?_) fun _ _ changes => changes
    refine changes_then changes (atCurrentStep_changes ?_)
    exact stepChanges_read fun _ => stepChanges_onlyIf (modifyStep_changes fun _ => .extended _ _)
  exact beats

theorem releaseRunLease_changes (leaseToken : String) : RunChanges runtime (releaseRunLease runtime leaseToken) :=
  runChanges_read fun _ => guarantees_ite (runChanges_pure _) (runChanges_bind runChanges_readClock fun _ =>
    runChanges_modifyRun fun run => .released run.heartbeatAt _)

theorem readyStepAmong_changes (now : Instant) (steps : List AgentRunStep) :
    RunChanges runtime (readyStepAmong runtime now steps) := by
  induction steps with
  | nil => exact runChanges_pure _
  | cons step rest ih =>
    refine guarantees_ite ?_ (guarantees_ite (runChanges_pure _) (guarantees_ite ih (runChanges_pure _)))
    exact runChanges_bind (atStep_changes _ (returningStep_changes (transitionStep_changes _ _))) fun _ => runChanges_pure _

theorem readyStep_changes : RunChanges runtime (readyStep runtime) :=
  runChanges_bind runChanges_readClock fun _ => runChanges_read fun _ => readyStepAmong_changes _ _

theorem cancelSteps_changes (reason : String) : RunChanges runtime (cancelSteps runtime reason) := by
  refine runChanges_bind (runChanges_modifyRun fun run => ?_) fun _ => runChanges_read fun _ => ?_
  · exact .marked run.pauseRequested true run.currentStepId run.currentStepIndex run.capabilityLeaseId
      run.finalEvidenceHash run.updatedAt
  · exact guarantees_each (RunScope.changes_self runtime) (RunScope.changes_trans runtime) _ fun _ _ =>
      runChanges_onlyIf (atStep_changes _ (transitionStep_changes _ _))

theorem cancelAgentRun_changes (reason : String) : RunChanges runtime (cancelAgentRun runtime reason) := by
  refine runChanges_read fun _ => guarantees_ite (runChanges_pure _) (runChanges_bind runChanges_demand fun _ => ?_)
  exact runChanges_bind (cancelSteps_changes _) fun _ => transitionRunOf_changes _ _

theorem pauseAgentRun_changes (reason : String) : RunChanges runtime (pauseAgentRun runtime reason) := by
  refine runChanges_read fun _ => runChanges_bind runChanges_demand fun _ => ?_
  refine runChanges_bind (runChanges_modifyRun fun run => ?_) fun _ => transitionRunOf_changes _ _
  exact .marked true run.cancelRequested run.currentStepId run.currentStepIndex run.capabilityLeaseId
    run.finalEvidenceHash run.updatedAt

theorem resumeAgentRun_changes (reason : String) : RunChanges runtime (resumeAgentRun runtime reason) := by
  refine runChanges_read fun _ => runChanges_bind runChanges_demand fun _ => ?_
  refine runChanges_bind (runChanges_modifyRun fun run => ?_) fun _ => ?_
  · exact .marked false run.cancelRequested run.currentStepId run.currentStepIndex run.capabilityLeaseId
      run.finalEvidenceHash run.updatedAt
  · exact runChanges_bind (atCurrentStep_changes (resumeStep_changes _)) fun _ => transitionRunOf_changes _ _

theorem recoverStaleLease_changes (now : Instant) : RunChanges runtime (recoverStaleLease runtime now) := by
  refine runChanges_read fun _ => guarantees_ite (runChanges_pure _) ?_
  refine runChanges_bind (runChanges_modifyRun fun run => .released none run.updatedAt) fun _ => ?_
  refine runChanges_bind (atCurrentStep_changes ?_) fun _ => runChanges_pure _
  exact stepChanges_read fun _ => stepChanges_onlyIf (recoverRunningStep_changes _)

theorem beginExecution_changes (workerId : String) (leaseSeconds : Nat) :
    RunChanges runtime (beginExecution runtime workerId leaseSeconds) := by
  intro scope
  have begins : (beginExecution runtime workerId leaseSeconds).Ends scope fun _ after => scope.Changes runtime after := by
    refine ends_read (ends_guard .refl fun active => ends_guard .refl fun _ => ?_)
    rw [ends_ite]
    constructor
    · intro _
      have cancels : RunChanges runtime (cancelAgentRun runtime "Cancellation was already requested." >>= fun _ =>
          (Procedure.raise (.agentRunConflict "Cancelled run cannot execute.") : RunProcedure Begun)) :=
        runChanges_bind (cancelAgentRun_changes _) fun _ => guarantees_raise (RunScope.changes_self runtime) _
      exact cancels scope
    · intro _
      refine Ends.bind (acquireRunLease_changes active _ _) (fun token after changes => ?_) fun _ _ changes => changes
      refine changes_then changes (runChanges_bind readyStep_changes fun found => ?_)
      split
      · exact runChanges_bind (releaseRunLease_changes _) fun _ => runChanges_bind runChanges_demand fun _ => runChanges_pure _
      · exact runChanges_bind (atStep_changes _ (returningStep_changes (startStep_changes _ _))) fun _ => runChanges_pure _
  exact begins

theorem sealFinalEvidence_changes (outcome : ExecutorOutcome) : RunChanges runtime (sealFinalEvidence outcome) := by
  unfold sealFinalEvidence
  split
  · next finalHash =>
    apply runChanges_modifyRun
    intro run
    exact .marked run.pauseRequested run.cancelRequested run.currentStepId run.currentStepIndex run.capabilityLeaseId
      (some finalHash) run.updatedAt
  · exact runChanges_pure _

theorem advance_changes (completed : AgentRunStep) : RunChanges runtime (advance runtime completed) := by
  refine runChanges_bind (runChanges_read fun _ => ?_) fun _ => guarantees_ite ?_ ?_
  · split
    · exact runChanges_pure _
    · refine runChanges_bind (atStep_changes _ ?_) fun _ => runChanges_pure _
      exact stepChanges_bind (transitionStep_changes _ _) fun _ => pointAtStep_changes
  · exact runChanges_bind runChanges_readClock fun _ => runChanges_modifyRun fun _ => .resumed _
  · exact atStep_changes _ (transitionRun_changes _ _)

theorem applyExecutionResult_changes (stepId : String) (result : AgentRunStepExecutionResult) :
    RunChanges runtime (applyExecutionResult runtime stepId result) := by
  apply guarantees_ite
  · apply runChanges_bind _ advance_changes
    apply atStep_changes
    exact returningStep_changes (stepChanges_bind (recordResult_changes _) fun _ => transitionStep_changes _ _)
  · exact atStep_changes _ (stepChanges_bind (recordResult_changes _) fun _ => applyFailure_changes _)

theorem finishExecution_changes (stepId : String) (result : AgentRunStepExecutionResult) :
    RunChanges runtime (finishExecution runtime stepId result) := by
  refine runChanges_bind (applyExecutionResult_changes _ _) fun _ => ?_
  refine runChanges_bind (atStep_changes _ (modifyStep_changes fun _ => .released)) fun _ => ?_
  exact runChanges_bind runChanges_readClock fun _ => runChanges_modifyRun fun run => .released run.heartbeatAt _

end Run

end ControlTower
