import ControlTower.Run.Course
import ControlTower.Run.Supervisor
import ControlTower.Trust.Authorization

/-! The supervisor refines the course of a run. The procedures on a run and one
of its steps are followed move by move; the procedures on a whole run keep the
picture in which one step has the focus. -/

set_option autoImplicit false

namespace ControlTower

open Foundation
open Foundation.Procedure

/-- The course as a run shows it at one of its steps. -/
def courseOf (run : AgentRun) (passed : List AgentRunStep) (focus : AgentRunStep) (ahead : List AgentRunStep) :
    Course :=
  { binding := run.binding
    run := run.status
    pauseRequested := run.pauseRequested
    cancelRequested := run.cancelRequested
    pointer := run.currentStepId
    holder := run.leaseOwner
    behind := passed.map fun step => (step.identity, step.attemptCount)
    focus := focus.identity
    step := focus.status
    attempts := focus.attemptCount
    waiting := ahead.map AgentRunStep.identity }

section AtStep

variable {runtime : Runtime} {passed ahead : List AgentRunStep} {state : RunAtStep} {reason : String}

/-- The course seen from the step a procedure works on. -/
def seen (passed ahead : List AgentRunStep) (state : RunAtStep) : Course :=
  courseOf state.run passed state.step ahead

theorem seen_tick : seen passed ahead (Clocked.tick state) = seen passed ahead state := rfl

theorem transitionRun_projects (target : AgentRunStatus) :
    ProjectsAt (seen passed ahead) (transitionRun runtime target reason) (Move.toRun target) state := by
  refine projects_read (projects_ite Iff.rfl (fun _ => projects_pure _ _ _) fun _ => ?_)
  refine projects_bind (projects_demand Iff.rfl) fun _ _ _ _ => ?_
  exact projects_silent rfl (projects_modify rfl)

theorem transitionStep_projects (target : AgentRunStepStatus) :
    ProjectsAt (seen passed ahead) (transitionStep runtime target reason) (Move.toStep target) state := by
  refine projects_read ?_
  by_cases same : target = state.step.status
  · have legal : canTransitionStep state.step.status target = true := by simp [canTransitionStep, same]
    subst same
    simp [ProjectsAt, seen, courseOf, demand, legal, run_bind]
  · rw [if_neg same]
    have other : target = .running → state.step.status ≠ .running := by
      rintro rfl equal
      exact same equal.symm
    refine projects_bind (projects_demand (by simp [seen, courseOf])) fun _ _ middle legal => ?_
    have stays : middle = state := by
      by_cases can : canTransitionStep state.step.status target = true <;>
        simp_all [demand]
    subst stays
    refine projects_silent rfl (projects_modify ?_)
    by_cases starts : target = .running
    · simp [seen, courseOf, AgentRunStep.identity, starts, other starts, AgentRunStep.moved, Clocked.tick]
    · simp [seen, courseOf, AgentRunStep.identity, starts, AgentRunStep.moved, Clocked.tick]

/-- The course seen by a procedure that works on a step out of focus. -/
def seenBeside (passed : List AgentRunStep) (focus : AgentRunStep) (ahead : List AgentRunStep) (state : RunAtStep) :
    Course :=
  courseOf state.run passed focus ahead

theorem transitionRun_projectsBeside {focus : AgentRunStep} (target : AgentRunStatus) :
    ProjectsAt (seenBeside passed focus ahead) (transitionRun runtime target reason) (Move.toRun target) state := by
  refine projects_read (projects_ite Iff.rfl (fun _ => projects_pure _ _ _) fun _ => ?_)
  refine projects_bind (projects_demand Iff.rfl) fun _ _ _ _ => ?_
  exact projects_silent rfl (projects_modify rfl)

theorem pointAtStep_projects : ProjectsAt (seen passed ahead) pointAtStep Move.point state :=
  projects_modify rfl

theorem transitionBoth_projects (step : AgentRunStepStatus) (run : AgentRunStatus) (stepReason : String) :
    ProjectsAt (seen passed ahead) (transitionBoth runtime step stepReason run reason) (Move.toBoth step run) state :=
  projects_bind (transitionStep_projects step) fun _ _ _ _ => transitionRun_projects run

theorem allowDecided_projects :
    ProjectsAt (seen passed ahead) (allowDecided runtime) Move.allow state := by
  refine projects_read (projects_bind ?_ fun _ _ _ _ => ?_)
  · exact projects_ite Iff.rfl (fun _ => transitionStep_projects .ready) fun _ => projects_pure _ _ _
  · exact projects_ite Iff.rfl (fun _ => transitionRun_projects .scheduled) fun _ => projects_pure _ _ _

theorem denyDecided_projects :
    ProjectsAt (seen passed ahead) (denyDecided runtime reason) Move.deny state := by
  refine projects_read (projects_bind ?_ fun _ _ _ _ => ?_)
  · exact projects_ite Iff.rfl (fun _ => transitionStep_projects .blocked) fun _ => projects_pure _ _ _
  · exact projects_ite Iff.rfl (fun _ => transitionRun_projects .blocked) fun _ => projects_pure _ _ _

/-- A verdict on a step that does not wait for a human touches the run alone. -/
theorem allowDecided_projectsBeside {focus : AgentRunStep} (settled : state.step.status ≠ .needsHuman) :
    ProjectsAt (seenBeside passed focus ahead) (allowDecided runtime) Move.allowElsewhere state := by
  refine projects_read ?_
  rw [onlyIf, if_neg settled]
  exact projects_ite Iff.rfl (fun _ => transitionRun_projectsBeside .scheduled) fun _ => projects_pure _ _ _

theorem denyDecided_projectsBeside {focus : AgentRunStep} (settled : state.step.status ≠ .needsHuman) :
    ProjectsAt (seenBeside passed focus ahead) (denyDecided runtime reason) Move.denyElsewhere state := by
  refine projects_read ?_
  rw [onlyIf, if_neg settled]
  exact projects_ite Iff.rfl (fun _ => transitionRun_projectsBeside .blocked) fun _ => projects_pure _ _ _

theorem recoverRunningStep_projects (now : Instant) :
    ProjectsAt (seen passed ahead) (recoverRunningStep runtime now) Move.recoverStep state := by
  refine projects_modify_silent rfl (projects_read ?_)
  refine projects_ite Iff.rfl (fun _ => ?_) fun _ => ?_
  · refine projects_bind (transitionStep_projects .retryWait) fun _ _ middle _ => ?_
    exact projects_modify_silent rfl (projects_onlyIf Iff.rfl fun _ => transitionRun_projects .retryWait)
  · refine projects_bind (transitionStep_projects .needsHuman) fun _ _ middle _ => ?_
    exact projects_onlyIf Iff.rfl fun _ => transitionRun_projects .needsHuman

theorem retryAgentRunStep_projects :
    ProjectsAt (seen passed ahead) (retryAgentRunStep runtime reason) Move.retry state := by
  refine projects_read (projects_bind (projects_demand Iff.rfl) fun _ _ _ _ => ?_)
  refine projects_bind (projects_demand Iff.rfl) fun _ _ _ _ => ?_
  refine projects_bind (projects_demand Iff.rfl) fun _ _ _ _ => ?_
  refine projects_bind (projects_modify rfl) fun _ _ _ _ => ?_
  refine projects_bind (transitionStep_projects .ready) fun _ _ _ _ => ?_
  refine projects_modify_silent rfl (projects_bind pointAtStep_projects fun _ _ _ _ => ?_)
  refine projects_bind (projects_modify rfl) fun _ _ _ _ => ?_
  exact projects_onlyIf Iff.rfl fun _ => transitionRun_projects .scheduled

theorem startStep_projects (workerId leaseToken : String) :
    ProjectsAt (seen passed ahead) (startStep runtime workerId leaseToken) Move.start state := by
  refine projects_bind (transitionStep_projects .running) fun _ _ _ _ => ?_
  refine projects_silent rfl (projects_read (projects_modify_silent rfl ?_))
  refine projects_bind pointAtStep_projects fun _ _ _ _ => ?_
  exact projects_onlyIf Iff.rfl fun _ => transitionRun_projects .running

/-- The move of a verdict other than `PASS`. -/
theorem applyFailure_projects (result : AgentRunStepExecutionResult) (failure : result.decision ≠ .pass) :
    ProjectsAt (seen passed ahead) (applyFailure runtime result) (Move.settle result.decision) state := by
  refine projects_read ?_
  cases verdict : result.decision with
  | pass => exact absurd verdict failure
  | retryTransient =>
    refine projects_ite Iff.rfl (fun _ => ?_) fun _ => transitionBoth_projects _ _ _
    refine projects_bind (transitionStep_projects .retryWait) fun _ _ _ _ => ?_
    exact projects_silent rfl (projects_modify_silent rfl (transitionRun_projects .retryWait))
  | needsRevision => exact transitionBoth_projects _ _ _
  | needsHuman => exact transitionBoth_projects _ _ _
  | blockPolicy => exact transitionBoth_projects _ _ _
  | failPermanent => exact transitionBoth_projects _ _ _

end AtStep

end ControlTower
