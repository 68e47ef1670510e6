import ControlTower.Run.Sound

/-! The frontier of a durable run: the steps up to one step have passed, and no
step behind it has been touched. -/

set_option autoImplicit false

namespace ControlTower

open Foundation
open Foundation.Procedure

/-- One step of the run has the pointer, the steps before it have passed, and the
steps behind it are pending. -/
def DurableRun.HasFrontier (durable : DurableRun) : Prop :=
  ∃ frontier ∈ durable.steps, durable.run.currentStepId = some frontier.id ∧
    (∀ step ∈ durable.steps, step.sequence < frontier.sequence → step.status = .succeeded ∧ 1 ≤ step.attemptCount) ∧
    (∀ step ∈ durable.steps, frontier.sequence < step.sequence → step.status = .pending) ∧
    (durable.run.status = .succeeded ↔ ∀ step ∈ durable.steps, step.status = .succeeded) ∧
    ((∀ step ∈ durable.steps, step.status = .succeeded) → ∀ step ∈ durable.steps, step.sequence ≤ frontier.sequence)

section Frontier

variable {run : AgentRun} {steps : List AgentRunStep} {course : Course}

/-- The position of a step decides whether it has passed, is in focus, or waits. -/
theorem Picture.placed {passed ahead : List AgentRunStep} {focus : AgentRunStep}
    (picture : Picture run steps passed focus ahead) :
    (∀ step ∈ passed, step.sequence < focus.sequence) ∧ ∀ step ∈ ahead, focus.sequence < step.sequence := by
  refine ⟨?_, picture.sequence_lt⟩
  have ascending := picture.lineup.ascending
  rw [picture.arranged, List.map_append, List.map_cons, List.pairwise_append] at ascending
  intro step member
  exact ascending.2.2 step.identity (List.mem_map_of_mem member) focus.identity List.mem_cons_self

theorem Depicts.hasFrontier (depicts : Depicts run steps course) (steady : course.Steady)
    (active : run.status ≠ .cancelled) : DurableRun.HasFrontier ⟨run, steps⟩ := by
  obtain ⟨passed, focus, ahead, picture, rfl⟩ := depicts
  obtain ⟨before, behind⟩ := picture.placed
  have fits := steady.fits
  -- a run whose cancellation was requested is cancelled
  have uncancelled : run.cancelRequested = false := by
    by_contra requested
    have cancelled : run.cancelRequested = true := by simpa using requested
    exact active (fits.2.2.2.1.mp cancelled)
  have members := picture.arranged
  have inFocus : focus ∈ steps := by simp [members]
  -- the steps are the passed ones, the one in focus and those ahead
  have placed : ∀ step ∈ steps, step ∈ passed ∨ step = focus ∨ step ∈ ahead := by
    intro step member
    simpa [members] using member
  refine ⟨focus, inFocus, picture.pointed, fun step member earlier => ?_, fun step member later => ?_, ?_, ?_⟩
  · rcases placed step member with done | rfl | waits
    · exact picture.done step done
    · exact absurd earlier (Nat.lt_irrefl _)
    · exact absurd (behind step waits) (Nat.lt_asymm earlier)
  · rcases placed step member with done | rfl | waits
    · exact absurd (before step done) (Nat.lt_asymm later)
    · exact absurd later (Nat.lt_irrefl _)
    · simpa [uncancelled, waitingStatus] using (picture.waits step waits).1
  · refine ⟨fun finished step member => ?_, fun all => fits.2.2.1.mpr (all focus inFocus)⟩
    have passing : focus.status = .succeeded := fits.2.2.1.mp finished
    rcases placed step member with done | rfl | waits
    · exact (picture.done step done).1
    · exact passing
    · -- where the step in focus has succeeded and the run has too, no step is ahead
      have last := steady.last passing
      rw [List.map_eq_nil_iff.mp last] at waits
      cases waits
  · intro all step member
    rcases placed step member with done | rfl | waits
    · exact Nat.le_of_lt (before step done)
    · exact Nat.le_refl _
    · have last := steady.last (all focus inFocus)
      rw [List.map_eq_nil_iff.mp last] at waits
      cases waits

end Frontier

/-- No step of a run is ready before all earlier steps have passed. -/
def DurableRun.OpensInOrder (durable : DurableRun) : Prop :=
  ∀ step ∈ durable.steps, step.status = .ready → ∀ earlier ∈ durable.steps, earlier.sequence < step.sequence →
    earlier.status = .succeeded

theorem DurableRun.HasFrontier.opensInOrder {durable : DurableRun} (hasFrontier : durable.HasFrontier) :
    durable.OpensInOrder := by
  obtain ⟨frontier, -, -, before, behind, -⟩ := hasFrontier
  intro step member ready earlier there sooner
  by_cases beyond : frontier.sequence < step.sequence
  · have pending := behind step member beyond
    rw [ready] at pending
    cases pending
  · exact (before earlier there (Nat.lt_of_lt_of_le sooner (Nat.not_lt.mp beyond))).1

/-- In every store that requests reach, a run that is not cancelled has a frontier. -/
theorem run_frontier (runtime : Runtime) (store : Store)
    (reachable : (runMachine runtime).Reachable Machine.anything store) (runId : String) (durable : DurableRun)
    (stored : store.agentRuns.get? runId = some durable) (active : durable.run.status ≠ .cancelled) :
    durable.HasFrontier ∧ durable.OpensInOrder := by
  obtain ⟨course, -, depicts, steady⟩ := steady_reachable reachable runId durable stored
  have hasFrontier : durable.HasFrontier := depicts.hasFrontier steady active
  exact ⟨hasFrontier, hasFrontier.opensInOrder⟩

section Sample

/-- A run of the approved task, with a budget of attempts for each step. -/
def createRequest (maxAttemptsPerStep : Nat) (bounds : 1 ≤ maxAttemptsPerStep ∧ maxAttemptsPerStep ≤ 10) : RunRequest :=
  .createRun ⟨"task_1", none, maxAttemptsPerStep, bounds, none⟩

/-- The identifier of that run. -/
def createdRunId : String := "agent_run_"

theorem run_frontier_created : ∃ durable,
    (storeAfter (.plain false) [createRequest 1 (by decide)]).agentRuns.get? createdRunId = some durable ∧
      durable.HasFrontier ∧ durable.OpensInOrder := by
  have stored : ((storeAfter (.plain false) [createRequest 1 (by decide)]).agentRuns.get? createdRunId).isSome = true ∧
      ((storeAfter (.plain false) [createRequest 1 (by decide)]).agentRuns.get? createdRunId).all
        (fun durable => durable.run.status != .cancelled) = true := by decide
  obtain ⟨durable, found⟩ := Option.isSome_iff_exists.mp stored.1
  refine ⟨durable, found, run_frontier (.plain false) _ (storeAfter_reachable _ _) createdRunId durable found ?_⟩
  simpa [found] using stored.2

end Sample

end ControlTower
