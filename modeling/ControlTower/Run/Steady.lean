import ControlTower.Run.Attempt

/-! The steady courses: the pairs of run status and step status that the moves
of the service lead to, and that each move keeps. -/

set_option autoImplicit false

namespace ControlTower

open Foundation
open Foundation.Procedure

/-- The run status and the status of the focused step fit together. -/
def Fits (run : AgentRunStatus) (step : AgentRunStepStatus) (cancelRequested : Bool) : Prop :=
  (run = .needsHuman → step = .needsHuman) ∧ (step = .running → run = .running) ∧
    (run = .succeeded ↔ step = .succeeded) ∧ (cancelRequested = true ↔ run = .cancelled) ∧
    (cancelRequested = true → step.isTerminal = true) ∧ run ≠ .evaluating ∧
    step ≠ .pending ∧ step ≠ .paused ∧ step ≠ .skipped

instance (run : AgentRunStatus) (step : AgentRunStepStatus) (cancelRequested : Bool) :
    Decidable (Fits run step cancelRequested) := by
  unfold Fits
  infer_instance

structure Course.Steady (course : Course) : Prop where
  fits : Fits course.run course.step course.cancelRequested
  attempted : course.step = .running ∨ course.step = .succeeded → 1 ≤ course.attempts
  last : course.step = .succeeded → course.waiting = []

section Fits

variable {run : AgentRunStatus} {step : AgentRunStepStatus} {cancelRequested : Bool}

/-- A refusal or a verdict reaches the step, and then the run if it accepts. -/
theorem fits_toBoth (fits : Fits run step cancelRequested) {goal : AgentRunStepStatus} {runGoal : AgentRunStatus}
    (pair : (goal, runGoal) ∈ [(.needsHuman, .needsHuman), (.blocked, .blocked)])
    (legal : canTransitionStep step goal = true) :
    Fits (if canTransitionRun run runGoal = true then runGoal else run) goal cancelRequested := by
  simp only [List.mem_cons, Prod.mk.injEq, List.not_mem_nil, or_false] at pair
  obtain ⟨rfl, rfl⟩ | ⟨rfl, rfl⟩ := pair <;> revert fits legal <;>
    cases run <;> cases step <;> cases cancelRequested <;> decide

theorem fits_allow (fits : Fits run step cancelRequested) :
    Fits (if run = .needsHuman then .scheduled else run) (if step = .needsHuman then .ready else step)
      cancelRequested := by
  revert fits
  cases run <;> cases step <;> cases cancelRequested <;> decide

theorem fits_deny (fits : Fits run step cancelRequested) :
    Fits (if run = .needsHuman then .blocked else run) (if step = .needsHuman then .blocked else step)
      cancelRequested := by
  revert fits
  cases run <;> cases step <;> cases cancelRequested <;> decide

theorem fits_elsewhere (fits : Fits run step cancelRequested) :
    Fits (if run = .needsHuman then .scheduled else run) step cancelRequested ∧
      Fits (if run = .needsHuman then .blocked else run) step cancelRequested := by
  revert fits
  cases run <;> cases step <;> cases cancelRequested <;> decide

theorem fits_pause (fits : Fits run step cancelRequested) (boundary : step ≠ .running)
    (legal : canTransitionRun run .paused = true) : Fits .paused step cancelRequested := by
  revert fits boundary legal
  cases run <;> cases step <;> cases cancelRequested <;> decide

theorem fits_resume (fits : Fits run step cancelRequested)
    (waits : run = .paused ∨ run = .needsHuman ∨ run = .retryWait) :
    Fits .scheduled (if step = .paused ∨ step = .needsHuman ∨ step = .retryWait then .ready else step)
      cancelRequested := by
  revert fits waits
  cases run <;> cases step <;> cases cancelRequested <;> decide

theorem fits_cancel (fits : Fits run step cancelRequested) (active : run.isTerminal = false) :
    Fits .cancelled (if step.isTerminal = true then step else .cancelled) true := by
  revert fits active
  cases run <;> cases step <;> cases cancelRequested <;> decide

theorem fits_retry (fits : Fits run step cancelRequested) (active : run.isTerminal = false)
    (waits : step = .retryWait ∨ step = .needsHuman ∨ step = .failed) :
    Fits (if run = .needsHuman ∨ run = .retryWait then .scheduled else run) .ready cancelRequested := by
  revert fits active waits
  cases run <;> cases step <;> cases cancelRequested <;> decide

theorem fits_recover (fits : Fits run .running cancelRequested) :
    Fits (if run = .running ∨ run = .retryWait then .needsHuman else run) .needsHuman cancelRequested ∧
      Fits (if run = .running then .retryWait else run) .retryWait cancelRequested := by
  revert fits
  cases run <;> cases cancelRequested <;> decide

theorem fits_begin (fits : Fits run step cancelRequested) (active : run.isTerminal = false)
    (unpaused : run ≠ .paused) (idle : step = .ready ∨ step = .retryWait) :
    Fits (if run = .scheduled ∨ run = .retryWait then .running else run) .running cancelRequested := by
  revert fits active unpaused idle
  cases run <;> cases step <;> cases cancelRequested <;> decide

/-- While the step runs, so does the run, and neither is at an end. -/
theorem fits_running (fits : Fits run .running cancelRequested) : run = .running ∧ cancelRequested = false := by
  revert fits
  cases run <;> cases cancelRequested <;> decide

end Fits

namespace Course.Steady

variable {course : Course}

/-- A course whose step neither runs nor has passed. -/
theorem idle (fits : Fits course.run course.step course.cancelRequested) (quiet : course.step ≠ .running)
    (open_ : course.step ≠ .succeeded) : course.Steady :=
  ⟨fits, fun either => (either.elim quiet open_).elim, fun passed => absurd passed open_⟩

/-- A course that changes where the steady shape does not look. -/
theorem sameShape {other : Course} (steady : course.Steady) (run : other.run = course.run)
    (step : other.step = course.step) (cancelled : other.cancelRequested = course.cancelRequested)
    (attempts : other.attempts = course.attempts) (waiting : other.waiting = course.waiting) : other.Steady := by
  obtain ⟨fits, attempted, last⟩ := steady
  exact ⟨by rw [run, step, cancelled]; exact fits, by rw [step, attempts]; exact attempted,
    by rw [step, waiting]; exact last⟩

theorem moveRun {target : AgentRunStatus} {holder : Option String} {pause : Bool} (steady : course.Steady)
    (fits : Fits target course.step course.cancelRequested) :
    Steady { course with run := target, holder := holder, pauseRequested := pause } :=
  ⟨fits, steady.attempted, steady.last⟩

theorem toBoth {goal : AgentRunStepStatus} {runGoal : AgentRunStatus} (steady : course.Steady)
    (pair : (goal, runGoal) ∈ [(.needsHuman, .needsHuman), (.blocked, .blocked)]) :
    (course.after (Move.toBoth goal runGoal)).Steady := by
  have quiet : goal ≠ .running ∧ goal ≠ .succeeded := by
    simp only [List.mem_cons, Prod.mk.injEq, List.not_mem_nil, or_false] at pair
    obtain ⟨rfl, -⟩ | ⟨rfl, -⟩ := pair <;> decide
  simp only [Course.after, Move.run_toBoth]
  by_cases legal : canTransitionStep course.step goal = true
  · have fits := fits_toBoth steady.fits pair legal
    by_cases allowed : canTransitionRun course.run runGoal = true
    · rw [if_pos allowed] at fits
      simp only [legal, allowed, if_true]
      exact idle fits quiet.1 quiet.2
    · rw [if_neg allowed] at fits
      simp only [legal, allowed, if_true]
      exact idle fits quiet.1 quiet.2
  · rw [if_neg legal]
    exact steady

theorem hold (steady : course.Steady) : (course.after Move.hold).Steady := steady.toBoth (by simp)

theorem block (steady : course.Steady) : (course.after Move.block).Steady := steady.toBoth (by simp)

theorem allow (steady : course.Steady) : (course.after Move.allow).Steady := by
  simp only [Course.after, Move.run_allow]
  refine ⟨fits_allow steady.fits, ?_, ?_⟩ <;> by_cases gate : course.step = .needsHuman <;> simp only [gate, if_true, if_false]
  · simp
  · exact steady.attempted
  · simp
  · exact steady.last

theorem deny (steady : course.Steady) : (course.after Move.deny).Steady := by
  simp only [Course.after, Move.run_deny]
  refine ⟨fits_deny steady.fits, ?_, ?_⟩ <;> by_cases gate : course.step = .needsHuman <;> simp only [gate, if_true, if_false]
  · simp
  · exact steady.attempted
  · simp
  · exact steady.last

theorem allowElsewhere (steady : course.Steady) : (course.after Move.allowElsewhere).Steady := by
  simp only [Course.after, Move.run_allowElsewhere]
  exact steady.moveRun (fits_elsewhere steady.fits).1

theorem denyElsewhere (steady : course.Steady) : (course.after Move.denyElsewhere).Steady := by
  simp only [Course.after, Move.run_denyElsewhere]
  exact steady.moveRun (fits_elsewhere steady.fits).2

theorem pause (steady : course.Steady) (boundary : course.step ≠ .running) :
    (course.after Move.pause).Steady := by
  simp only [Course.after, Move.run_pause]
  split
  · exact steady
  · split
    · rename_i legal
      exact steady.moveRun (fits_pause steady.fits boundary legal)
    · exact steady.moveRun steady.fits

theorem resume (steady : course.Steady) : (course.after Move.resume).Steady := by
  simp only [Course.after, Move.run_resume]
  split
  · rename_i waits
    refine ⟨fits_resume steady.fits waits, ?_, ?_⟩ <;>
      by_cases away : course.step = .paused ∨ course.step = .needsHuman ∨ course.step = .retryWait <;>
      simp only [away, if_true, if_false]
    · simp
    · exact steady.attempted
    · simp
    · exact steady.last
  · exact steady

theorem cancel (steady : course.Steady) : (course.after Move.cancel).Steady := by
  simp only [Course.after, Move.run_cancel]
  split
  · exact steady
  · split
    · exact steady
    · rename_i active
      have fits := fits_cancel steady.fits (by simpa using active)
      have unfinished : course.step ≠ .succeeded := by
        intro passed
        rw [steady.fits.2.2.1.mpr passed] at active
        exact active rfl
      by_cases ended : course.step.isTerminal = true
      · rw [if_pos ended] at fits ⊢
        refine idle fits (fun running => ?_) unfinished
        change course.step = .running at running
        rw [running] at ended
        exact absurd ended (by decide)
      · rw [if_neg ended] at fits ⊢
        exact idle fits (by simp) (by simp)

theorem retry (steady : course.Steady) (owned : course.focus.runId = course.binding.id)
    (active : course.run.isTerminal = false) : (course.after Move.retry).Steady := by
  simp only [Course.after, Move.run_retry course owned]
  split
  · rename_i waits
    exact idle (fits_retry steady.fits active waits.1) (by simp) (by simp)
  · exact steady

theorem recover (steady : course.Steady) : (course.after Move.recover).Steady := by
  simp only [Course.after, Move.run_recover]
  split
  · rename_i attempt
    obtain ⟨spent, left⟩ := fits_recover (attempt ▸ steady.fits)
    split
    · exact idle spent (by simp) (by simp)
    · exact idle left (by simp) (by simp)
  · exact steady.sameShape rfl rfl rfl rfl rfl

theorem begin (steady : course.Steady) (workerId : String) (startable : course.Startable)
    (ready : course.step = .ready ∨ course.step = .retryWait) :
    (course.after (Move.begin workerId)).Steady := by
  simp only [Course.after, Move.run_begin course workerId ready, Move.run_start]
  exact ⟨fits_begin steady.fits startable.active startable.unpaused.2 ready, fun _ => by simp, fun passed => by simp at passed⟩

theorem bind (steady : course.Steady) (leaseId : String) : (course.after (Move.bind leaseId)).Steady :=
  steady.sameShape rfl rfl rfl rfl rfl

theorem release (steady : course.Steady) : (course.after Move.release).Steady :=
  steady.sameShape rfl rfl rfl rfl rfl

theorem finish (steady : course.Steady) (decision : VerificationDecision) (attempt : course.step = .running) :
    (course.after (Move.finish decision)).Steady := by
  obtain ⟨active, uncancelled⟩ := fits_running (attempt ▸ steady.fits)
  have ends : ∀ run step, Fits run step false → Fits run step course.cancelRequested := by
    rw [uncancelled]
    exact fun _ _ => id
  by_cases passing : decision = .pass
  · subst passing
    cases waiting : course.waiting with
    | nil =>
      simp only [Course.after, Move.run_finish_last course attempt active waiting]
      exact ⟨ends .succeeded .succeeded (by decide), fun _ => steady.attempted (.inl attempt), fun _ => waiting⟩
    | cons next rest =>
      simp only [Course.after, Move.run_finish_next course attempt waiting]
      exact idle (ends .running .ready (by decide)) (by simp) (by simp)
  · simp only [Course.after, Move.run_finish_failure course passing attempt active]
    cases decision with
    | pass => exact absurd rfl passing
    | retryTransient =>
      by_cases spent : course.Spent
      · simp only [Move.verdict, spent, if_true]
        exact idle (ends .needsHuman .needsHuman (by decide)) (by simp) (by simp)
      · simp only [Move.verdict, spent, if_false]
        exact idle (ends .retryWait .retryWait (by decide)) (by simp) (by simp)
    | needsRevision | needsHuman =>
      exact idle (ends .needsHuman .needsHuman (by decide)) (by simp [Move.verdict]) (by simp [Move.verdict])
    | blockPolicy =>
      exact idle (ends .blocked .blocked (by decide)) (by simp [Move.verdict]) (by simp [Move.verdict])
    | failPermanent =>
      exact idle (ends .failed .failed (by decide)) (by simp [Move.verdict]) (by simp [Move.verdict])

/-- The verdict of a running attempt is always carried out. -/
theorem finish_accepted (steady : course.Steady) (decision : VerificationDecision) (attempt : course.step = .running) :
    course.accepts (Move.finish decision) = true := by
  obtain ⟨active, -⟩ := fits_running (attempt ▸ steady.fits)
  by_cases passing : decision = .pass
  · subst passing
    cases waiting : course.waiting with
    | nil =>
      rw [Course.accepts, Move.run_finish_last course attempt active waiting]
      rfl
    | cons next rest =>
      rw [Course.accepts, Move.run_finish_next course attempt waiting]
      rfl
  · rw [Course.accepts, Move.run_finish_failure course passing attempt active]
    rfl

/-- After a verdict other than a pass the step has not passed. -/
theorem finish_unpassed (steady : course.Steady) {decision : VerificationDecision} (failure : decision ≠ .pass)
    (attempt : course.step = .running) :
    (course.after (Move.finish decision)).step ≠ .succeeded ∧
      (course.after (Move.finish decision)).focus = course.focus := by
  obtain ⟨active, -⟩ := fits_running (attempt ▸ steady.fits)
  rw [Course.after, Move.run_finish_failure course failure attempt active]
  refine ⟨?_, rfl⟩
  cases decision with
  | pass => exact absurd rfl failure
  | retryTransient => by_cases spent : course.Spent <;> simp [Move.verdict, spent]
  | needsRevision | needsHuman | blockPolicy | failPermanent => simp [Move.verdict]

/-- A step that can pass belongs to a run that is not cancelled. -/
theorem passable (steady : course.Steady) : course.Passable := by
  intro legal
  have passing : course.step = .running ∨ course.step = .succeeded := by
    revert legal
    cases course.step <;> decide
  refine ⟨?_, steady.attempted passing⟩
  obtain ⟨-, attempt, finished, ended, -⟩ := steady.fits
  by_contra requested
  have cancelled := ended.mp (by simpa using requested)
  rcases passing with running | passed
  · rw [attempt running] at cancelled
    exact absurd cancelled (by decide)
  · rw [finished.mpr passed] at cancelled
    exact absurd cancelled (by decide)

end Course.Steady

end ControlTower
