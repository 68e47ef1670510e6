import ControlTower.Run.Recovery

/-! How far the status of a run agrees with its steps. The service keeps it in step by
step; the reference derivation reads it off the steps. -/

set_option autoImplicit false

namespace ControlTower

open Foundation
open Foundation.Procedure

/-- The run status, the status of the focused step and the flag of a pause, as they occur together. -/
def Paired (run : AgentRunStatus) (step : AgentRunStepStatus) (pauseRequested : Bool) : Bool :=
  match run with
  | .scheduled | .blocked => step == .ready || step == .needsHuman || step == .blocked
  | .running => (step == .ready || step == .running) && !pauseRequested
  | .retryWait => step == .retryWait && !pauseRequested
  | .paused => step == .ready || step == .needsHuman || step == .blocked || (step == .retryWait && pauseRequested)
  | .needsHuman => step == .needsHuman
  | .succeeded => step == .succeeded && !pauseRequested
  | .failed => step == .failed && !pauseRequested
  | .cancelled => step == .cancelled || step == .blocked
  | .evaluating => false

section Paired

variable {run : AgentRunStatus} {step : AgentRunStepStatus} {pauseRequested : Bool}

/-- A refusal reaches the step, and then the run if it accepts. -/
theorem paired_toBoth (paired : Paired run step pauseRequested = true) {goal : AgentRunStepStatus}
    {runGoal : AgentRunStatus} (pair : (goal, runGoal) ∈ [(.needsHuman, .needsHuman), (.blocked, .blocked)])
    (legal : canTransitionStep step goal = true) :
    Paired (if canTransitionRun run runGoal = true then runGoal else run) goal pauseRequested = true := by
  simp only [List.mem_cons, Prod.mk.injEq, List.not_mem_nil, or_false] at pair
  obtain ⟨rfl, rfl⟩ | ⟨rfl, rfl⟩ := pair <;> revert paired legal <;>
    cases run <;> cases step <;> cases pauseRequested <;> decide

theorem paired_allow (paired : Paired run step pauseRequested = true) :
    Paired (if run = .needsHuman then .scheduled else run) (if step = .needsHuman then .ready else step)
      pauseRequested = true := by
  revert paired
  cases run <;> cases step <;> cases pauseRequested <;> decide

theorem paired_deny (paired : Paired run step pauseRequested = true) :
    Paired (if run = .needsHuman then .blocked else run) (if step = .needsHuman then .blocked else step)
      pauseRequested = true := by
  revert paired
  cases run <;> cases step <;> cases pauseRequested <;> decide

theorem paired_elsewhere (paired : Paired run step pauseRequested = true) :
    Paired (if run = .needsHuman then .scheduled else run) step pauseRequested = true ∧
      Paired (if run = .needsHuman then .blocked else run) step pauseRequested = true := by
  revert paired
  cases run <;> cases step <;> cases pauseRequested <;> decide

theorem paired_pause (paired : Paired run step pauseRequested = true) (idle : step ≠ .running)
    (active : run.isTerminal = false) :
    Paired (if canTransitionRun run .paused = true then .paused else run) step true = true := by
  revert paired idle active
  cases run <;> cases step <;> cases pauseRequested <;> decide

theorem paired_resume (paired : Paired run step pauseRequested = true)
    (waits : run = .paused ∨ run = .needsHuman ∨ run = .retryWait) :
    Paired .scheduled (if step = .paused ∨ step = .needsHuman ∨ step = .retryWait then .ready else step) false = true := by
  revert paired waits
  cases run <;> cases step <;> cases pauseRequested <;> decide

theorem paired_cancel (paired : Paired run step pauseRequested = true) (active : run.isTerminal = false) :
    Paired .cancelled (if step.isTerminal = true then step else .cancelled) pauseRequested = true := by
  revert paired active
  cases run <;> cases step <;> cases pauseRequested <;> decide

theorem paired_retry (paired : Paired run step pauseRequested = true) (active : run.isTerminal = false)
    (waits : step = .retryWait ∨ step = .needsHuman ∨ step = .failed) :
    Paired (if run = .needsHuman ∨ run = .retryWait then .scheduled else run) .ready false = true := by
  revert paired active waits
  cases run <;> cases step <;> cases pauseRequested <;> decide

/-- While the step runs, so does the run, and nobody asks for a pause. -/
theorem paired_running (paired : Paired run .running pauseRequested = true) : run = .running ∧ pauseRequested = false := by
  revert paired
  cases run <;> cases pauseRequested <;> decide

theorem paired_begin (paired : Paired run step false = true) (active : run.isTerminal = false) (unpaused : run ≠ .paused)
    (idle : step = .ready ∨ step = .retryWait) :
    Paired (if run = .scheduled ∨ run = .retryWait then .running else run) .running false = true := by
  revert paired active unpaused idle
  cases run <;> cases step <;> decide

end Paired

/-- The statuses of a course and its flag of a pause occur together. -/
def Course.Aligned (course : Course) : Prop := Paired course.run course.step course.pauseRequested = true

section Aligned

variable {course : Course}

theorem aligned_toBoth (aligned : course.Aligned) {goal : AgentRunStepStatus} {runGoal : AgentRunStatus}
    (pair : (goal, runGoal) ∈ [(.needsHuman, .needsHuman), (.blocked, .blocked)]) :
    (course.after (Move.toBoth goal runGoal)).Aligned := by
  unfold Course.after
  rw [Move.run_toBoth]
  by_cases legal : canTransitionStep course.step goal = true
  · have paired := paired_toBoth aligned pair legal
    rw [if_pos legal]
    by_cases allowed : canTransitionRun course.run runGoal = true
    · rw [if_pos allowed] at paired ⊢
      exact paired
    · rw [if_neg allowed] at paired ⊢
      exact paired
  · rw [if_neg legal]
    exact aligned

/-- A verdict leaves the step and the run in a pair. -/
theorem paired_verdict (decision : VerificationDecision) (failure : decision ≠ .pass) :
    Paired (Move.verdict course decision).2 (Move.verdict course decision).1 false = true := by
  cases decision with
  | pass => exact absurd rfl failure
  | retryTransient =>
    unfold Move.verdict
    dsimp only
    split <;> rfl
  | needsRevision | needsHuman | blockPolicy | failPermanent => rfl

theorem aligned_finish (aligned : course.Aligned) (decision : VerificationDecision) (attempt : course.step = .running) :
    (course.after (Move.finish decision)).Aligned := by
  have here : Paired course.run .running course.pauseRequested = true := attempt ▸ aligned
  obtain ⟨active, unpaused⟩ := paired_running here
  unfold Course.after Course.Aligned
  by_cases passing : decision = .pass
  · subst passing
    cases waiting : course.waiting with
    | nil =>
      rw [Move.run_finish_last course attempt active waiting]
      dsimp only
      rw [unpaused]
      rfl
    | cons next rest =>
      rw [Move.run_finish_next course attempt waiting]
      dsimp only
      rw [unpaused]
      rfl
  · rw [Move.run_finish_failure course passing attempt active]
    dsimp only
    rw [unpaused]
    exact paired_verdict decision passing

theorem aligned_recover (aligned : course.Aligned) : (course.after Move.recover).Aligned := by
  unfold Course.after Course.Aligned
  rw [Move.run_recover]
  by_cases attempt : course.step = .running
  · have here : Paired course.run .running course.pauseRequested = true := attempt ▸ aligned
    obtain ⟨active, unpaused⟩ := paired_running here
    by_cases spent : course.Spent
    · simp only [attempt, spent, active, unpaused, if_true, true_or]
      rfl
    · simp only [attempt, spent, active, unpaused, if_true, if_false]
      rfl
  · rw [if_neg attempt]
    exact aligned

/-- Every deed leads from a pair to a pair. -/
theorem Course.Aligned.deed (aligned : course.Aligned) (deed : Deed) (enabled : deed.Enabled course) :
    (course.after deed.move).Aligned := by
  cases deed with
  | bind leaseId => exact aligned
  | hold => exact aligned_toBoth aligned (by simp)
  | block => exact aligned_toBoth aligned (by simp)
  | clear =>
    simp only [Deed.move, Course.after, Move.run_allow]
    exact paired_allow aligned
  | decided decision =>
    cases decision with
    | allow =>
      simp only [Deed.move, Course.after, Move.run_allow]
      exact paired_allow aligned
    | block =>
      simp only [Deed.move, Course.after, Move.run_deny]
      exact paired_deny aligned
  | decidedElsewhere decision =>
    cases decision with
    | allow =>
      simp only [Deed.move, Course.after, Move.run_allowElsewhere]
      exact (paired_elsewhere aligned).1
    | block =>
      simp only [Deed.move, Course.after, Move.run_denyElsewhere]
      exact (paired_elsewhere aligned).2
  | pause =>
    simp only [Deed.move, Course.after, Move.run_pause]
    by_cases gone : course.run.isTerminal = true
    · rw [if_pos gone]
      exact aligned
    · -- a pause is marked on the run even where its status cannot change
      have paired := paired_pause aligned enabled.1 (by simpa using gone)
      rw [if_neg gone]
      by_cases allowed : canTransitionRun course.run .paused = true
      · rw [if_pos allowed] at paired ⊢
        exact paired
      · rw [if_neg allowed] at paired ⊢
        exact paired
  | resume =>
    simp only [Deed.move, Course.after, Move.run_resume]
    split
    · next waits => exact paired_resume aligned waits
    · exact aligned
  | cancel =>
    simp only [Deed.move, Course.after, Move.run_cancel]
    split
    · exact aligned
    · split
      · exact aligned
      · next active => exact paired_cancel aligned (by simpa using active)
  | retry =>
    simp only [Deed.move, Course.after, Move.run_retry course enabled.1]
    split
    · next waits => exact paired_retry aligned enabled.2 waits.1
    · exact aligned
  | recover => exact aligned_recover aligned
  | begin workerId =>
    obtain ⟨startable, idle, -⟩ := enabled
    -- a run that may start has no pause requested
    have unpaused : Paired course.run course.step false = true := startable.unpaused.1 ▸ aligned
    have paired := paired_begin unpaused startable.active startable.unpaused.2 idle
    simp only [Deed.move, Course.after, Move.run_begin course workerId idle, Move.run_start, Course.Aligned]
    rw [startable.unpaused.1]
    exact paired
  | finish decision => exact aligned_finish aligned decision enabled

theorem aligned_reachable {runtime : Runtime} {allowed : Store → RunRequest → Prop} {store : Store}
    (reachable : (runMachine runtime).Reachable allowed store) :
    store.Every fun course => course.Steady ∧ course.Aligned := by
  have kept : ∀ course deeds, course.Aligned → Performs course deeds (course.along deeds) →
      (course.along deeds).Aligned := by
    intro course deeds aligned performs
    apply performs.keeps aligned
    intro course deed _ enabled holds
    exact holds.deed deed enabled
  apply every_reachable _ _ reachable
  · intro course deeds initial binds
    have start : course.Aligned := by
      unfold Course.Aligned
      rw [initial.run, initial.step]
      rfl
    exact kept course deeds start binds.performs
  · intro store runId course request response deeds _ _ _ aligned performs _
    exact kept course deeds aligned performs

end Aligned

section Derived

/-- The status that the reference derivation reads off a course. -/
def Course.derived (course : Course) : AgentRunStatus :=
  if course.cancelRequested then .cancelled
  else if course.step = .blocked then .blocked
  else if course.step = .needsHuman then .needsHuman
  else if course.step = .failed then .failed
  else if course.pauseRequested then .paused
  else if course.step = .succeeded then .succeeded
  else if course.step = .retryWait then .retryWait
  else if course.step = .running then .running
  else .scheduled

variable {run : AgentRun} {steps passed ahead : List AgentRunStep} {focus : AgentRunStep} {course : Course}

/-- The steps before the focus have passed and the ones behind it are pending, so only the
step in focus can have another status. -/
theorem Picture.any_status (picture : Picture run steps passed focus ahead) (uncancelled : run.cancelRequested = false)
    {status : AgentRunStepStatus} (other : status ≠ .succeeded) (unstarted : status ≠ .pending) :
    steps.any (·.status == status) = (focus.status == status) := by
  have before : passed.any (·.status == status) = false := by
    rw [List.any_eq_false]
    intro step member
    rw [(picture.done step member).1]
    simpa using other.symm
  have behind : ahead.any (·.status == status) = false := by
    rw [List.any_eq_false]
    intro step member
    rw [(picture.waits step member).1, uncancelled]
    simpa [waitingStatus] using unstarted.symm
  rw [picture.arranged, List.any_append, List.any_cons, before, behind]
  simp

theorem Picture.all_passed (picture : Picture run steps passed focus ahead)
    (last : focus.status = .succeeded → ahead = []) (unskipped : focus.status ≠ .skipped) :
    (!steps.isEmpty && steps.all fun step => step.status == .succeeded || step.status == .skipped) =
      (focus.status == .succeeded) := by
  have before : (passed.all fun step => step.status == .succeeded || step.status == .skipped) = true := by
    rw [List.all_eq_true]
    intro step member
    simp [(picture.done step member).1]
  rw [picture.arranged, List.all_append, List.all_cons, before]
  by_cases finished : focus.status = .succeeded
  · simp [finished, last finished]
  · have open_ : (focus.status == .succeeded) = false := by rw [beq_eq_false_iff_ne]; exact finished
    have kept : (focus.status == .skipped) = false := by rw [beq_eq_false_iff_ne]; exact unskipped
    simp [open_, kept]

theorem Depicts.derived (depicts : Depicts run steps course) (steady : course.Steady) :
    deriveRunStatus steps run.pauseRequested run.cancelRequested = course.derived := by
  obtain ⟨passed, focus, ahead, picture, rfl⟩ := depicts
  obtain ⟨fits, -, last⟩ := steady
  obtain ⟨-, -, -, -, -, -, -, unpaused, unskipped⟩ := fits
  have last : focus.status = .succeeded → ahead = [] := by
    intro finished
    simpa [courseOf] using last finished
  unfold deriveRunStatus Course.derived
  cases cancelled : run.cancelRequested with
  | true => simp [courseOf, cancelled]
  | false =>
    have reads : ∀ status, status ≠ .succeeded → status ≠ .pending →
        steps.any (·.status == status) = (focus.status == status) :=
      fun status other unstarted => picture.any_status cancelled other unstarted
    rw [picture.all_passed last unskipped, reads .blocked (by decide) (by decide),
      reads .needsHuman (by decide) (by decide), reads .failed (by decide) (by decide),
      reads .paused (by decide) (by decide), reads .retryWait (by decide) (by decide),
      reads .running (by decide) (by decide)]
    have calm : (focus.status == .paused) = false := by rw [beq_eq_false_iff_ne]; exact unpaused
    simp [courseOf, cancelled, calm]

end Derived

section Agreement

/-- The statuses agree, up to whether an attempt of a scheduled run has started. -/
def AgentRunStatus.Agrees (status derived : AgentRunStatus) : Prop :=
  derived = status ∨ (status = .scheduled ∨ status = .running) ∧ (derived = .scheduled ∨ derived = .running)

/-- The three statuses that an operation may leave behind when it moves the step alone or
the run alone, and when they are still true of the step in focus. -/
def Followed (run : AgentRunStatus) (step : AgentRunStepStatus) (pauseRequested : Bool) : Prop :=
  match run with
  | .scheduled => step = .ready ∧ pauseRequested = false
  | .paused => (step = .ready ∨ step = .retryWait) ∧ pauseRequested = true
  | .blocked => step = .blocked
  | _ => True

instance (status derived : AgentRunStatus) : Decidable (status.Agrees derived) := by
  unfold AgentRunStatus.Agrees
  infer_instance

instance (run : AgentRunStatus) (step : AgentRunStepStatus) (pauseRequested : Bool) :
    Decidable (Followed run step pauseRequested) := by
  unfold Followed
  cases run <;> infer_instance

variable {course : Course}

theorem Course.Aligned.settled (aligned : course.Aligned) (steady : course.Steady) (status : AgentRunStatus)
    (settled : status ∈ [AgentRunStatus.retryWait, .succeeded, .failed, .cancelled]) :
    course.derived = status ↔ course.run = status := by
  obtain ⟨fits, -, -⟩ := steady
  unfold Course.Aligned at aligned
  unfold Course.derived
  revert aligned fits
  simp only [List.mem_cons, List.not_mem_nil, or_false] at settled
  generalize course.run = run, course.step = step, course.pauseRequested = pause, course.cancelRequested = cancel
  rcases settled with rfl | rfl | rfl | rfl <;> cases run <;> cases pause <;> cases cancel <;> cases step <;> decide

theorem Course.Aligned.agrees (aligned : course.Aligned) (steady : course.Steady) :
    course.run.Agrees course.derived ↔ Followed course.run course.step course.pauseRequested := by
  obtain ⟨fits, -, -⟩ := steady
  unfold Course.Aligned at aligned
  unfold Course.derived
  revert aligned fits
  generalize course.run = run, course.step = step, course.pauseRequested = pause, course.cancelRequested = cancel
  cases run <;> cases pause <;> cases cancel <;> cases step <;> decide

/-- How far the stored status of a run agrees with the one derived from its steps. The end
of a run and a wait for a retry are recorded exactly when the steps say so, and a run that
waits for a human has a step that does. The whole status agrees in every other case too,
but for three statuses: a scheduled run whose step is blocked or waits for a human, or that
has a pause requested; a paused run whose step does so, or whose pause was withdrawn; and a
blocked run whose step is not blocked any more. -/
theorem status_agreement (runtime : Runtime) (store : Store)
    (reachable : (runMachine runtime).Reachable Machine.anything store) (runId : String) (durable : DurableRun)
    (stored : store.agentRuns.get? runId = some durable) :
    ∃ focus, durable.currentStep = some focus ∧
      (∀ status ∈ [AgentRunStatus.retryWait, .succeeded, .failed, .cancelled],
        deriveRunStatus durable.steps durable.run.pauseRequested durable.run.cancelRequested = status ↔
          durable.run.status = status) ∧
      (durable.run.status = .needsHuman → focus.status = .needsHuman ∧
        deriveRunStatus durable.steps durable.run.pauseRequested durable.run.cancelRequested = .needsHuman) ∧
      (durable.run.status.Agrees
          (deriveRunStatus durable.steps durable.run.pauseRequested durable.run.cancelRequested) ↔
        Followed durable.run.status focus.status durable.run.pauseRequested) := by
  obtain ⟨course, named, depicts, steady, aligned⟩ := aligned_reachable reachable runId durable stored
  obtain ⟨focus, current, -, status, -⟩ := depicts.current
  have derived := depicts.derived steady
  have agrees := aligned.agrees steady
  have run : course.run = durable.run.status := depicts.reads.1.symm
  have pause : course.pauseRequested = durable.run.pauseRequested := depicts.reads.2.1.symm
  rw [derived, ← run, ← pause]
  refine ⟨focus, current, fun status member => aligned.settled steady status member, fun gated => ?_, status.symm ▸ agrees⟩
  have waits : course.step = .needsHuman := steady.fits.1 gated
  have uncancelled : course.cancelRequested = false := by
    by_contra requested
    have cancelled := steady.fits.2.2.2.1.mp (by simpa using requested)
    rw [gated] at cancelled
    cases cancelled
  exact ⟨status.trans waits, by simp [Course.derived, uncancelled, waits]⟩

theorem status_agreement_overdue : ∃ durable focus, overdueStore.agentRuns.get? createdRunId = some durable ∧
    durable.currentStep = some focus ∧
    (durable.run.status.Agrees (deriveRunStatus durable.steps durable.run.pauseRequested durable.run.cancelRequested) ↔
      Followed durable.run.status focus.status durable.run.pauseRequested) := by
  have stored : (overdueStore.agentRuns.get? createdRunId).isSome = true := by decide +kernel
  obtain ⟨durable, found⟩ := Option.isSome_iff_exists.mp stored
  obtain ⟨focus, current, -, -, agrees⟩ :=
    status_agreement (.plain false) overdueStore (storeAfter_reachable _ _) createdRunId durable found
  exact ⟨durable, focus, found, current, agrees⟩

end Agreement

end ControlTower
