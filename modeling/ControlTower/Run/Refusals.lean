import ControlTower.Run.Alignment

/-! What a refused request leaves behind. A control that is refused leaves the run as it
was, but for the flag of a pause; a refused execution may have moved the step in focus. -/

set_option autoImplicit false

namespace ControlTower

open Foundation
open Foundation.Procedure

/-- The row of a step, with another status if it is the step in question. -/
def StepRow.restated (stepId : String) (status : AgentRunStepStatus) (row : StepRow) : StepRow :=
  if row.identity.id = stepId then { row with status := status } else row

/-- One step and the run show these statuses; nothing else of the steps and no flag changed. -/
structure DurableRun.Restated (durable later : DurableRun) (stepId : String) (step : AgentRunStepStatus)
    (run : AgentRunStatus) : Prop where
  steps : later.steps.map AgentRunStep.row = (durable.steps.map AgentRunStep.row).map (StepRow.restated stepId step)
  run : later.run.status = run
  pause : later.run.pauseRequested = durable.run.pauseRequested
  cancel : later.run.cancelRequested = durable.run.cancelRequested

/-- The courses differ in their statuses, their lease, their worker and their flag of a pause only. -/
structure Course.Beside (course last : Course) : Prop where
  behind : last.behind = course.behind
  focus : last.focus = course.focus
  attempts : last.attempts = course.attempts
  waiting : last.waiting = course.waiting
  cancel : last.cancelRequested = course.cancelRequested

section Rows

variable {course last : Course} {run : AgentRun} {steps : List AgentRunStep}

theorem Course.beside_self (course : Course) : course.Beside course := ⟨rfl, rfl, rfl, rfl, rfl⟩

theorem Course.Beside.trans {middle : Course} (start : course.Beside middle) (rest : middle.Beside last) :
    course.Beside last where
  behind := rest.behind.trans start.behind
  focus := rest.focus.trans start.focus
  attempts := rest.attempts.trans start.attempts
  waiting := rest.waiting.trans start.waiting
  cancel := rest.cancel.trans start.cancel

theorem Depicts.distinct_rows (depicts : Depicts run steps course) :
    (course.rows.map fun row => row.identity.id).Nodup := by
  have rows := depicts.rows
  obtain ⟨passed, focus, ahead, picture, rfl⟩ := depicts
  rw [← rows, List.map_map]
  exact picture.lineup.distinct_ids

theorem rows_restated (distinct : (course.rows.map fun row => row.identity.id).Nodup) (beside : course.Beside last) :
    last.rows = course.rows.map (StepRow.restated course.focus.id last.step) := by
  unfold Course.rows at distinct ⊢
  rw [List.map_append, List.map_cons, List.nodup_append] at distinct
  obtain ⟨-, later, apart⟩ := distinct
  rw [List.nodup_cons] at later
  have before : ∀ row ∈ course.behind.map fun passed => StepRow.mk passed.1 .succeeded passed.2,
      StepRow.restated course.focus.id last.step row = row := by
    intro row member
    apply if_neg
    exact apart _ (List.mem_map_of_mem member) _ List.mem_cons_self
  have after : ∀ row ∈ course.waiting.map fun step => StepRow.mk step (waitingStatus course.cancelRequested) 0,
      StepRow.restated course.focus.id last.step row = row := by
    intro row member
    apply if_neg
    intro here
    exact later.1 (here ▸ List.mem_map_of_mem (f := fun row => row.identity.id) member)
  rw [List.map_append, List.map_cons, List.map_congr_left before, List.map_congr_left after, List.map_id', List.map_id']
  rw [beside.behind, beside.focus, beside.attempts, beside.waiting, beside.cancel]
  simp [StepRow.restated]

theorem Depicts.restated {durable later : DurableRun} (depicts : Depicts durable.run durable.steps course)
    (shown : Depicts later.run later.steps last) (beside : course.Beside last)
    (pause : last.pauseRequested = course.pauseRequested) :
    durable.Restated later course.focus.id last.step last.run where
  steps := by
    rw [shown.rows, depicts.rows]
    exact rows_restated depicts.distinct_rows beside
  run := shown.reads.1
  pause := shown.reads.2.1.trans (pause.trans depicts.reads.2.1.symm)
  cancel := shown.reads.2.2.1.trans (beside.cancel.trans depicts.reads.2.2.1.symm)

end Rows

section Moves

variable {course : Course}

theorem beside_toBoth (goal : AgentRunStepStatus) (runGoal : AgentRunStatus) (quiet : goal ≠ .running) :
    course.Beside (course.after (Move.toBoth goal runGoal)) := by
  unfold Course.after
  rw [Move.run_toBoth]
  have same : (course.stepped goal).attempts = course.attempts := if_neg fun both => quiet both.1
  split
  · split <;> exact ⟨rfl, rfl, same, rfl, rfl⟩
  · exact course.beside_self

theorem beside_allow : course.Beside (course.after Move.allow) := by
  unfold Course.after
  rw [Move.run_allow]
  exact ⟨rfl, rfl, rfl, rfl, rfl⟩

theorem Bound.beside {deeds : List Deed} (binds : Bound course deeds) :
    course.Beside (course.along deeds) ∧ (course.along deeds).step = course.step ∧
      (course.along deeds).run = course.run ∧ (course.along deeds).pauseRequested = course.pauseRequested := by
  cases binds with
  | unchanged => exact ⟨course.beside_self, rfl, rfl, rfl⟩
  | leased => exact ⟨⟨rfl, rfl, rfl, rfl, rfl⟩, rfl, rfl, rfl⟩

/-- A refused pause leaves its flag where the run waits for a human, and nothing elsewhere. -/
theorem refused_pause (steady : course.Steady) (refused : course.accepts Move.pause = false) :
    course.after Move.pause = course ∨
      course.run = .needsHuman ∧ course.after Move.pause = { course with pauseRequested := true } := by
  unfold Course.accepts at refused
  unfold Course.after
  rw [Move.run_pause] at refused ⊢
  by_cases gone : course.run.isTerminal = true
  · rw [if_pos gone]
    exact .inl rfl
  · rw [if_neg gone] at refused ⊢
    by_cases allowed : canTransitionRun course.run .paused = true
    · rw [if_pos allowed] at refused
      cases refused
    · rw [if_neg allowed]
      refine .inr ⟨?_, rfl⟩
      -- of the statuses that are not final only two do not lead to a pause, and the service enters one of them
      have known := steady.fits.2.2.2.2.2.1
      revert gone allowed known
      cases course.run <;> decide

theorem refused_resume (refused : course.accepts Move.resume = false) : course.after Move.resume = course := by
  unfold Course.accepts at refused
  unfold Course.after
  rw [Move.run_resume] at refused ⊢
  split at refused
  · cases refused
  · next stays => rw [if_neg stays]

theorem refused_cancel (refused : course.accepts Move.cancel = false) : course.after Move.cancel = course := by
  unfold Course.accepts at refused
  unfold Course.after
  rw [Move.run_cancel] at refused ⊢
  split at refused
  · cases refused
  · next other =>
    split at refused
    · next gone => rw [if_neg other, if_pos gone]
    · cases refused

theorem refused_retry (owned : course.focus.runId = course.binding.id) (refused : course.accepts Move.retry = false) :
    course.after Move.retry = course := by
  unfold Course.accepts at refused
  unfold Course.after
  rw [Move.run_retry course owned] at refused ⊢
  split at refused
  · cases refused
  · next stays => rw [if_neg stays]

end Moves

/-- The request is a control of the run by its operator. -/
def RunRequest.Controls (runId : String) : RunRequest → Prop
  | .pause target _ | .resume target _ | .cancel target _ | .retry target _ _ => target = runId
  | _ => False

section Controls

variable {runtime : Runtime} {store : Store} {runId : String} {course : Course} {request : RunRequest}

theorem Serves.refused_control {error : Raised} {deeds : List Deed} (steady : course.Steady)
    (owned : course.focus.runId = course.binding.id) (control : request.Controls runId)
    (serves : Serves runtime store runId course request (.error error) deeds) :
    course.Beside (course.along deeds) ∧ (course.along deeds).step = course.step ∧
      (course.along deeds).run = course.run ∧
      ((course.along deeds).pauseRequested = course.pauseRequested ∨
        (∃ reason, request = .pause runId reason) ∧ course.run = .needsHuman ∧
          (course.along deeds).pauseRequested = true) := by
  have still : ∀ last, last = course → course.Beside last ∧ last.step = course.step ∧ last.run = course.run ∧
      (last.pauseRequested = course.pauseRequested ∨
        (∃ reason, request = .pause runId reason) ∧ course.run = .needsHuman ∧ last.pauseRequested = true) := by
    rintro last rfl
    exact ⟨last.beside_self, rfl, rfl, .inl rfl⟩
  cases serves with
  | idle => exact still _ rfl
  | bound _ _ _ binds =>
    obtain ⟨beside, step, run, pause⟩ := binds.beside
    exact ⟨beside, step, run, .inl pause⟩
  | paused reason _ answers =>
    have ends : (course.after Deed.pause.move) = course ∨
        course.run = .needsHuman ∧ course.after Deed.pause.move = { course with pauseRequested := true } :=
      refused_pause steady answers.symm
    rcases ends with same | ⟨gated, flagged⟩
    · exact still _ same
    · rw [Course.along_cons, Course.along_nil, flagged]
      exact ⟨⟨rfl, rfl, rfl, rfl, rfl⟩, rfl, rfl, .inr ⟨⟨reason, rfl⟩, gated, rfl⟩⟩
  | resumed reason _ answers => exact still _ (refused_resume answers.symm)
  | cancelled reason _ answers => exact still _ (refused_cancel answers.symm)
  | retried stepId reason _ answers => exact still _ (refused_retry owned answers.symm)
  | recovered | decided | withheld | authorized | executed => exact control.elim

end Controls

section Sample

theorem leaseSeconds_fit : 10 ≤ 10 ∧ 10 ≤ 3600 := by decide

theorem timeoutSeconds_fit : 1 ≤ 1 ∧ 1 ≤ 3600 := by decide

/-- An execution whose acknowledgement is lost: the step waits for a human. -/
def lostRequest : RunRequest :=
  .executeNext createdRunId ⟨"worker", 10, leaseSeconds_fit, 1, timeoutSeconds_fit⟩ (.faultInjected .lostAcknowledgement "lost acknowledgement")
    sampleOwner

def gatedStore : Store := storeAfter (.plain false) [createRequest 2 (by decide), lostRequest]

end Sample

/-- What an execution request that is answered with an error leaves of a run. -/
inductive DurableRun.LeftBehind (runtime : Runtime) (outcome : ExecutorOutcome) (durable : DurableRun)
    (focus : AgentRunStep) (later : DurableRun) : Prop where
  /-- Nothing happened. -/
  | untouched (restated : durable.Restated later focus.id focus.status durable.run.status)
  /-- An action of the step was not let through: the step shows the verdict, and so does the
  run unless it refuses, which it does where it is paused, or blocked already. -/
  | judged (verdict : AgentRunStepStatus) (runVerdict : AgentRunStatus)
      (pair : (verdict, runVerdict) ∈ [(.needsHuman, .needsHuman), (.blocked, .blocked)])
      (governed : runtime.trustEnforcement = true ∧ focus.stepType.hasSideEffect = true)
      (restated : durable.Restated later focus.id verdict
        (if canTransitionRun durable.run.status runVerdict = true then runVerdict else durable.run.status))
      (refuses : focus.status ≠ verdict → canTransitionRun durable.run.status runVerdict = false →
        durable.run.status = .paused ∨ durable.run.status = .blocked ∧ verdict = .needsHuman)
  /-- The actions were let through, which opens the gate of the step, and then the attempt
  was refused. -/
  | opened (governed : runtime.trustEnforcement = true ∧ focus.stepType.hasSideEffect = true)
      (restated : durable.Restated later focus.id (if focus.status = .needsHuman then .ready else focus.status)
        (if durable.run.status = .needsHuman then .scheduled else durable.run.status))
      (refuses : focus.status = .needsHuman →
        durable.run.status.isTerminal = true ∨ durable.run.status = .paused ∨ durable.run.pauseRequested = true)
  /-- The worker never came back from the attempt. -/
  | lost (crashed : outcome.result runtime = none)
      (attempt : ⟨focus.identity, .running, focus.attemptCount + 1⟩ ∈ later.steps.map AgentRunStep.row)
  /-- The attempt passed, and its actions could not be accounted for. -/
  | unaccounted (result : AgentRunStepExecutionResult) (came : outcome.result runtime = some result)
      (passes : result.decision = .pass)
      (attempt : ⟨focus.identity, .succeeded, focus.attemptCount + 1⟩ ∈ later.steps.map AgentRunStep.row)

section Executions

variable {runtime : Runtime} {store : Store} {runId : String} {course : Course}

/-- A refusal that reaches the step and not the run. -/
theorem half_judged {run : AgentRunStatus} {step : AgentRunStepStatus} {pauseRequested cancelRequested : Bool}
    (paired : Paired run step pauseRequested = true) (fits : Fits run step cancelRequested) {goal : AgentRunStepStatus}
    {runGoal : AgentRunStatus} (pair : (goal, runGoal) ∈ [(.needsHuman, .needsHuman), (.blocked, .blocked)])
    (legal : canTransitionStep step goal = true) (moved : step ≠ goal) (refused : canTransitionRun run runGoal = false) :
    run = .paused ∨ run = .blocked ∧ goal = .needsHuman := by
  simp only [List.mem_cons, Prod.mk.injEq, List.not_mem_nil, or_false] at pair
  obtain ⟨rfl, rfl⟩ | ⟨rfl, rfl⟩ := pair <;> revert paired fits legal moved refused <;>
    cases run <;> cases pauseRequested <;> cases cancelRequested <;> cases step <;> decide

theorem Performs.rest {deeds more : List Deed} {last : Course} (performs : Performs course (deeds ++ more) last) :
    Performs (course.along deeds) more last := by
  induction deeds generalizing course with
  | nil => exact performs
  | cons deed deeds ih =>
    cases performs with
    | deed _ _ rest => exact ih rest

theorem Performs.first {deeds more : List Deed} {last : Course} (performs : Performs course (deeds ++ more) last) :
    Performs course deeds (course.along deeds) := by
  induction deeds generalizing course with
  | nil => exact .done course
  | cons deed deeds ih =>
    cases performs with
    | deed _ enabled rest => exact .deed deed enabled (ih rest)

/-- The focused step is one of the rows. -/
theorem row_focus (course : Course) : (⟨course.focus, course.step, course.attempts⟩ : StepRow) ∈ course.rows := by
  unfold Course.rows
  simp

/-- What a verdict leaves of a run. -/
theorem judged_leaves {durable later : DurableRun} {focus : AgentRunStep} {outcome : ExecutorOutcome} {bound : List Deed}
    {goal : AgentRunStepStatus} {runGoal : AgentRunStatus}
    (pair : (goal, runGoal) ∈ [(.needsHuman, .needsHuman), (.blocked, .blocked)])
    (depicts : Depicts durable.run durable.steps course) (steady : course.Steady) (aligned : course.Aligned)
    (here : focus.identity = course.focus ∧ focus.status = course.step) (binds : Bound course bound)
    (governed : (course.along bound).Governed runtime)
    (shows : Depicts later.run later.steps ((course.along bound).after (Move.toBoth goal runGoal))) :
    durable.LeftBehind runtime outcome focus later := by
  obtain ⟨beside, step, run, pause⟩ := binds.beside
  obtain ⟨identity, status⟩ := here
  -- neither verdict starts an attempt
  have quiet : goal ≠ .running := by
    simp only [List.mem_cons, Prod.mk.injEq, List.not_mem_nil, or_false] at pair
    obtain ⟨rfl, -⟩ | ⟨rfl, -⟩ := pair <;> decide
  have named : focus.id = course.focus.id := congrArg StepIdentity.id identity
  have moves := beside.trans (beside_toBoth goal runGoal quiet)
  have ends : ((course.along bound).after (Move.toBoth goal runGoal)).pauseRequested = course.pauseRequested ∧
      if canTransitionStep course.step goal = true then
        ((course.along bound).after (Move.toBoth goal runGoal)).step = goal ∧
          ((course.along bound).after (Move.toBoth goal runGoal)).run =
            if canTransitionRun course.run runGoal = true then runGoal else course.run
      else ((course.along bound).after (Move.toBoth goal runGoal)).step = course.step ∧
        ((course.along bound).after (Move.toBoth goal runGoal)).run = course.run := by
    unfold Course.after
    -- the run follows only a step that may move
    rw [Move.run_toBoth, step, run]
    by_cases legal : canTransitionStep course.step goal = true
    · rw [if_pos legal, if_pos legal]
      by_cases allowed : canTransitionRun course.run runGoal = true
      · rw [if_pos allowed, if_pos allowed]
        exact ⟨pause, rfl, rfl⟩
      · rw [if_neg allowed, if_neg allowed]
        exact ⟨pause, rfl, run⟩
    · rw [if_neg legal, if_neg legal]
      exact ⟨pause, step, run⟩
  have restated := depicts.restated shows moves ends.1
  have sideEffect : focus.stepType.hasSideEffect = true := by
    have kind : focus.stepType = (course.along bound).focus.stepType :=
      congrArg StepIdentity.stepType (identity.trans beside.focus.symm)
    rw [kind]
    exact governed.2.1
  by_cases legal : canTransitionStep course.step goal = true
  · rw [if_pos legal] at ends
    rw [ends.2.1, ends.2.2, ← named, ← depicts.reads.1] at restated
    apply DurableRun.LeftBehind.judged goal runGoal pair ⟨governed.1, sideEffect⟩ restated
    intro moved refused
    rw [depicts.reads.1] at refused ⊢
    rw [status] at moved
    exact half_judged aligned steady.fits pair legal moved refused
  · rw [if_neg legal] at ends
    rw [ends.2.1, ends.2.2, ← named, ← depicts.reads.1, ← status] at restated
    exact .untouched restated

/-- The attempt that a worker begins. -/
theorem begun_row (workerId : String) (idle : course.step = .ready ∨ course.step = .retryWait) :
    (course.after (Move.begin workerId)).step = .running ∧ (course.after (Move.begin workerId)).focus = course.focus ∧
      (course.after (Move.begin workerId)).attempts = course.attempts + 1 := by
  unfold Course.after
  rw [Move.run_begin course workerId idle, Move.run_start _ rfl]
  exact ⟨rfl, rfl, rfl⟩

/-- A step that passes stays in the rows of its run. -/
theorem passed_row (steady : course.Steady) (attempt : course.step = .running) :
    (⟨course.focus, .succeeded, course.attempts⟩ : StepRow) ∈ (course.after (Move.finish .pass)).rows := by
  obtain ⟨active, -⟩ := fits_running (attempt ▸ steady.fits)
  unfold Course.after
  cases waiting : course.waiting with
  | nil =>
    rw [Move.run_finish_last course attempt active waiting]
    exact row_focus { course with step := .succeeded, run := .succeeded, holder := none }
  | cons next rest =>
    rw [Move.run_finish_next course attempt waiting]
    unfold Course.rows
    simp

theorem Executes.leaves {durable later : DurableRun} {focus : AgentRunStep} {payload : AgentRunExecuteRequest}
    {outcome : ExecutorOutcome} {error : Raised} {answer : Except Raised Unit} {deeds : List Deed}
    (failed : answer = .error error) (depicts : Depicts durable.run durable.steps course) (steady : course.Steady)
    (aligned : course.Aligned) (here : focus.identity = course.focus ∧ focus.status = course.step)
    (tries : focus.attemptCount = course.attempts) (performs : Performs course deeds (course.along deeds))
    (shows : Depicts later.run later.steps (course.along deeds))
    (executes : Executes runtime store runId course payload outcome answer deeds) :
    durable.LeftBehind runtime outcome focus later := by
  obtain ⟨identity, status⟩ := here
  have named : focus.id = course.focus.id := congrArg StepIdentity.id identity
  have plain : ∀ bound, Bound course bound → Depicts later.run later.steps (course.along bound) →
      durable.LeftBehind runtime outcome focus later := by
    intro bound binds shown
    obtain ⟨beside, step, run, pause⟩ := binds.beside
    have restated := depicts.restated shown beside pause
    rw [step, run, ← named, ← depicts.reads.1, ← status] at restated
    exact .untouched restated
  cases executes with
  | declined _ bound binds => exact plain _ binds shows
  | withheld error after bound ruled binds refuses governed =>
    rw [Course.along_append] at shows
    cases refuses with
    | plainly => exact plain bound binds shows
    | held =>
      exact judged_leaves (by simp) depicts steady aligned ⟨identity, status⟩ binds (governed.resolve_left (by simp)) shows
    | blocked =>
      exact judged_leaves (by simp) depicts steady aligned ⟨identity, status⟩ binds (governed.resolve_left (by simp)) shows
  | attempted bound ruled tail reached response binds rules attempt consumed =>
    have going : Performs (course.along (bound ++ ruled)) tail ((course.along (bound ++ ruled)).along tail) := by
      rw [← Course.along_append]
      exact performs.rest
    have cleared : course.Beside (course.along (bound ++ ruled)) := by
      rw [Course.along_append]
      cases rules with
      | exempt => exact binds.beside.1
      | cleared => exact binds.beside.1.trans beside_allow
    have unrefused : response ≠ .ok () := by
      rintro rfl
      cases failed
    rw [Course.along_append] at shows
    cases attempt with
    | refused _ unready =>
      rw [Course.along_nil] at shows
      cases rules with
      | exempt => exact plain bound binds (by simpa using shows)
      | cleared governed =>
        obtain ⟨beside, step, run, pause⟩ := binds.beside
        have ends : (course.along (bound ++ [.clear])).step = (if course.step = .needsHuman then .ready else course.step) ∧
            (course.along (bound ++ [.clear])).run = (if course.run = .needsHuman then .scheduled else course.run) ∧
            (course.along (bound ++ [.clear])).pauseRequested = course.pauseRequested := by
          rw [Course.along_append, Course.along_cons, Course.along_nil]
          simp only [Deed.move, Course.after, Move.run_allow]
          rw [step, run, pause]
          exact ⟨rfl, rfl, rfl⟩
        have restated := depicts.restated shows cleared ends.2.2
        rw [ends.1, ends.2.1, ← named, ← depicts.reads.1, ← status] at restated
        have sideEffect : focus.stepType.hasSideEffect = true := by
          have kind : focus.stepType = (course.along bound).focus.stepType :=
            congrArg StepIdentity.stepType (identity.trans beside.focus.symm)
          rw [kind]
          exact governed.2.1
        apply DurableRun.LeftBehind.opened ⟨governed.1, sideEffect⟩ restated
        intro gated
        rw [status] at gated
        rw [depicts.reads.1, depicts.reads.2.1]
        -- the step is ready now, so it is the run that refuses
        by_contra free
        simp only [not_or, Bool.not_eq_true] at free
        obtain ⟨active, unpaused, unflagged⟩ := free
        apply unready
        rw [if_pos gated] at ends
        refine ⟨⟨?_, ⟨ends.2.2.trans unflagged, ?_⟩, ?_⟩, ends.1⟩
        · rw [ends.2.1]
          split
          · rfl
          · exact active
        · rw [ends.2.1]
          split
          · decide
          · exact unpaused
        · rw [cleared.cancel]
          by_contra requested
          have cancelled := steady.fits.2.2.2.1.mp (by simpa using requested)
          rw [cancelled] at active
          cases active
    | waiting =>
      cases consumed with
      | same => exact absurd rfl unrefused
      | refused _ passed =>
        obtain ⟨workerId, same⟩ := passed
        cases same
    | crashed lost =>
      cases going with
      | deed _ enabled rest =>
        obtain ⟨running, focusAt, attempts⟩ := begun_row payload.workerId enabled.2.1
        apply DurableRun.LeftBehind.lost lost
        have row := row_focus ((course.along (bound ++ ruled)).after (Move.begin payload.workerId))
        rw [running, focusAt, attempts, cleared.focus, cleared.attempts, ← identity, ← tries] at row
        rw [shows.rows]
        exact row
    | finished result came =>
      cases consumed with
      | same => exact absurd rfl unrefused
      | refused _ passed =>
        obtain ⟨workerId, same⟩ := passed
        have passes : result.decision = .pass := by simpa using (List.cons.inj same).2
        cases going with
        | deed _ enabled rest =>
          obtain ⟨running, focusAt, attempts⟩ := begun_row payload.workerId enabled.2.1
          have steadily : (course.along (bound ++ ruled)).Steady := performs.first.steady steady
          have row := passed_row (steadily.deed (.begin payload.workerId) enabled) running
          apply DurableRun.LeftBehind.unaccounted result came passes
          rw [shows.rows, Course.along_cons, Course.along_cons, Course.along_nil]
          show _ ∈ (((course.along (bound ++ ruled)).after (Move.begin payload.workerId)).after
            (Move.finish result.decision)).rows
          rw [passes, identity, tries, ← cleared.focus, ← cleared.attempts, ← attempts, ← focusAt]
          exact row

/-- What a refused execution leaves. An execution request answered with an error has left
the run as it was, or the verdict of an authorization on the step in focus and on the
run (on the step alone only where the run is paused or was blocked before), or a gate
that the authorization opened on a run that cannot start; otherwise the attempt was made,
and its worker was lost or its actions could not be accounted for. -/
theorem rejected_execution (runtime : Runtime) (store : Store)
    (reachable : (runMachine runtime).Reachable Machine.anything store) (runId : String) (durable : DurableRun)
    (stored : store.agentRuns.get? runId = some durable) (payload : AgentRunExecuteRequest) (outcome : ExecutorOutcome)
    (user : AuthUser) (error : Raised)
    (refused : ((perform runtime (.executeNext runId payload outcome user)).run store).1 = .error error) :
    ∃ focus later, durable.currentStep = some focus ∧
      ((runMachine runtime).next store (.executeNext runId payload outcome user)).agentRuns.get? runId = some later ∧
      durable.LeftBehind runtime outcome focus later := by
  obtain ⟨course, named, depicts, steady, aligned⟩ := aligned_reachable reachable runId durable stored
  obtain ⟨focus, current, identity, status, tries⟩ := depicts.current
  have executed : (executeRunNextStep runtime runId payload outcome user).Ends store fun response after =>
      ∃ deeds, Performs course deeds (course.along deeds) ∧ after.Shows runId (course.along deeds) ∧
        Executes runtime store runId course payload outcome response deeds :=
    executeRunNextStep_ends ⟨durable, stored, named, depicts⟩ steady payload outcome user
  obtain ⟨deeds, performs, shown, executes⟩ := executed
  obtain ⟨later, present, -, shows⟩ := shown
  exact ⟨focus, later, current, present,
    executes.leaves refused depicts steady aligned ⟨identity, status⟩ tries performs shows⟩

theorem rejected_execution_lost : ∃ durable focus later,
    (storeAfter (.plain false) [createRequest 2 (by decide)]).agentRuns.get? createdRunId = some durable ∧
    durable.currentStep = some focus ∧ durable.LeftBehind (.plain false) .crashed focus later := by
  have stored : ((storeAfter (.plain false) [createRequest 2 (by decide)]).agentRuns.get? createdRunId).isSome = true := by
    decide +kernel
  have fails : ((perform (.plain false) crashRequest).run (storeAfter (.plain false) [createRequest 2 (by decide)])).1.isOk =
      false := by decide +kernel
  obtain ⟨durable, found⟩ := Option.isSome_iff_exists.mp stored
  cases answer : ((perform (.plain false) crashRequest).run (storeAfter (.plain false) [createRequest 2 (by decide)])).1 with
  | ok =>
    rw [answer] at fails
    cases fails
  | error error =>
    obtain ⟨focus, later, current, -, left⟩ := rejected_execution (.plain false) _ (storeAfter_reachable _ _) createdRunId
      durable found ⟨"worker", 10, by decide, 1, by decide⟩ .crashed sampleOwner error answer
    exact ⟨durable, focus, later, found, current, left⟩

end Executions

end ControlTower
