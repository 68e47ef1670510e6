import ControlTower.Run.Onward
import ControlTower.Run.Picture

/-! One attempt on the picture of a run: taking the lease, finding the ready
step, starting it, applying its verdict and leaving. -/

set_option autoImplicit false

namespace ControlTower

open Foundation
open Foundation.Procedure

/-- The run may start an attempt. -/
structure Course.Startable (course : Course) : Prop where
  active : course.run.isTerminal = false
  unpaused : course.pauseRequested = false ∧ course.run ≠ .paused
  uncancelled : course.cancelRequested = false

section Touch

variable {run : AgentRun} {steps passed ahead : List AgentRunStep} {focus : AgentRunStep} {course : Course}

/-- Changes of steps that the course does not see. -/
theorem Picture.touch (picture : Picture run steps passed focus ahead) (change : AgentRunStep → AgentRunStep)
    (unseen : ∀ step ∈ steps, (change step).identity = step.identity ∧ (change step).status = step.status ∧
      (change step).attemptCount = step.attemptCount) :
    Picture run (steps.map change) (passed.map change) (change focus) (ahead.map change) ∧
      courseOf run (passed.map change) (change focus) (ahead.map change) = courseOf run passed focus ahead := by
  have members := picture.arranged
  have inPassed : ∀ step ∈ passed, step ∈ steps := fun step member => by simp [members, member]
  have inAhead : ∀ step ∈ ahead, step ∈ steps := fun step member => by simp [members, member]
  have focused := unseen focus (by simp [members])
  -- what the lineup, the course and the pointer read of a step is the same after the change
  have line : (steps.map change).map AgentRunStep.identity = steps.map AgentRunStep.identity := by
    rw [List.map_map]
    exact List.map_congr_left fun step member => (unseen step member).1
  have behind : (ahead.map change).map AgentRunStep.identity = ahead.map AgentRunStep.identity := by
    rw [List.map_map]
    exact List.map_congr_left fun step member => (unseen step (inAhead step member)).1
  have tried : (passed.map change).map (fun step => (step.identity, step.attemptCount)) =
      passed.map fun step => (step.identity, step.attemptCount) := by
    rw [List.map_map]
    refine List.map_congr_left fun step member => ?_
    obtain ⟨identity, -, attempts⟩ := unseen step (inPassed step member)
    simp [identity, attempts]
  refine ⟨?_, ?_⟩
  · exact
      { arranged := by simp [members]
        lineup := line ▸ picture.lineup
        done := by
          intro other member
          obtain ⟨step, present, rfl⟩ := List.mem_map.mp member
          obtain ⟨-, status, attempts⟩ := unseen step (inPassed step present)
          rw [status, attempts]
          exact picture.done step present
        waits := by
          intro other member
          obtain ⟨step, present, rfl⟩ := List.mem_map.mp member
          obtain ⟨-, status, attempts⟩ := unseen step (inAhead step present)
          rw [status, attempts]
          exact picture.waits step present
        pointed := by
          rw [identity_id focused.1]
          exact picture.pointed }
  · simp only [courseOf, focused.1, focused.2.1, focused.2.2, behind, tried]

/-- Two steps of a run with one identifier are one step. -/
theorem Picture.unique (picture : Picture run steps passed focus ahead) {step other : AgentRunStep}
    (here : step ∈ steps) (there : other ∈ steps) (same : other.id = step.id) : other = step :=
  List.inj_on_of_nodup_map picture.lineup.distinct_ids there here same

theorem Depicts.putStep (depicts : Depicts run steps course) {step : AgentRunStep} (here : step ∈ steps)
    (changed : AgentRunStep) (identity : changed.identity = step.identity) (status : changed.status = step.status)
    (attempts : changed.attemptCount = step.attemptCount) :
    Depicts run (putStep steps changed) course := by
  obtain ⟨passed, focus, ahead, picture, rfl⟩ := depicts
  have sameId : changed.id = step.id := identity_id identity
  obtain ⟨kept, shows⟩ := picture.touch (fun other => if other.id = changed.id then changed else other) <| by
    intro other present
    by_cases named : other.id = changed.id
    · obtain rfl := picture.unique here present (named.trans sameId)
      simp [named, identity, status, attempts]
    · simp [named]
  exact ⟨_, _, _, kept, shows⟩

end Touch

section Lease

variable {runtime : Runtime} {scope : RunScope} {course : Course}

/-- A worker gets the lease of a run that nobody holds. -/
theorem acquireRunLease_free (workerId : String) (leaseSeconds : Nat)
    (depicts : Depicts scope.run scope.steps course) (free : course.holder = none) :
    (acquireRunLease runtime workerId leaseSeconds).Ends scope fun outcome after =>
      ∃ token, outcome = .ok token ∧ after.run.leaseToken = some token ∧
        after.run.status = scope.run.status ∧
        Depicts after.run after.steps { course with holder := some workerId } := by
  have unheld : ∀ now, scope.run.leaseHeld now = false := by
    intro now
    have nobody : scope.run.leaseOwner = none := depicts.reads.2.2.2.1.trans free
    simp [AgentRun.leaseHeld, nobody, Text.present]
  simp only [acquireRunLease, ends_bind, ends_readClock, continue_ok, ends_state, ends_demand,
    RunScope.tick_run, unheld, Bool.false_eq_true, false_implies, not_true, true_implies, and_true,
    false_and, if_false, ends_drawSecret]
  refine ⟨_, rfl, rfl, rfl, ?_⟩
  obtain ⟨passed, focus, ahead, picture, rfl⟩ := depicts
  exact ⟨passed, focus, ahead, picture.changeRun (fun run => { run with
    leaseOwner := some workerId
    leaseToken := _
    heartbeatAt := _
    leaseExpiresAt := _
    updatedAt := _ }) rfl rfl rfl, rfl⟩

/-- The worker that holds the token leaves the run to nobody. -/
theorem releaseRunLease_held {token : String} (depicts : Depicts scope.run scope.steps course)
    (held : scope.run.leaseToken = some token) :
    (releaseRunLease runtime token).Ends scope fun outcome after =>
      outcome = .ok () ∧ Depicts after.run after.steps { course with holder := none } := by
  simp only [releaseRunLease, ends_bind, ends_state, continue_ok, held, ne_eq, not_true, and_false, if_false,
    ends_readClock]
  refine ⟨rfl, ?_⟩
  obtain ⟨passed, focus, ahead, picture, rfl⟩ := depicts
  exact ⟨passed, focus, ahead,
    picture.changeRun (fun run => { run.withoutLease with updatedAt := _ }) rfl rfl rfl, rfl⟩

end Lease

section Ready

variable {runtime : Runtime} {scope : RunScope} {course : Course} {passed ahead : List AgentRunStep}
  {focus : AgentRunStep}

/-- The search for a ready step walks over the steps that passed. -/
theorem readyStepAmong_passed (now : Instant) (done : ∀ step ∈ passed, step.status = .succeeded)
    (rest : List AgentRunStep) :
    readyStepAmong runtime now (passed ++ rest) = readyStepAmong runtime now rest := by
  induction passed with
  | nil => rfl
  | cons step others ih =>
    have succeeded : step.status = .succeeded := done step List.mem_cons_self
    have settled : step.backoffElapsed now = false := by simp [AgentRunStep.backoffElapsed, succeeded]
    simp [readyStepAmong, settled, succeeded, ih fun other member => done other (List.mem_cons_of_mem _ member)]

/-- Steps that wait are not ready. -/
theorem readyStepAmong_waiting (runtime : Runtime) (now : Instant) (cancelRequested : Bool)
    (waits : ∀ step ∈ ahead, step.status = waitingStatus cancelRequested) :
    readyStepAmong runtime now ahead = pure none := by
  cases ahead with
  | nil => rfl
  | cons step rest =>
    have waiting := waits step List.mem_cons_self
    cases cancelRequested <;>
      simp [readyStepAmong, waiting, waitingStatus, AgentRunStep.backoffElapsed]

/-- Only the focused step can be ready; at the end of its backoff it becomes so. -/
theorem readyStep_ends (depicts : Depicts scope.run scope.steps course) :
    (readyStep runtime).Ends scope fun outcome after =>
      after.run = scope.run ∧
        ((outcome = .ok none ∧ course.step ≠ .ready ∧ Depicts after.run after.steps course) ∨
          ∃ step, outcome = .ok (some step) ∧ step.identity = course.focus ∧
            (course.step = .ready ∨ course.step = .retryWait) ∧
            Depicts after.run after.steps { course with step := .ready }) := by
  obtain ⟨passed, focus, ahead, picture, rfl⟩ := depicts
  simp only [readyStep, ends_bind, ends_readClock, continue_ok, ends_state, RunScope.tick_steps]
  -- the steps behind have succeeded and those ahead wait, so only the step in focus can be ready
  generalize runtime.clock (Clocked.ticks scope) = now
  have waiting := readyStepAmong_waiting runtime now scope.run.cancelRequested
    fun step member => (picture.waits step member).1
  rw [picture.arranged, readyStepAmong_passed now fun step member => (picture.done step member).1]
  by_cases elapsed : focus.backoffElapsed now = true
  · have status : focus.status = .retryWait := by
      simp [AgentRunStep.backoffElapsed] at elapsed
      exact elapsed.1
    have moves := transitionStep_legal runtime .ready "Retry backoff elapsed."
      ⟨scope.run, focus, (Clocked.tick scope).ticks⟩ (by simp [status]) (by simp [status, canTransitionStep, stepTransitions])
    have found : findStep (Clocked.tick scope).steps focus.id = some focus := picture.findFocus
    simp only [Ends, readyStepAmong, elapsed, if_true, run_bind, atStep, found, returningStep,
      RunScope.tick_run, moves, run_state, run_pure]
    exact ⟨trivial, .inr ⟨_, rfl, rfl, .inr status, passed, _, ahead,
      picture.replace rfl rfl rfl picture.pointed, rfl⟩⟩
  · -- no retry is due, so the step is ready or none is
    by_cases ready : focus.status = .ready
    · have found : readyStepAmong runtime now (focus :: ahead) = pure (some focus) := by
        simp [readyStepAmong, elapsed, ready]
      rw [found]
      exact ⟨rfl, .inr ⟨focus, rfl, rfl, .inl ready, passed, focus, ahead, picture, by simp [courseOf, ready]⟩⟩
    · have absent : readyStepAmong runtime now (focus :: ahead) = pure none := by
        simp [readyStepAmong, elapsed, ready, waiting]
      rw [absent]
      exact ⟨rfl, .inl ⟨rfl, ready, passed, focus, ahead, picture, rfl⟩⟩

end Ready

/-- What the part of an execution before the executor call comes to. -/
inductive Begins (workerId : String) (course : Course) : Except Raised Begun → Course → Prop where
  | refused (error : Raised) (unready : ¬ (course.Startable ∧ course.step = .ready)) :
      Begins workerId course (.error error) course
  | answered (result : AgentRunStepExecutionResult) (startable : course.Startable) (unready : course.step ≠ .ready) :
      Begins workerId course (.ok (.answered result)) course
  | invoking (step : AgentRunStep) (leaseToken : String) (startable : course.Startable)
      (idle : course.step = .ready ∨ course.step = .retryWait) (current : step.identity = course.focus) :
      Begins workerId course (.ok (.invoking step leaseToken)) (course.after (Move.begin workerId))

section Begin

variable {runtime : Runtime} {scope : RunScope} {course : Course}

theorem startReady_ends (workerId token : String) (depicts : Depicts scope.run scope.steps course)
    (ready : course.step = .ready) {stepId : String} (current : stepId = course.focus.id) :
    (atStep stepId (returningStep (startStep runtime workerId token))).Ends scope fun outcome after =>
      ∃ step, outcome = .ok step ∧ step.identity = course.focus ∧
        Depicts after.run after.steps (course.after Move.start) := by
  obtain ⟨passed, focus, ahead, picture, rfl⟩ := depicts
  subst current
  refine (picture.returning (startStep_projects workerId token) Move.start_local).mono fun outcome after ends => ?_
  obtain ⟨step, kept, shows, accepted, answers⟩ := ends
  rw [Move.run_start _ ready] at accepted
  cases outcome with
  | error error => simp [Except.isOk, Except.toBool] at accepted
  | ok answer =>
    obtain rfl := answers answer rfl
    have keeps := Move.start_local (courseOf scope.run passed focus ahead)
    rw [← shows] at keeps
    exact ⟨answer, rfl, keeps.2.2.2.1, passed, answer, ahead, kept, shows⟩

theorem beginExecution_begins (workerId : String) (leaseSeconds : Nat)
    (depicts : Depicts scope.run scope.steps course) (free : course.holder = none)
    (settled : course.cancelRequested = true → course.run.isTerminal = true) :
    (beginExecution runtime workerId leaseSeconds).Ends scope fun outcome after =>
      ∃ reached, Depicts after.run after.steps reached ∧ Begins workerId course outcome reached := by
  obtain ⟨status, pause, cancel, -⟩ := depicts.reads
  simp only [beginExecution, ends_bind, ends_state, continue_ok, ends_demand, continue_error, status, pause,
    cancel]
  refine ⟨fun active => ⟨fun unpaused => ?_, fun paused => ?_⟩, fun terminal => ?_⟩
  · -- a run whose cancellation is requested is over, and this one is not
    have uncancelled : course.cancelRequested = false := by
      by_contra requested
      rw [settled (by simpa using requested)] at active
      exact absurd active (by simp)
    rw [uncancelled, if_neg (by simp), ends_bind]
    refine (acquireRunLease_free workerId leaseSeconds depicts free).mono fun outcome after acquired => ?_
    obtain ⟨token, rfl, held, sameStatus, shows⟩ := acquired
    rw [continue_ok, ends_bind]
    refine (readyStep_ends shows).mono fun outcome later ready => ?_
    obtain ⟨sameRun, ⟨rfl, unready, still⟩ | ⟨step, rfl, current, idle, still⟩⟩ := ready
    · -- no step is ready: the lease is given back, and the course is as before
      simp only [continue_ok, ends_bind]
      refine (releaseRunLease_held still (sameRun ▸ held)).mono fun outcome last released => ?_
      obtain ⟨rfl, left⟩ := released
      have back : ({ course with holder := none } : Course) = course := by rw [← free]
      simp only [continue_ok, ends_bind, ends_demand, ends_pure, continue_error]
      exact ⟨fun _ => ⟨course, back ▸ left, .answered _ ⟨active, unpaused, uncancelled⟩ unready⟩,
        fun _ => ⟨course, back ▸ left, .refused _ fun both => unready both.2⟩⟩
    · -- the ready step starts under the lease
      simp only [continue_ok, ends_bind]
      refine (startReady_ends workerId token still rfl (congrArg StepIdentity.id current)).mono
        fun outcome last started => ?_
      obtain ⟨started, rfl, identity, done⟩ := started
      rw [continue_ok, ends_pure]
      refine ⟨_, ?_, .invoking started token ⟨active, unpaused, uncancelled⟩ idle identity⟩
      simpa only [Course.after, Move.run_begin course workerId idle] using done
  · exact ⟨course, depicts, .refused _ fun both => paused both.1.unpaused⟩
  · exact ⟨course, depicts, .refused _ fun both => terminal both.1.active⟩

end Begin

section Finish

variable {runtime : Runtime} {scope : RunScope} {course : Course} {passed ahead : List AgentRunStep}
  {focus : AgentRunStep}

theorem Picture.sequence_lt {run : AgentRun} {steps : List AgentRunStep}
    (picture : Picture run steps passed focus ahead) :
    ∀ step ∈ ahead, focus.sequence < step.sequence := by
  have ascending := picture.lineup.ascending
  rw [picture.arranged, List.map_append, List.map_cons, List.pairwise_append] at ascending
  intro step member
  exact (List.pairwise_cons.mp ascending.2.1).1 step.identity (List.mem_map_of_mem member)

/-- The first pending step behind the focus is the first step that waits. -/
theorem Picture.nextPending {run : AgentRun} {steps : List AgentRunStep}
    (picture : Picture run steps passed focus ahead) (uncancelled : run.cancelRequested = false) :
    steps.find? (fun step => decide (focus.sequence < step.sequence) && step.status == .pending) = ahead.head? := by
  have behind : passed.find? (fun step => decide (focus.sequence < step.sequence) && step.status == .pending) =
      none := by
    rw [List.find?_eq_none]
    intro step member
    simp [(picture.done step member).1]
  have sequences := picture.sequence_lt
  have waits := picture.waits
  rw [picture.arranged, List.find?_append, behind]
  cases ahead with
  | nil => simp
  | cons next rest =>
    have pending : next.status = .pending := by
      simpa [uncancelled, waitingStatus] using (waits next List.mem_cons_self).1
    have later := sequences next List.mem_cons_self
    simp [pending, later]

/-- The next step takes the focus. -/
theorem nextPendingStep_advances {next : AgentRunStep} {rest : List AgentRunStep}
    (picture : Picture scope.run scope.steps passed focus (next :: rest)) (succeeded : focus.status = .succeeded)
    (attempted : 1 ≤ focus.attemptCount) (uncancelled : scope.run.cancelRequested = false) :
    (nextPendingStep runtime focus).Ends scope fun outcome after =>
      outcome = .ok true ∧ ∃ step, Picture after.run after.steps (passed ++ [focus]) step rest ∧
        courseOf after.run (passed ++ [focus]) step rest = { courseOf scope.run passed focus (next :: rest) with
          pointer := some next.id
          behind := (courseOf scope.run passed focus (next :: rest)).behind ++ [(focus.identity, focus.attemptCount)]
          focus := next.identity
          step := .ready
          attempts := 0
          waiting := rest.map AgentRunStep.identity } := by
  -- the next step in line has waited so far
  have waits := picture.waits next List.mem_cons_self
  have pending : next.status = .pending := by simpa [uncancelled, waitingStatus] using waits.1
  have distinct := picture.lineup.distinct_ids
  -- the line of the steps is split behind the step that passed
  have arranged : scope.steps = (passed ++ [focus]) ++ next :: rest := by simp [picture.arranged]
  rw [arranged] at distinct
  have found : findStep scope.steps next.id = some next := by
    rw [arranged]
    exact findStep_focus distinct
  have moves := transitionStep_legal runtime .ready "" ⟨scope.run, next, scope.ticks⟩ (by simp [pending])
    (by simp [pending, canTransitionStep, stepTransitions])
  simp only [nextPendingStep, ends_bind, ends_state, continue_ok, picture.nextPending uncancelled,
    List.head?_cons]
  simp only [Ends, atStep, found, run_bind, moves, pointAtStep, run_modify, continue_ok, run_pure, true_and]
  refine ⟨next.moved .ready (runtime.clock scope.ticks) "", ?_, ?_⟩
  · have placed : putStep scope.steps (next.moved .ready (runtime.clock scope.ticks) "") =
        (passed ++ [focus]) ++ next.moved .ready (runtime.clock scope.ticks) "" :: rest := by
      rw [arranged]
      exact putStep_focus distinct rfl
    exact
      { arranged := placed
        -- a move changes no identity
        lineup := by
          have line : ((passed ++ [focus]) ++ next.moved .ready (runtime.clock scope.ticks) "" :: rest).map
              AgentRunStep.identity = scope.steps.map AgentRunStep.identity := by
            simp [arranged, AgentRunStep.identity, AgentRunStep.moved]
          rw [placed, line]
          exact picture.lineup
        done := by
          intro step member
          rcases List.mem_append.mp member with earlier | last
          · exact picture.done step earlier
          · rw [List.mem_singleton.mp last]
            exact ⟨succeeded, attempted⟩
        waits := fun step member => picture.waits step (List.mem_cons_of_mem _ member)
        pointed := rfl }
  · simp [courseOf, AgentRunStep.identity, AgentRunStep.moved, waits.2, AgentRun.binding]

/-- A verdict is written down before anything moves. -/
theorem recordResult_run (result : AgentRunStepExecutionResult) (state : RunAtStep) :
    (recordResult runtime result).run state = (.ok (), ⟨state.run, { state.step with
      decision := some result.decision
      reason := result.reason
      evidence := result.evidence
      evidenceHash := some (runtime.sha256Hex result.evidence)
      outputReference := result.outputReference
      updatedAt := runtime.clock state.ticks }, state.ticks + 1⟩) := rfl

theorem recordPass_projects {state : RunAtStep} (result : AgentRunStepExecutionResult) :
    ProjectsAt (seen passed ahead) (do
      recordResult runtime result
      transitionStep runtime .succeeded result.reason) (Move.toStep .succeeded) state :=
  projects_skip (recordResult_run result state) rfl (transitionStep_projects .succeeded)

theorem recordFailure_projects {state : RunAtStep} (result : AgentRunStepExecutionResult)
    (failure : result.decision ≠ .pass) :
    ProjectsAt (seen passed ahead) (do
      recordResult runtime result
      applyFailure runtime result) (Move.settle result.decision) state :=
  projects_skip (recordResult_run result state) rfl (applyFailure_projects result failure)

/-- A step passes only out of an attempt of a run that is not cancelled. -/
def Course.Passable (course : Course) : Prop :=
  canTransitionStep course.step .succeeded = true → course.cancelRequested = false ∧ 1 ≤ course.attempts

theorem nextPendingStep_ends_empty (picture : Picture scope.run scope.steps passed focus [])
    (uncancelled : scope.run.cancelRequested = false) :
    (nextPendingStep runtime focus).Ends scope fun outcome after => outcome = .ok false ∧ after = scope := by
  simp [nextPendingStep, picture.nextPending uncancelled]

theorem recordPass_ends (result : AgentRunStepExecutionResult)
    (picture : Picture scope.run scope.steps passed focus ahead)
    (legal : canTransitionStep (courseOf scope.run passed focus ahead).step .succeeded = true) :
    (atStep focus.id (returningStep (do
        recordResult runtime result
        transitionStep runtime .succeeded result.reason))).Ends scope fun outcome after =>
      ∃ step, outcome = .ok step ∧ Picture after.run after.steps passed step ahead ∧
        courseOf after.run passed step ahead = (courseOf scope.run passed focus ahead).stepped .succeeded := by
  refine (picture.returning (recordPass_projects result) (Move.toStep_local .succeeded)).mono
    fun outcome after ends => ?_
  obtain ⟨step, kept, shows, accepted, answers⟩ := ends
  rw [Move.run_toStep, if_pos legal] at shows accepted
  cases outcome with
  | error error => simp [Except.isOk, Except.toBool] at accepted
  | ok answer => exact ⟨step, congrArg Except.ok (answers answer rfl), kept, shows⟩

theorem recordPass_stuck (result : AgentRunStepExecutionResult)
    (picture : Picture scope.run scope.steps passed focus ahead)
    (illegal : ¬ canTransitionStep (courseOf scope.run passed focus ahead).step .succeeded = true) :
    (atStep focus.id (returningStep (do
        recordResult runtime result
        transitionStep runtime .succeeded result.reason))).Ends scope fun outcome after =>
      outcome.isOk = false ∧ Depicts after.run after.steps (courseOf scope.run passed focus ahead) := by
  refine (picture.returning (recordPass_projects result) (Move.toStep_local .succeeded)).mono
    fun outcome after ends => ?_
  obtain ⟨step, kept, shows, accepted, -⟩ := ends
  rw [Move.run_toStep, if_neg illegal] at shows accepted
  exact ⟨accepted, passed, step, ahead, kept, shows⟩

/-- The end of the last step is the end of the run. -/
theorem advance_last (picture : Picture scope.run scope.steps passed focus [])
    (uncancelled : scope.run.cancelRequested = false) :
    (advance runtime focus).Ends scope (Carries (courseOf scope.run passed focus []) (Move.toRun .succeeded)) := by
  refine Ends.bind (nextPendingStep_ends_empty picture uncancelled) (fun value after ends => ?_)
    fun error after ends => ?_
  · obtain ⟨same, rfl⟩ := ends
    obtain rfl : value = false := by simpa using same
    exact atStep_carries picture (transitionRun_projects .succeeded) (Move.toRun_local .succeeded)
  · simp at ends

theorem advance_next {next : AgentRunStep} {rest : List AgentRunStep}
    (picture : Picture scope.run scope.steps passed focus (next :: rest)) (succeeded : focus.status = .succeeded)
    (attempted : 1 ≤ focus.attemptCount) (uncancelled : scope.run.cancelRequested = false) :
    (advance runtime focus).Ends scope fun outcome after =>
      outcome = .ok () ∧ Depicts after.run after.steps { courseOf scope.run passed focus (next :: rest) with
        run := .running
        pointer := some next.id
        behind := (courseOf scope.run passed focus (next :: rest)).behind ++ [(focus.identity, focus.attemptCount)]
        focus := next.identity
        step := .ready
        attempts := 0
        waiting := rest.map AgentRunStep.identity } := by
  refine Ends.bind (nextPendingStep_advances picture succeeded attempted uncancelled)
    (fun value after ends => ?_) fun error after ends => ?_
  · obtain ⟨same, step, advanced, shows⟩ := ends
    obtain rfl : value = true := by simpa using same
    refine ⟨rfl, _, step, rest, advanced.changeRun (fun run => { run with
      status := .running, updatedAt := _ }) rfl rfl rfl, ?_⟩
    have passes := congrArg (fun course : Course => { course with run := .running }) shows
    exact passes
  · simp at ends

theorem applyPass_carries (result : AgentRunStepExecutionResult) (depicts : Depicts scope.run scope.steps course)
    (passing : result.decision = .pass) (passable : course.Passable) :
    (applyExecutionResult runtime course.focus.id result).Ends scope (Carries course (Move.settle .pass)) := by
  obtain ⟨passed, focus, ahead, picture, rfl⟩ := depicts
  simp only [applyExecutionResult, passing, if_true]
  by_cases legal : canTransitionStep (courseOf scope.run passed focus ahead).step .succeeded = true
  · obtain ⟨uncancelled, attempted⟩ := passable legal
    refine Ends.bind (recordPass_ends result picture legal) (fun answer after ends => ?_) fun error after ends => ?_
    · obtain ⟨step, same, kept, shows⟩ := ends
      obtain rfl : answer = step := by simpa using same
      have succeeded : answer.status = .succeeded := congrArg Course.step shows
      have identity : answer.identity = focus.identity := congrArg Course.focus shows
      have attempts : answer.attemptCount = focus.attemptCount := congrArg Course.attempts shows
      have tried : 1 ≤ answer.attemptCount := attempts ▸ attempted
      have going : after.run.cancelRequested = false := (congrArg Course.cancelRequested shows).trans uncancelled
      cases ahead with
      | nil =>
        refine (advance_last kept going).mono fun outcome final carries => ?_
        simpa only [Carries, Course.after, Course.accepts, Move.run_settle_last _ legal rfl, shows] using carries
      | cons next rest =>
        refine (advance_next kept succeeded tried going).mono fun outcome final ends => ?_
        obtain ⟨rfl, reached⟩ := ends
        rw [shows, identity, attempts] at reached
        simp only [Carries, Course.after, Course.accepts, Move.run_settle_next _ legal rfl]
        exact ⟨reached, rfl⟩
    · obtain ⟨step, impossible, -⟩ := ends
      simp at impossible
  · refine Ends.bind (recordPass_stuck result picture legal) (fun answer after ends => ?_) fun error after ends => ?_
    · simp [Except.isOk, Except.toBool] at ends
    · simp only [Carries, Course.after, Course.accepts, Move.run_settle_illegal _ legal]
      exact ⟨ends.2, rfl⟩

theorem applyExecutionResult_carries (result : AgentRunStepExecutionResult)
    (depicts : Depicts scope.run scope.steps course) (passable : course.Passable) :
    (applyExecutionResult runtime course.focus.id result).Ends scope
      (Carries course (Move.settle result.decision)) := by
  by_cases passing : result.decision = .pass
  · rw [passing]
    exact applyPass_carries result depicts passing passable
  · obtain ⟨passed, focus, ahead, picture, rfl⟩ := depicts
    simp only [applyExecutionResult, passing, if_false]
    exact atStep_carries picture (recordFailure_projects result passing) (Move.settle_local passing)

theorem findStep_of_ids {steps others : List AgentRunStep} {stepId : String}
    (same : others.map (·.id) = steps.map (·.id)) (present : stepId ∈ steps.map (·.id)) :
    ∃ step, findStep others stepId = some step := by
  rw [← same] at present
  obtain ⟨step, member, rfl⟩ := List.mem_map.mp present
  rw [← Option.isSome_iff_exists, findStep, List.find?_isSome]
  exact ⟨step, member, by simp⟩

/-- A worker that leaves takes its lease off the step and off the run. -/
theorem leave_ends {step : AgentRunStep} {stepId : String} (depicts : Depicts scope.run scope.steps course)
    (found : findStep scope.steps stepId = some step) :
    (do
      atStep stepId (modifyStep AgentRunStep.withoutLease)
      let now ← readClock runtime
      RunScope.modifyRun fun run => { run.withoutLease with updatedAt := now }).Ends scope
        (Carries course Move.release) := by
  have touched := depicts.putStep (findStep_some found).1 step.withoutLease rfl rfl rfl
  simp only [Ends, run_bind, atStep, found, modifyStep, run_modify]
  obtain ⟨passed, focus, ahead, picture, rfl⟩ := touched
  refine ⟨⟨passed, focus, ahead, ?_, rfl⟩, rfl⟩
  exact picture.changeRun (fun run => { run.withoutLease with updatedAt := _ }) rfl rfl rfl

theorem finishExecution_carries (result : AgentRunStepExecutionResult)
    (depicts : Depicts scope.run scope.steps course) (passable : course.Passable) :
    (finishExecution runtime course.focus.id result).Ends scope
      (Carries course (Move.finish result.decision)) := by
  have focused : course.focus.id ∈ scope.steps.map (·.id) := by
    obtain ⟨passed, focus, ahead, picture, rfl⟩ := depicts
    rw [picture.arranged]
    simp [courseOf, AgentRunStep.identity]
  refine carries_bind_run (applyExecutionResult_carries result depicts passable) fun _ after ran shows => ?_
  have onward : scope.Onward after := by
    have went : scope.Onward ((applyExecutionResult runtime course.focus.id result).run scope).2 :=
      applyExecutionResult_onward _ _ scope
    rwa [ran] at went
  obtain ⟨step, found⟩ := findStep_of_ids onward.2.1 focused
  exact leave_ends shows found

end Finish

end ControlTower
