import ControlTower.Run.Serving

/-! One execution request: the admission, the trust part, the attempt with its
executor, and the consumption of the actions it was authorized with. -/

set_option autoImplicit false

namespace ControlTower

open Foundation
open Foundation.Procedure

theorem Refuses.performs {runId : String} {course : Course} {error : Raised} {after : Store} {deeds : List Deed}
    (refuses : Refuses runId course error after deeds) :
    Performs course deeds (course.along deeds) ∧ after.Shows runId (course.along deeds) := by
  cases refuses with
  | plainly shows => exact ⟨.done course, shows⟩
  | held _ shows => exact ⟨.single .hold trivial, shows⟩
  | blocked shows => exact ⟨.single .block trivial, shows⟩

theorem Bound.performs {course : Course} {deeds : List Deed} (bound : Bound course deeds) :
    Performs course deeds (course.along deeds) := by
  cases bound with
  | unchanged => exact .done course
  | leased leaseId _ => exact .single (.bind leaseId) trivial

/-- The step in focus may run: it needs no authorization, or has got one. When the
run took no new lease, the store let the step through as it stood. -/
inductive Ruled (runtime : Runtime) (store : Store) (runId : String) (course : Course) (timeoutSeconds : Nat)
    (bound : List Deed) : List Deed → Prop where
  | exempt (free : runtime.trustEnforcement = false ∨ course.focus.stepType.hasSideEffect = false) :
      Ruled runtime store runId course timeoutSeconds bound []
  | cleared (governed : course.Governed runtime)
      (through : bound = [] → ∃ durable step actions, store.agentRuns.get? runId = some durable ∧
        durable.currentStep = some step ∧ store.LetsThrough runtime durable.run step timeoutSeconds actions) :
      Ruled runtime store runId course timeoutSeconds bound [.clear]

/-- The attempt itself, from the start of the step on. -/
inductive Attempted (runtime : Runtime) (workerId : String) (outcome : ExecutorOutcome) (course : Course) :
    Except Raised Unit → List Deed → Prop where
  | refused (error : Raised) (unready : ¬ (course.Startable ∧ course.step = .ready)) :
      Attempted runtime workerId outcome course (.error error) []
  | waiting (startable : course.Startable) (unready : course.step ≠ .ready) :
      Attempted runtime workerId outcome course (.ok ()) []
  | crashed (lost : outcome.result runtime = none) :
      Attempted runtime workerId outcome course (.error .workerCrashed) [.begin workerId]
  | finished (result : AgentRunStepExecutionResult) (came : outcome.result runtime = some result) :
      Attempted runtime workerId outcome course (.ok ()) [.begin workerId, .finish result.decision]

/-- The response after the consumption of the actions: it fails only behind a pass. -/
inductive Consumed (deeds : List Deed) : Except Raised Unit → Except Raised Unit → Prop where
  | same (response : Except Raised Unit) : Consumed deeds response response
  | refused (error : Raised) (passed : ∃ workerId, deeds = [.begin workerId, .finish .pass]) :
      Consumed deeds (.ok ()) (.error error)

/-- What an execution request does to the run it names. -/
inductive Executes (runtime : Runtime) (store : Store) (runId : String) (course : Course)
    (payload : AgentRunExecuteRequest) (outcome : ExecutorOutcome) : Except Raised Unit → List Deed → Prop where
  | declined (error : Raised) (bound : List Deed) (binds : Bound course bound) :
      Executes runtime store runId course payload outcome (.error error) bound
  | withheld (error : Raised) (after : Store) (bound ruled : List Deed) (binds : Bound course bound)
      (refuses : Refuses runId (course.along bound) error after ruled)
      (governed : ruled = [] ∨ (course.along bound).Governed runtime) :
      Executes runtime store runId course payload outcome (.error error.asConflict) (bound ++ ruled)
  | attempted (bound ruled tail : List Deed) (reached response : Except Raised Unit) (binds : Bound course bound)
      (rules : Ruled runtime store runId (course.along bound) payload.timeoutSeconds bound ruled)
      (attempt : Attempted runtime payload.workerId outcome (course.along (bound ++ ruled)) reached tail)
      (consumed : Consumed tail reached response) :
      Executes runtime store runId course payload outcome (response.mapError Raised.asConflict)
        (bound ++ ruled ++ tail)

section Execute

variable {runtime : Runtime} {store : Store} {runId : String} {course : Course}

theorem safeLeaseSeconds_ends (payload : AgentRunExecuteRequest) :
    (safeLeaseSeconds payload).Ends store fun _ after => after = store := by
  simp [safeLeaseSeconds]

theorem admitExecution_ends (shows : store.Shows runId course) (payload : AgentRunExecuteRequest) :
    (admitExecution runId payload).Ends store fun outcome after => after = store ∧
      ∀ admitted, outcome = .ok admitted →
        admitted.2 = course.focus.id ∧ course.step ≠ .running ∧ course.holder = none := by
  obtain ⟨durable, stored, -, depicts⟩ := id shows
  have failed : ∀ error : Raised, store = store ∧ ∀ admitted : Nat × String,
      (Except.error error : Except Raised (Nat × String)) = .ok admitted →
        admitted.2 = course.focus.id ∧ course.step ≠ .running ∧ course.holder = none := fun _ => ⟨rfl, by simp⟩
  refine ends_runOr404 stored (ends_guard (failed _) fun boundary => ?_)
  refine Ends.bind (safeLeaseSeconds_ends payload) (fun seconds after same => ?_) fun error after same => ?_
  · obtain rfl : after = store := same
    obtain ⟨focus, current, identity, -⟩ := depicts.current
    rw [current, ends_bind, ends_found_some]
    refine ⟨rfl, fun admitted same => ?_⟩
    obtain rfl := Except.ok.inj same
    exact ⟨congrArg StepIdentity.id identity, depicts.boundary boundary⟩
  · obtain rfl : after = store := same
    exact failed error

theorem sealFinalEvidence_carries {scope : RunScope} (outcome : ExecutorOutcome)
    (depicts : Depicts scope.run scope.steps course) :
    (sealFinalEvidence outcome).Ends scope (Carries course (pure ())) := by
  unfold sealFinalEvidence
  split
  · obtain ⟨passed, focus, ahead, picture, rfl⟩ := depicts
    exact ⟨⟨passed, focus, ahead, picture.changeRun (fun run => { run with finalEvidenceHash := _ }) rfl rfl rfl, rfl⟩, rfl⟩
  · exact carries_pure depicts ()

theorem sealFinalEvidence_onward (outcome : ExecutorOutcome) : RunOnward (sealFinalEvidence outcome) := by
  unfold sealFinalEvidence
  split
  · exact runOnward_modifyRun fun _ => rfl
  · exact runOnward_pure _

/-- A run in a steady course was cancelled only if it has ended. -/
theorem Course.Steady.settled (steady : course.Steady) (requested : course.cancelRequested = true) :
    course.run.isTerminal = true := by
  rw [steady.fits.2.2.2.1.mp requested]
  rfl

/-- The executor call on a running step: the worker is lost, or its result is applied. -/
theorem runExecutor_ends (shows : store.Shows runId course) (steady : course.Steady) (running : course.step = .running)
    (outcome : ExecutorOutcome) {step : AgentRunStep} (current : step.id = course.focus.id) (leaseToken : String) :
    (runExecutor runtime runId outcome (.invoking step leaseToken)).Ends store fun response after =>
      (after.Shows runId course ∧ outcome.result runtime = none ∧ response = .error .workerCrashed) ∨
        ∃ result, after.Shows runId (course.after (Move.finish result.decision)) ∧
          outcome.result runtime = some result ∧ response = .ok () := by
  refine Ends.bind (onRun_carries shows (sealFinalEvidence_onward outcome)
    fun scope depicts => sealFinalEvidence_carries outcome depicts) (fun _ after ends => ?_) fun error after ends => ?_
  · have shown : after.Shows runId course := ends.1
    cases came : outcome.result runtime with
    | none => exact .inl ⟨shown, rfl, rfl⟩
    | some result =>
      rw [current]
      refine (onRun_carries shown (finishExecution_onward _ result)
        fun scope depicts => finishExecution_carries result depicts steady.passable).mono fun response last ends => ?_
      rw [steady.finish_accepted result.decision running] at ends
      refine .inr ⟨result, ends.1, rfl, ?_⟩
      cases response with
      | ok value => rfl
      | error error => simp [Except.isOk, Except.toBool] at ends
  · have accepted : course.accepts (pure ()) = true := rfl
    rw [accepted] at ends
    simp [Except.isOk, Except.toBool] at ends

/-- The start of the step, the executor, and the application of its result. -/
theorem attempt_ends (shows : store.Shows runId course) (steady : course.Steady) (free : course.holder = none)
    (payload : AgentRunExecuteRequest) (leaseSeconds : Nat) (outcome : ExecutorOutcome) :
    (onRun runId (beginExecution runtime payload.workerId leaseSeconds) >>= runExecutor runtime runId outcome).Ends
      store fun response after => ∃ deeds, Performs course deeds (course.along deeds) ∧
        after.Shows runId (course.along deeds) ∧ Attempted runtime payload.workerId outcome course response deeds := by
  have begins : (onRun runId (beginExecution runtime payload.workerId leaseSeconds)).Ends store fun outcome after =>
      ∃ reached, after.Shows runId reached ∧ Begins payload.workerId course outcome reached :=
    onRun_shows shows (beginExecution_onward payload.workerId leaseSeconds)
      fun scope depicts => beginExecution_begins payload.workerId leaseSeconds depicts free steady.settled
  refine Ends.bind begins (fun begun after ends => ?_) fun error after ends => ?_
  · obtain ⟨reached, shown, begins⟩ := ends
    cases begins with
    | answered result startable unready => exact ⟨[], .done course, shown, .waiting startable unready⟩
    | invoking step leaseToken startable idle current =>
      have started : Performs course [.begin payload.workerId] (course.after (Move.begin payload.workerId)) :=
        .single (.begin payload.workerId) ⟨startable, idle, free⟩
      have running : (course.after (Move.begin payload.workerId)).step = .running ∧
          (course.after (Move.begin payload.workerId)).focus = course.focus := by
        rw [Course.after, Move.run_begin course payload.workerId idle, Move.run_start _ rfl]
        exact ⟨rfl, rfl⟩
      refine (runExecutor_ends shown (started.steady steady) running.1 outcome ?_ leaseToken).mono
        fun response last ends => ?_
      · exact (congrArg StepIdentity.id current).trans (congrArg StepIdentity.id running.2.symm)
      · obtain ⟨shown, lost, rfl⟩ | ⟨result, shown, came, rfl⟩ := ends
        · exact ⟨_, started, shown, .crashed lost⟩
        · exact ⟨_, started.snoc (.finish result.decision) running.1, shown, .finished result came⟩
  · obtain ⟨reached, shown, begins⟩ := ends
    cases begins with
    | refused _ unready => exact ⟨[], .done course, shown, .refused error unready⟩

/-- The actions of a step that has not passed are not consumed. -/
theorem consumeRunStepActions_unpassed (shows : store.Shows runId course) (unpassed : course.step ≠ .succeeded)
    (actor : String) (actions : List ProposedAction) :
    (consumeRunStepActions runtime runId course.focus.id actor actions).Ends store
      fun response after => response = .ok () ∧ after = store := by
  obtain ⟨durable, stored, -, depicts⟩ := shows
  obtain ⟨step, found, -, status, -⟩ := depicts.finds
  refine ends_runOr404 stored ?_
  rw [found, ends_bind, ends_found_some, continue_ok, if_pos (.inr (by rw [status]; exact unpassed))]
  exact ⟨rfl, rfl⟩

theorem consumeRunStepActions_quiet (stepId actor : String) (actions : List ProposedAction) :
    Quiet (consumeRunStepActions runtime runId stepId actor actions) := by
  refine quiet_bind (quiet_read fun _ => quiet_found _ _) fun durable => quiet_bind (quiet_found _ _) fun step => ?_
  refine guarantees_ite (quiet_pure _) (guarantees_each Store.quietly_self Store.quietly_trans _ fun _ _ => ?_)
  exact quiet_bind (quiet_demand _) fun _ => consumeEffectiveAction_quiet _ _ _

/-- Consumption can only fail behind a pass. -/
theorem consumeAttempted_ends {before : Course} {workerId : String} {outcome : ExecutorOutcome} {tail : List Deed}
    (shows : store.Shows runId (before.along tail)) (steady : before.Steady)
    (attempt : Attempted runtime workerId outcome before (.ok ()) tail) (performs : Performs before tail (before.along tail))
    (actor : String) (actions : List ProposedAction) :
    (consumeRunStepActions runtime runId before.focus.id actor actions).Ends store fun response after =>
      after.Shows runId (before.along tail) ∧ Consumed tail (.ok ()) response := by
  have shown : (consumeRunStepActions runtime runId before.focus.id actor actions).Ends store fun _ after =>
      after.Shows runId (before.along tail) :=
    ((consumeRunStepActions_quiet _ _ _).ends store).mono fun _ after quiet => shows.of_runs quiet.runs
  -- a consumption follows only a step that passed
  have settled : (before.along tail).step ≠ .succeeded → (before.along tail).focus = before.focus →
      (consumeRunStepActions runtime runId before.focus.id actor actions).Ends store fun response after =>
        after.Shows runId (before.along tail) ∧ Consumed tail (.ok ()) response := by
    intro unpassed focus
    rw [← focus]
    refine (consumeRunStepActions_unpassed shows unpassed actor actions).mono fun response after ends => ?_
    obtain ⟨rfl, rfl⟩ := ends
    exact ⟨shows, .same _⟩
  cases attempt with
  | waiting startable unready =>
    refine settled (fun passed => ?_) rfl
    have ended := startable.active
    rw [steady.fits.2.2.1.mpr passed] at ended
    cases ended
  | finished result came =>
    cases performs with
    -- an attempt that came back: its worker began, and its result was applied
    | deed _ enabled rest =>
      have began := steady.deed (.begin workerId) enabled
      have running : (before.after (Move.begin workerId)).step = .running ∧
          (before.after (Move.begin workerId)).focus = before.focus := by
        rw [Course.after, Move.run_begin before workerId enabled.2.1, Move.run_start _ rfl]
        exact ⟨rfl, rfl⟩
      by_cases passing : result.decision = .pass
      · refine shown.mono fun response after still => ⟨still, ?_⟩
        cases response with
        | ok value => exact .same _
        | error error => exact .refused error ⟨workerId, by rw [passing]⟩
      · obtain ⟨unpassed, focus⟩ := began.finish_unpassed passing running.1
        exact settled unpassed (focus.trans running.2)

/-- What a whole execution request does. -/
theorem executeRunNextStep_ends (shows : store.Shows runId course) (steady : course.Steady)
    (payload : AgentRunExecuteRequest) (outcome : ExecutorOutcome) (user : AuthUser) :
    (executeRunNextStep runtime runId payload outcome user).Ends store fun response after =>
      ∃ deeds, Performs course deeds (course.along deeds) ∧ after.Shows runId (course.along deeds) ∧
        Executes runtime store runId course payload outcome response deeds := by
  refine Ends.bind (admitExecution_ends shows payload) (fun admitted after ends => ?_) fun error after ends => ?_
  · obtain ⟨rfl, admits⟩ := ends
    obtain ⟨seconds, currentId⟩ := admitted
    obtain ⟨rfl, still, free⟩ := admits _ rfl
    refine ends_relabel.mpr ?_
    rw [ends_bind, attemptStep, ends_bind, governExecution, ends_bind]
    -- the parts of the request, each from the course that the last one left
    refine (ensureRunCapability_ends shows user).mono fun ensured granted ends => ?_
    obtain ⟨bound, last, binds, performs, shown, unchanged⟩ := ends
    obtain rfl := performs.along
    cases ensured with
    | error error => exact ⟨bound, performs, shown, .declined _ bound binds⟩
    | ok value =>
      have focus : (course.along bound).focus = course.focus := by cases binds <;> rfl
      have holder : (course.along bound).holder = none := by cases binds <;> exact free
      rw [continue_ok, ← focus]
      refine (authorizeRunStep_ends shown user.email payload.timeoutSeconds).mono fun ruling ruled ends => ?_
      cases ruling with
      | error error =>
        obtain ⟨refused, refuses, governed⟩ := ends.1 error rfl
        obtain ⟨refusing, shown⟩ := refuses.performs
        exact ⟨bound ++ refused, by simpa using performs.append refusing, by simpa using shown,
          .withheld error ruled bound refused binds refuses governed⟩
      | ok actions =>
        have allowing := ends.2 actions rfl
        -- either the step needs no ruling, or all its actions were let through
        have ruling : ∃ deeds, Performs (course.along bound) deeds ((course.along bound).along deeds) ∧
            ruled.Shows runId ((course.along bound).along deeds) ∧
            Ruled runtime after runId (course.along bound) payload.timeoutSeconds bound deeds := by
          obtain ⟨rfl, -, free⟩ | ⟨shown, governed, durable, step, stored, current, authorized⟩ := allowing
          · exact ⟨[], .done _, shown, .exempt free⟩
          · refine ⟨[.clear], .single .clear trivial, shown, .cleared governed fun none => ?_⟩
            obtain rfl := unchanged rfl none
            exact ⟨durable, step, actions, stored, current, authorized.toLetsThrough⟩
        obtain ⟨deeds, rulings, shown, rules⟩ := ruling
        have performed : Performs course (bound ++ deeds) (course.along (bound ++ deeds)) := by
          simpa using performs.append rulings
        rw [← Course.along_append] at shown
        -- neither the lease nor the ruling gave the run to a worker
        have kept : (course.along (bound ++ deeds)).holder = none ∧ (course.along (bound ++ deeds)).focus = course.focus := by
          cases rules with
          | exempt => simpa using ⟨holder, focus⟩
          | cleared => simpa [Deed.move, Course.after, Move.run_allow] using ⟨holder, focus⟩
        have going := performed.steady steady
        rw [continue_ok, ends_assoc, ends_bind]
        refine (attempt_ends shown going kept.1 payload seconds outcome).mono fun reached later ends => ?_
        obtain ⟨tail, attempts, shown, attempt⟩ := ends
        have whole : Performs course (bound ++ deeds ++ tail) (course.along (bound ++ deeds ++ tail)) := by
          rw [Course.along_append _ (bound ++ deeds)]
          exact performed.append attempts
        cases reached with
        | error error =>
          -- an error of the attempt is the answer
          exact ⟨_, whole, by rwa [Course.along_append], .attempted bound deeds tail _ _ binds rules attempt (.same _)⟩
        | ok value =>
          -- what the attempt consumed is charged last
          rw [continue_ok, ends_pure, continue_ok, focus, ← kept.2]
          refine (consumeAttempted_ends shown going attempt attempts user.email actions).mono fun response last ends => ?_
          exact ⟨_, whole, by rw [Course.along_append]; exact ends.1,
            .attempted bound deeds tail _ response binds rules attempt ends.2⟩
  · -- a request that is not admitted leaves everything as it was
    obtain ⟨rfl, -⟩ := ends
    exact ⟨[], .done course, shows, .declined error [] .unchanged⟩

end Execute

end ControlTower
