import ControlTower.Run.Budget

/-! The human gate. A step that waits for a human is let go by its operator, by a human
decision on an action that names it, by an authorization that finds all its actions let
through, or by one that blocks it; a run that waits, also by a decision on an action that
names another of its steps. -/

set_option autoImplicit false

namespace ControlTower

open Foundation
open Foundation.Procedure

/-- The requests that authorize the step of a run. -/
def RunRequest.Authorizes (runId : String) (timeoutSeconds : Nat) : RunRequest → Prop
  | .executeNext target payload _ _ => target = runId ∧ payload.timeoutSeconds = timeoutSeconds
  | .authorize target _ seconds => target = runId ∧ seconds = timeoutSeconds
  | _ => False

/-- What opens the gate of the step in focus. -/
inductive Store.OpensGate (runtime : Runtime) (store : Store) (runId : String) (durable later : DurableRun)
    (focus : AgentRunStep) : RunRequest → Prop where
  | controlled (request : RunRequest) (control : request.Controls runId) :
      OpensGate runtime store runId durable later focus request
  | decided (actionId : String) (payload : ActionAuthorizationCreate) (user : AuthUser)
      (takes : store.TakesVerdict runtime actionId payload user)
      (named : store.namedByAction runtime actionId = some (runId, focus.id)) :
      OpensGate runtime store runId durable later focus (.decide actionId payload user)
  /-- Every action that the step derives for its next attempt has been let through. -/
  | cleared (request : RunRequest) (timeoutSeconds : Nat) (actions : List ProposedAction)
      (authorizes : request.Authorizes runId timeoutSeconds)
      (through : store.LetsThrough runtime durable.run focus timeoutSeconds actions) :
      OpensGate runtime store runId durable later focus request
  /-- An authorization blocks the step. -/
  | blocked (request : RunRequest) (timeoutSeconds : Nat) (authorizes : request.Authorizes runId timeoutSeconds)
      (enforced : runtime.trustEnforcement = true)
      (ends : ⟨focus.identity, .blocked, focus.attemptCount⟩ ∈ later.steps.map AgentRunStep.row) :
      OpensGate runtime store runId durable later focus request

/-- The step still waits for its human; the run does too if it did. -/
def Course.StillGated (course last : Course) : Prop :=
  last.focus = course.focus ∧ last.step = .needsHuman ∧ last.attempts = course.attempts ∧
    (course.run = .needsHuman → last.run = .needsHuman)

section Gate

variable {runtime : Runtime} {store : Store} {runId : String} {course : Course}

theorem stillGated_self (gated : course.step = .needsHuman) : course.StillGated course := ⟨rfl, gated, rfl, id⟩

/-- A verdict on a step that waits for a human always reaches the step. -/
theorem gated_toBoth (gated : course.step = .needsHuman) {goal : AgentRunStepStatus} (runGoal : AgentRunStatus)
    (legal : canTransitionStep .needsHuman goal = true) :
    (course.after (Move.toBoth goal runGoal)).step = goal ∧
      ((course.after (Move.toBoth goal runGoal)).run = runGoal ∨
        (course.after (Move.toBoth goal runGoal)).run = course.run) := by
  unfold Course.after
  rw [Move.run_toBoth, gated, if_pos legal]
  split
  · exact ⟨rfl, .inl rfl⟩
  · exact ⟨rfl, .inr rfl⟩

theorem stillGated_hold (gated : course.step = .needsHuman) : course.StillGated (course.after Move.hold) := by
  have beside : course.Beside (course.after Move.hold) := beside_toBoth .needsHuman .needsHuman (by decide)
  have legal : canTransitionStep .needsHuman .needsHuman = true := rfl
  have ends := gated_toBoth gated .needsHuman legal
  refine ⟨beside.focus, ends.1, beside.attempts, fun waits => ?_⟩
  rcases ends.2 with moved | same
  · exact moved
  · exact same.trans waits

/-- No worker starts a step that waits for a human. -/
theorem gated_attempt {workerId : String} {outcome : ExecutorOutcome} {reached : Except Raised Unit} {tail : List Deed}
    (gated : course.step = .needsHuman) (performs : Performs course tail (course.along tail))
    (attempt : Attempted runtime workerId outcome course reached tail) : course.along tail = course := by
  have unstarted : ∀ rest, ¬ Performs course (.begin workerId :: rest) (course.along (.begin workerId :: rest)) := by
    intro rest performs
    cases performs with
    | deed _ enabled _ =>
      rw [Deed.Enabled, gated] at enabled
      exact enabled.2.1.elim (fun same => by cases same) fun same => by cases same
  cases attempt with
  | refused | waiting => rfl
  | crashed => exact absurd performs (unstarted _)
  | finished => exact absurd performs (unstarted _)

theorem Course.StillGated.trans {middle last : Course} (start : course.StillGated middle) (rest : middle.StillGated last) :
    course.StillGated last := by
  obtain ⟨focus, -, attempts, run⟩ := start
  obtain ⟨focus', gated, attempts', run'⟩ := rest
  exact ⟨focus'.trans focus, gated, attempts'.trans attempts, fun waits => run' (run waits)⟩

theorem Bound.stillGated {bound : List Deed} (binds : Bound course bound) (gated : course.step = .needsHuman) :
    course.StillGated (course.along bound) := by
  obtain ⟨beside, step, run, -⟩ := binds.beside
  exact ⟨beside.focus, step.trans gated, beside.attempts, fun waits => run.trans waits⟩

/-- Where leases are demanded, the run of a step that waits for a human has one. -/
theorem Course.Leased.unbound {bound : List Deed} (leased : course.Leased runtime) (gated : course.step = .needsHuman)
    (binds : Bound course bound) (governed : (course.along bound).Governed runtime) : bound = [] := by
  cases binds with
  | unchanged => rfl
  | leased leaseId absent =>
    have present := leased governed.1 governed.2.1 (.inl gated)
    rw [absent] at present
    cases present

/-- The blocked step is one of the rows. -/
theorem blocked_row {later : DurableRun} {focus : AgentRunStep} {last : Course} (here : focus.identity = last.focus)
    (tries : focus.attemptCount = last.attempts) (gated : last.step = .needsHuman)
    (shows : Depicts later.run later.steps (last.after Move.block)) :
    ⟨focus.identity, .blocked, focus.attemptCount⟩ ∈ later.steps.map AgentRunStep.row := by
  have beside : last.Beside (last.after Move.block) := beside_toBoth .blocked .blocked (by decide)
  have legal : canTransitionStep .needsHuman .blocked = true := rfl
  have ends : (last.after Move.block).step = .blocked := (gated_toBoth gated .blocked legal).1
  have row := row_focus (last.after Move.block)
  rw [ends, beside.focus, beside.attempts, ← here, ← tries] at row
  rw [shows.rows]
  exact row

/-- What a request does to a run whose step waits for a human. -/
theorem Serves.gate {durable later : DurableRun} {focus : AgentRunStep} {request : RunRequest}
    {response : Except Raised Unit} {deeds : List Deed} (stored : store.agentRuns.get? runId = some durable)
    (current : durable.currentStep = some focus) (here : focus.identity = course.focus)
    (tries : focus.attemptCount = course.attempts) (gated : course.step = .needsHuman) (leased : course.Leased runtime)
    (performs : Performs course deeds (course.along deeds)) (shows : Depicts later.run later.steps (course.along deeds))
    (serves : Serves runtime store runId course request response deeds) :
    course.StillGated (course.along deeds) ∨ store.OpensGate runtime runId durable later focus request ∨
      ∃ actionId payload user stepId, request = .decide actionId payload user ∧ stepId ≠ focus.id ∧
        store.TakesVerdict runtime actionId payload user ∧
        store.namedByAction runtime actionId = some (runId, stepId) ∧
        (course.along deeds).focus = course.focus ∧ (course.along deeds).step = .needsHuman ∧
        (course.along deeds).attempts = course.attempts := by
  have still : ∀ last, last = course → course.StillGated last := by
    rintro last rfl
    exact stillGated_self gated
  -- one case for each way in which a request is served
  cases serves with
  | idle => exact .inl (still _ rfl)
  | bound _ _ _ binds => exact .inl (binds.stillGated gated)
  | paused | resumed | cancelled | retried => exact .inr (.inl (.controlled _ rfl))
  | recovered =>
    -- the watchdog recovers only a step that runs
    have held : course.after Move.recover = { course with holder := none } := by
      unfold Course.after
      rw [Move.run_recover, gated]
      rfl
    refine .inl ?_
    show course.StillGated (course.after Move.recover)
    rw [held]
    exact ⟨rfl, gated, rfl, id⟩
  | decided actionId payload user _ _ takes decided =>
    -- a verdict reaches the step in focus, another step of the run, or none of it
    have named : focus.id = course.focus.id := congrArg StepIdentity.id here
    cases decided with
    | apart => exact .inl (still _ rfl)
    | focus addressed => exact .inr (.inl (.decided actionId payload user takes (named ▸ addressed)))
    | beside stepId addressed other =>
      refine .inr (.inr ⟨actionId, payload, user, stepId, rfl, named ▸ other, takes, addressed, ?_⟩)
      cases store.verdictOn actionId payload.decision with
      | allow =>
        simp only [Course.along_cons, Course.along_nil, Deed.move, Course.after, Move.run_allowElsewhere]
        exact ⟨trivial, gated, trivial⟩
      | block =>
        simp only [Course.along_cons, Course.along_nil, Deed.move, Course.after, Move.run_denyElsewhere]
        exact ⟨trivial, gated, trivial⟩
  | withheld actor timeoutSeconds error after _ refuses governed =>
    cases refuses with
    | plainly => exact .inl (still _ rfl)
    | held => exact .inl (stillGated_hold gated)
    | blocked =>
      -- only an authorization under enforcement blocks
      have enforced := (governed.resolve_left (by simp)).1
      exact .inr (.inl (.blocked _ timeoutSeconds ⟨rfl, rfl⟩ enforced (blocked_row here tries gated shows)))
  | authorized actor timeoutSeconds _ _ rules =>
    cases rules with
    | exempt => exact .inl (still _ rfl)
    | cleared governed through =>
      -- every action was let through: that is the clearance
      obtain ⟨known, step, actions, found, present, lets⟩ := through rfl
      obtain rfl : known = durable := Option.some.inj (found.symm.trans stored)
      obtain rfl : step = focus := Option.some.inj (present.symm.trans current)
      exact .inr (.inl (.cleared _ timeoutSeconds actions ⟨rfl, rfl⟩ lets))
  | executed payload outcome user _ _ executes =>
    cases executes with
    | declined _ _ binds => exact .inl (binds.stillGated gated)
    | withheld error after bound ruled binds refuses governed =>
      have start := binds.stillGated gated
      rw [Course.along_append] at shows ⊢
      cases refuses with
      | plainly => exact .inl start
      | held => exact .inl (start.trans (stillGated_hold start.2.1))
      | blocked =>
        have enforced := (governed.resolve_left (by simp)).1
        have row := blocked_row (here.trans start.1.symm) (tries.trans start.2.2.1.symm) start.2.1 shows
        exact .inr (.inl (.blocked _ payload.timeoutSeconds ⟨rfl, rfl⟩ enforced row))
    | attempted bound ruled tail _ _ binds rules attempt =>
      have going : Performs (course.along (bound ++ ruled)) tail ((course.along (bound ++ ruled)).along tail) := by
        rw [← Course.along_append]
        exact performs.rest
      have start := binds.stillGated gated
      cases rules with
      -- no authorization was asked for, and no worker starts a step that waits
      | exempt =>
        rw [List.append_nil] at attempt going ⊢
        rw [Course.along_append, gated_attempt start.2.1 going attempt]
        exact .inl start
      | cleared governed through =>
        -- a lease is bound already, so the clearance is one of the store before the request
        obtain ⟨known, step, actions, found, present, lets⟩ := through (leased.unbound gated binds governed)
        obtain rfl : known = durable := Option.some.inj (found.symm.trans stored)
        obtain rfl : step = focus := Option.some.inj (present.symm.trans current)
        exact .inr (.inl (.cleared _ payload.timeoutSeconds actions ⟨rfl, rfl⟩ lets))

theorem leased_reachable {allowed : Store → RunRequest → Prop} (reachable : (runMachine runtime).Reachable allowed store) :
    store.Every fun course => course.Steady ∧ course.Leased runtime := by
  apply every_reachable _ _ reachable
  · exact fun _ _ initial binds => initial.leased binds
  · exact fun _ _ _ _ _ _ _ _ steady leased performs serves => leased.serve steady performs serves

/-- The human gate. While the step in focus waits for a human, every request leaves it
waiting with its attempts (and the run waiting, if it did), except: a control by the
operator of the run; a human verdict the service takes on an action on record that names
the step; an authorization that finds every action derived for the next attempt let
through, under a valid lease that can pay for them; and an authorization that blocks the
step. A verdict on an action that names another step of the run moves the run alone. -/
theorem human_gate (runtime : Runtime) (store : Store)
    (reachable : (runMachine runtime).Reachable Machine.anything store) (runId : String) (durable : DurableRun)
    (stored : store.agentRuns.get? runId = some durable) (focus : AgentRunStep) (current : durable.currentStep = some focus)
    (gated : focus.status = .needsHuman) (request : RunRequest) :
    ∃ later, ((runMachine runtime).next store request).agentRuns.get? runId = some later ∧
      (store.OpensGate runtime runId durable later focus request ∨
        ⟨focus.identity, .needsHuman, focus.attemptCount⟩ ∈ later.steps.map AgentRunStep.row ∧
          ((durable.run.status = .needsHuman → later.run.status = .needsHuman) ∨
            ∃ actionId payload user stepId, request = .decide actionId payload user ∧ stepId ≠ focus.id ∧
              store.TakesVerdict runtime actionId payload user ∧
              store.namedByAction runtime actionId = some (runId, stepId))) := by
  obtain ⟨course, named, depicts, steady, leased⟩ := leased_reachable reachable runId durable stored
  obtain ⟨step, found, here, status, tries⟩ := depicts.current
  obtain rfl : step = focus := Option.some.inj (found.symm.trans current)
  have served : (perform runtime request).Ends store (Served runtime store runId course request) :=
    perform_serves ⟨durable, stored, named, depicts⟩ steady request
  obtain ⟨deeds, performs, shown, serves⟩ := served
  obtain ⟨later, present, -, shows⟩ := shown
  have waits : (course.along deeds).focus = course.focus → (course.along deeds).step = .needsHuman →
      (course.along deeds).attempts = course.attempts →
      ⟨step.identity, .needsHuman, step.attemptCount⟩ ∈ later.steps.map AgentRunStep.row := by
    -- the row of the waiting step is the one it had
    intro focus still attempts
    have row := row_focus (course.along deeds)
    rw [focus, still, attempts, ← here, ← tries] at row
    rw [shows.rows]
    exact row
  refine ⟨later, present, ?_⟩
  rcases serves.gate stored current here tries (status.symm.trans gated) leased performs shows with still | opens | elsewhere
  · obtain ⟨focus, step, attempts, run⟩ := still
    refine .inr ⟨waits focus step attempts, .inl fun waiting => ?_⟩
    rw [shows.reads.1]
    exact run (depicts.reads.1.symm.trans waiting)
  · exact .inl opens
  · obtain ⟨actionId, payload, user, stepId, same, other, takes, addressed, focus, step, attempts⟩ := elsewhere
    exact .inr ⟨waits focus step attempts, .inr ⟨actionId, payload, user, stepId, same, other, takes, addressed⟩⟩

/-- An execution does not get past the gate. -/
theorem human_gate_held : ∃ durable focus later, gatedStore.agentRuns.get? createdRunId = some durable ∧
    durable.currentStep = some focus ∧
    ((runMachine (.plain false)).next gatedStore lostRequest).agentRuns.get? createdRunId = some later ∧
    ⟨focus.identity, .needsHuman, focus.attemptCount⟩ ∈ later.steps.map AgentRunStep.row := by
  have tests : (gatedStore.agentRuns.get? createdRunId).any (fun durable =>
      durable.currentStep.any fun focus => focus.status = .needsHuman) = true := by decide +kernel
  obtain ⟨durable, stored, waits⟩ := (Option.any_eq_true _ _).mp tests
  obtain ⟨focus, current, gated⟩ := (Option.any_eq_true _ _).mp waits
  obtain ⟨later, present, opens | still⟩ := human_gate (.plain false) gatedStore (storeAfter_reachable _ _) createdRunId durable
    stored focus current (of_decide_eq_true gated) lostRequest
  · -- without enforcement an execution authorizes nothing
    have unenforced : (Runtime.plain false).trustEnforcement = false := rfl
    cases opens with
    | controlled _ control => exact control.elim
    | cleared _ _ _ _ through => exact absurd (through.enforced.symm.trans unenforced) (by simp)
    | blocked _ _ _ enforced => exact absurd (enforced.symm.trans unenforced) (by simp)
  · exact ⟨durable, focus, later, stored, current, present, still.1⟩

end Gate

end ControlTower
