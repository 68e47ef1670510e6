import ControlTower.Run.Conduct

/-! The authorization of a step: which actions it looks at, what it leaves on
record, and the three things it can do to the run. -/

set_option autoImplicit false

namespace ControlTower

open Foundation
open Foundation.Procedure

/-- An action is let through: it is stored with this payload, and the latest
decision on it is an ALLOW. -/
def Store.Cleared (store : Store) (action : ProposedAction) : Prop :=
  ∃ stored decision, store.proposedActions.get? action.id = some stored ∧ stored.fields = action.fields ∧
    store.latestPolicyDecision action.id = some decision ∧ decision.decision = .allow

/-- The policy lets an action through under the stored lease at some time. -/
def Store.PolicyAllows (runtime : Runtime) (store : Store) (action : ProposedAction) : Prop :=
  ∃ lease now, store.capabilityLeases.get? (action.leaseId.getD "") = some lease ∧
    (evaluateProposedAction runtime action (some lease) now).decision = .allow

/-- What an authorization that has looked at some actions has changed. -/
structure Store.Judging (runtime : Runtime) (derived : List ProposedAction) (start mid : Store) : Prop where
  runs : mid.agentRuns = start.agentRuns
  tasks : mid.agentTasks = start.agentTasks
  approvals : mid.approvalRequests = start.approvalRequests
  authorizations : mid.actionAuthorizations = start.actionAuthorizations
  leases : ∀ leaseId lease, start.capabilityLeases.get? leaseId = some lease →
    ∃ kept, mid.capabilityLeases.get? leaseId = some kept ∧ lease.SameGrant kept
  fades : start.Fades mid
  time : start.ticks ≤ mid.ticks
  /-- An action on record keeps its payload and its latest decision. -/
  recorded : ∀ actionId stored, start.proposedActions.get? actionId = some stored →
    mid.proposedActions.get? actionId = some stored ∧
      mid.latestPolicyDecision actionId = start.latestPolicyDecision actionId
  /-- An action that was put on record was allowed by the policy. -/
  added : ∀ actionId stored, start.proposedActions.get? actionId = none →
    mid.proposedActions.get? actionId = some stored →
      ∃ action ∈ derived, action.id = actionId ∧ start.PolicyAllows runtime action

section Judging

variable {runtime : Runtime} {derived : List ProposedAction} {start mid after : Store}

theorem Store.judging_quiet (quiet : start.Quietly mid) (fades : start.Fades mid) :
    start.Judging runtime derived mid where
  runs := quiet.runs
  tasks := quiet.tasks
  approvals := quiet.approvals
  authorizations := quiet.authorizations
  leases := quiet.leases
  fades := fades
  time := quiet.time
  recorded := fun actionId stored found => ⟨quiet.actions ▸ found, latest_congr _ quiet.decisions actionId⟩
  added := fun actionId stored absent found => by
    rw [quiet.actions, absent] at found
    cases found

theorem Store.Judging.recordedBefore (judging : start.Judging runtime derived mid) {actionId : String}
    (absent : mid.proposedActions.get? actionId = none) : start.proposedActions.get? actionId = none := by
  cases found : start.proposedActions.get? actionId with
  | none => rfl
  | some stored =>
    rw [(judging.recorded actionId stored found).1] at absent
    cases absent

/-- What the policy allows under a lease that may have expired since, it allowed
under the lease as it stood. -/
theorem Store.Judging.policyAllows (judging : start.Judging runtime derived mid) {action : ProposedAction}
    {decision : PolicyDecision} (evaluates : mid.Evaluates runtime after action decision)
    (allowed : decision.decision = .allow) : start.PolicyAllows runtime action := by
  obtain ⟨lease, now, verdict, looks⟩ := evaluates.policy
  rw [verdict] at allowed
  cases lease with
  | none => exact absurd allowed (no_lease_never_allows runtime action now)
  | some looked =>
    have active : looked.status = .active := by
      by_contra inactive
      exact inactive_never_allows runtime action looked now inactive allowed
    obtain ⟨stored, found, -, rfl | expired⟩ := looks looked rfl
    · rcases judging.fades _ _ found with before | expired
      · exact ⟨looked, now, before, allowed⟩
      · rw [active] at expired
        cases expired
    · rw [active] at expired
      cases expired

/-- A fresh evaluation that allows its action. -/
theorem Store.Judging.evaluated (judging : start.Judging runtime derived mid) {action : ProposedAction}
    {decision : PolicyDecision} (member : action ∈ derived)
    (absent : mid.proposedActions.get? action.id = none) (evaluates : mid.Evaluates runtime after action decision)
    (fades : mid.Fades after) (allowed : decision.decision = .allow) : start.Judging runtime derived after where
  runs := evaluates.runs.trans judging.runs
  tasks := evaluates.tasks.trans judging.tasks
  approvals := evaluates.approvals.trans judging.approvals
  authorizations := evaluates.authorizations.trans judging.authorizations
  leases := by
    intro leaseId lease found
    obtain ⟨kept, here, granted⟩ := judging.leases leaseId lease found
    obtain ⟨last, there, still⟩ := evaluates.leases leaseId kept here
    exact ⟨last, there, granted.trans still⟩
  fades := Store.fades_trans _ _ _ judging.fades fades
  time := judging.time.trans evaluates.time
  recorded := by
    intro actionId stored found
    obtain ⟨here, latest⟩ := judging.recorded actionId stored found
    have other : actionId ≠ action.id := by
      rintro rfl
      rw [absent] at here
      cases here
    refine ⟨by rw [evaluates.actions, Table.get?_set_other _ _ other, here], ?_⟩
    rw [evaluates.latest_elsewhere (by rw [evaluates.about]; exact other.symm), latest]
  added := by
    intro actionId stored missing found
    by_cases same : actionId = action.id
    · exact ⟨action, member, same.symm, judging.policyAllows evaluates allowed⟩
    · rw [evaluates.actions, Table.get?_set_other _ _ same] at found
      exact judging.added actionId stored missing found

theorem Store.Evaluates.clears {action : ProposedAction} {decision : PolicyDecision}
    (evaluates : mid.Evaluates runtime after action decision) (allowed : decision.decision = .allow)
    (dated : mid.Dated runtime) (moves : StrictMono runtime.clock) : after.Cleared action := by
  refine ⟨action, decision, by rw [evaluates.actions, Table.get?_set_self], rfl, ?_, allowed⟩
  have latest := evaluates.latest dated moves
  rwa [evaluates.about] at latest

/-- A first evaluation of an action changes nothing for actions on record. -/
theorem Store.Evaluates.keepsCleared {action other : ProposedAction} {decision : PolicyDecision}
    (evaluates : mid.Evaluates runtime after action decision)
    (absent : mid.proposedActions.get? action.id = none) (cleared : mid.Cleared other) : after.Cleared other := by
  obtain ⟨stored, latest, found, same, decided, allowed⟩ := cleared
  have different : other.id ≠ action.id := by
    intro equal
    rw [equal, absent] at found
    cases found
  refine ⟨stored, latest, ?_, same, ?_, allowed⟩
  · rw [evaluates.actions, Table.get?_set_other _ _ different, found]
  · rw [evaluates.latest_elsewhere (by rw [evaluates.about]; exact different.symm), decided]

end Judging

/-- How an authorization fails: the run is as it was, or the step is held for a
human because of an action, or the step is blocked. -/
inductive Refuses (runId : String) (course : Course) : Raised → Store → List Deed → Prop where
  | plainly (error : Raised) (after : Store) (shows : after.Shows runId course) :
      Refuses runId course error after []
  | held (error : Raised) (after : Store) (action : ProposedAction)
      (shows : after.Shows runId (course.after Move.hold))
      (names : course.accepts Move.hold = true → error = .agentRunTrustConflict (approvalNeeded ++ action.id)) :
      Refuses runId course error after [.hold]
  | blocked (error : Raised) (after : Store) (shows : after.Shows runId (course.after Move.block)) :
      Refuses runId course error after [.block]

section Refuse

variable {runtime : Runtime} {store : Store} {runId : String} {course : Course} {α : Type}

theorem refuseStep_ends {mark : StepProcedure Unit} {move : Move} (reason : String)
    (shows : store.Shows runId course) (onward : StepOnward mark) (stays : move.Local)
    (projects : ∀ passed ahead state, ProjectsAt (seen passed ahead) mark move state) :
    (refuseStep runId course.focus.id mark reason : StoreProcedure α).Ends store fun outcome after =>
      ∃ error, outcome = .error error ∧ after.Shows runId (course.after move) ∧
        (course.accepts move = true → error = .agentRunTrustConflict reason) := by
  refine Ends.bind (onFocus_carries shows onward stays projects) (fun _ after ends => ?_) fun error after ends => ?_
  · exact ⟨_, rfl, ends.1.of_runs rfl, fun _ => rfl⟩
  · refine ⟨error, rfl, ends.1, fun accepted => ?_⟩
    rw [accepted] at ends
    simp [Except.isOk, Except.toBool] at ends

theorem holdStep_refuses (action : ProposedAction) (shows : store.Shows runId course) :
    (refuseStep runId course.focus.id (markNeedsHuman runtime (approvalNeeded ++ action.id))
        (approvalNeeded ++ action.id) : StoreProcedure α).Ends store fun outcome after =>
      ∃ error deeds, outcome = .error error ∧ Refuses runId course error after deeds := by
  refine (refuseStep_ends _ shows (transitionBoth_onward _ _ _ _) (Move.toBoth_local .needsHuman .needsHuman)
    fun _ _ _ => transitionBoth_projects _ _ _).mono fun outcome after ends => ?_
  obtain ⟨error, failed, held, names⟩ := ends
  exact ⟨error, _, failed, .held error after action held names⟩

theorem blockStep_refuses (reason : String) (shows : store.Shows runId course) :
    (refuseStep runId course.focus.id (markBlocked runtime reason) reason : StoreProcedure α).Ends store
      fun outcome after => ∃ error deeds, outcome = .error error ∧ Refuses runId course error after deeds := by
  refine (refuseStep_ends _ shows (transitionBoth_onward _ _ _ _) (Move.toBoth_local .blocked .blocked)
    fun _ _ _ => transitionBoth_projects _ _ _).mono fun outcome after ends => ?_
  obtain ⟨error, failed, blocked, -⟩ := ends
  exact ⟨error, _, failed, .blocked error after blocked⟩

end Refuse

section Authorize

variable {runtime : Runtime} {derived : List ProposedAction} {start mid : Store} {runId : String} {course : Course}

/-- What is true of an action once an authorization has let it through. -/
structure LetThrough (runtime : Runtime) (start mid : Store) (action : ProposedAction) : Prop where
  onRecord : (∃ stored, start.proposedActions.get? action.id = some stored) → start.Cleared action
  filed : ∃ stored, mid.proposedActions.get? action.id = some stored
  cleared : StrictMono runtime.clock → start.Dated runtime → mid.Cleared action

/-- The invariant of the loop over the derived actions. -/
structure Loop (runtime : Runtime) (derived : List ProposedAction) (start mid : Store) (runId : String)
    (course : Course) : Prop where
  judging : start.Judging runtime derived mid
  shows : mid.Shows runId course
  dated : start.Dated runtime → mid.Dated runtime

/-- The verdict in force decides whether the loop goes on. -/
theorem ruleOn_ends (decision : PolicyDecision) (action : ProposedAction)
    (shows : mid.Shows runId course) {post : Store → Prop} (passes : decision.decision = .allow → post mid) :
    (match decision.decision with
      | .allow => pure ()
      | .block => refuseStep runId course.focus.id
          (markBlocked runtime ("Trust policy blocked execution: " ++ Text.join " " decision.reasons))
          ("Trust policy blocked execution: " ++ Text.join " " decision.reasons)
      | .requireApproval => refuseStep runId course.focus.id (markNeedsHuman runtime (approvalNeeded ++ action.id))
          (approvalNeeded ++ action.id) : StoreProcedure Unit).Ends mid fun outcome after =>
      (∀ error, outcome = .error error → ∃ deeds, Refuses runId course error after deeds) ∧
        (outcome = .ok () → post after) := by
  cases verdict : decision.decision with
  | allow => exact ⟨by simp, fun _ => passes verdict⟩
  | block =>
    refine (blockStep_refuses _ shows).mono fun outcome after ends => ?_
    obtain ⟨error, deeds, rfl, refuses⟩ := ends
    refine ⟨fun other same => ?_, by simp⟩
    obtain rfl : error = other := by simpa using same
    exact ⟨deeds, refuses⟩
  | requireApproval =>
    refine (holdStep_refuses action shows).mono fun outcome after ends => ?_
    obtain ⟨error, deeds, rfl, refuses⟩ := ends
    refine ⟨fun other same => ?_, by simp⟩
    obtain rfl : error = other := by simpa using same
    exact ⟨deeds, refuses⟩

theorem authorizeAction_ends (loop : Loop runtime derived start mid runId course) (actor : String)
    {action : ProposedAction} (member : action ∈ derived) :
    (authorizeAction runtime runId course.focus.id actor action).Ends mid fun outcome after =>
      (∀ error, outcome = .error error → ∃ deeds, Refuses runId course error after deeds) ∧
        (outcome = .ok () → Loop runtime derived start after runId course ∧ LetThrough runtime start after action ∧
          ∀ other, LetThrough runtime start mid other → LetThrough runtime start after other) := by
  have judging := loop.judging
  simp only [authorizeAction, decideDerivedAction, ends_bind, ends_state, continue_ok]
  cases found : mid.proposedActions.get? action.id with
  -- the action is new: the policy decides it now
  | none =>
    have evaluation : (evaluateGatewayAction runtime action actor).Ends mid fun outcome after =>
        mid.Fades after ∧ ∃ decision, outcome = .ok decision ∧ mid.Evaluates runtime after action decision :=
      ⟨evaluateGatewayAction_fading action actor mid, evaluateGatewayAction_evaluates action actor⟩
    refine evaluation.mono fun outcome after ends => ?_
    obtain ⟨fades, decision, rfl, evaluates⟩ := ends
    rw [continue_ok]
    refine ruleOn_ends decision action (loop.shows.of_runs evaluates.runs) fun allowed => ?_
    refine ⟨⟨judging.evaluated member found evaluates fades allowed, loop.shows.of_runs evaluates.runs,
      fun dated => evaluates.dates (loop.dated dated)⟩, ?_, fun other through => ?_⟩
    · refine ⟨fun recorded => ?_, ⟨action, by rw [evaluates.actions, Table.get?_set_self]⟩,
        fun moves dated => evaluates.clears allowed (loop.dated dated) moves⟩
      obtain ⟨stored, before⟩ := recorded
      rw [(judging.recorded action.id stored before).1] at found
      cases found
    · obtain ⟨stored, before⟩ := through.filed
      -- the actions let through before are on record, and this one was not
      have other_ne : other.id ≠ action.id := by
        intro equal
        rw [equal, found] at before
        cases before
      exact ⟨through.onRecord, ⟨stored, by rw [evaluates.actions, Table.get?_set_other _ _ other_ne, before]⟩,
        fun moves dated => evaluates.keepsCleared found (through.cleared moves dated)⟩
  | some existing =>
    -- an action on record that does not fit the derived one blocks the step
    have refusal : ∀ (reason : String) (next : PolicyDecision → StoreProcedure Unit) (post : Store → Prop),
        (refuseStep runId course.focus.id (markBlocked runtime reason) reason).Ends mid
          (Continue next fun outcome after =>
            (∀ error, outcome = .error error → ∃ deeds, Refuses runId course error after deeds) ∧
              (outcome = .ok () → post after)) := by
      intro reason next post
      refine (blockStep_refuses reason loop.shows).mono fun outcome after ends => ?_
      obtain ⟨error, deeds, rfl, refuses⟩ := ends
      refine ⟨fun other same => ?_, by simp⟩
      obtain rfl : error = other := by simpa using same
      exact ⟨deeds, refuses⟩
    by_cases same : existing.fields = action.fields
    · cases latest : mid.latestPolicyDecision action.id with
      | none =>
        simp only [same, ne_eq, not_true, if_false]
        exact refusal "Existing trust action has no policy decision." _ _
      | some decision =>
        -- the action is on record as derived, and its latest decision is asked
        simp only [same, ne_eq, not_true, if_false, ends_pure]
        rw [continue_ok]
        refine ruleOn_ends decision action loop.shows fun allowed => ?_
        have cleared : mid.Cleared action := ⟨existing, decision, found, same, latest, allowed⟩
        refine ⟨loop, ⟨fun recorded => ?_, ⟨existing, found⟩, fun _ _ => cleared⟩, fun _ through => through⟩
        -- it was on record before the authorization began, with the same latest decision
        obtain ⟨stored, before⟩ := recorded
        obtain ⟨here, still⟩ := judging.recorded action.id stored before
        rw [found] at here
        obtain rfl : existing = stored := by simpa using here
        exact ⟨existing, decision, before, same, still ▸ latest, allowed⟩
    · simp only [ne_eq, same, not_false_eq_true, if_true]
      exact refusal "Deterministic trust action identifier resolved to a different payload." _ _

theorem blockOnConflict_ends {α : Type} {check : StoreProcedure α} {post : α → Store → Prop}
    (shows : mid.Shows runId course)
    (ends : check.Ends mid fun outcome after =>
      after.agentRuns = mid.agentRuns ∧ ∀ value, outcome = .ok value → post value after) :
    (blockOnConflict runtime runId course.focus.id check).Ends mid fun outcome after =>
      (∀ error, outcome = .error error → ∃ deeds, Refuses runId course error after deeds) ∧
        ∀ value, outcome = .ok value → post value after := by
  rw [blockOnConflict, ends_rescue]
  refine ends.mono fun outcome after checked => ?_
  obtain ⟨sameRuns, passes⟩ := checked
  have shown : after.Shows runId course := shows.of_runs sameRuns
  cases outcome with
  | ok value =>
    refine ⟨by simp, fun other same => passes other same⟩
  | error error =>
    have blocks : ∀ reason, (refuseStep runId course.focus.id (markBlocked runtime reason) reason :
        StoreProcedure α).Ends after fun outcome last =>
          (∀ error, outcome = .error error → ∃ deeds, Refuses runId course error last deeds) ∧
            ∀ value, outcome = .ok value → post value last := by
      intro reason
      refine (blockStep_refuses reason shown).mono fun outcome last refused => ?_
      obtain ⟨failure, deeds, rfl, refuses⟩ := refused
      refine ⟨fun other same => ?_, by simp⟩
      obtain rfl : failure = other := by simpa using same
      exact ⟨deeds, refuses⟩
    cases error with
    | agentRunTrustConflict message => exact blocks message
    | _ =>
      refine ⟨fun other same => ?_, by simp⟩
      exact ⟨[], .plainly other after shown⟩

/-- A lease that passes the check of its run is active, unexpired, and beyond objection. -/
theorem validateLeaseForRun_ends (run : AgentRun) (lease : CapabilityLease) :
    (validateLeaseForRun runtime run lease).Ends mid fun outcome after =>
      (mid.Quietly after ∧ mid.Fades after) ∧ ∀ checked, outcome = .ok checked →
        checked = lease ∧ lease.status = .active ∧ runtime.clock mid.ticks < lease.expiresAt ∧
          leaseObjections mid run lease = [] := by
  rw [validateLeaseForRun, ends_bind]
  refine (((refreshLeaseStatus_quiet lease).ends mid).and (((refreshLeaseStatus_fading lease).ends mid).and
    (refreshLeaseStatus_ends lease))).mono fun outcome after ends => ?_
  obtain ⟨quiet, fades, refreshed, rfl, granted, looks⟩ := ends
  simp only [continue_ok, ends_bind, ends_state, ends_demand, ends_pure, continue_error]
  refine ⟨fun silent => ⟨⟨quiet, fades⟩, fun checked same => ?_⟩, fun _ => ⟨⟨quiet, fades⟩, by simp⟩⟩
  obtain rfl : refreshed = checked := by simpa using same
  have active : refreshed.status = .active := by
    by_contra inactive
    simp [leaseObjections, reasonIf, inactive] at silent
  rcases looks with ⟨rfl, -, going⟩ | expired
  · refine ⟨rfl, active, going active, ?_⟩
    simpa only [leaseObjections, quiet.tasks, quiet.approvals] using silent
  · rw [active] at expired
    cases expired

theorem stepActions_ends (run : AgentRun) (step : AgentRunStep) (timeoutSeconds : Nat) :
    (stepActions runtime run step timeoutSeconds).Ends mid fun outcome after =>
      after = mid ∧ ∀ actions, outcome = .ok actions → ∃ task approval,
        mid.agentTasks.get? run.taskId = some task ∧
          mid.approvalRequests.get? (run.approvalRequestId.getD "") = some approval ∧
          actions = derivedActions runtime run step task approval timeoutSeconds := by
  rw [stepActions, ends_bind, ends_state, continue_ok]
  cases task : mid.agentTasks.get? run.taskId with
  | none => exact ⟨rfl, by simp [found, run_bind]⟩
  | some known =>
    cases approval : mid.approvalRequests.get? (run.approvalRequestId.getD "") with
    | none => exact ⟨rfl, by simp [found, run_bind]⟩
    | some sealed =>
      simp only [found, ends_bind, ends_pure, continue_ok, ends_demand, continue_error]
      refine ⟨fun _ => ⟨trivial, fun actions same => ⟨known, sealed, rfl, rfl, ?_⟩⟩, fun _ => ⟨trivial, by simp⟩⟩
      simpa using same.symm

/-- The lease can pay for these actions together. -/
def CapabilityLease.Affords (lease : CapabilityLease) (actions : List ProposedAction) : Prop :=
  lease.consumedRuntimeSeconds + (actions.map (·.estimatedRuntimeSeconds)).sum ≤ lease.scope.maxRuntimeSeconds ∧
    lease.consumedCostUsd + (actions.map (·.estimatedCostUsd)).sum ≤ lease.scope.maxCostUsd ∧
    lease.consumedPullRequests + actions.countP (·.actionType == .createPullRequest) ≤ lease.scope.maxPullRequests

theorem preflightAggregateBudget_ends (lease : CapabilityLease) (actions : List ProposedAction) :
    (preflightAggregateBudget lease actions).Ends mid fun outcome after =>
      after = mid ∧ (outcome = .ok () → lease.Affords actions) := by
  simp only [preflightAggregateBudget, ends_bind, ends_demand, continue_ok, continue_error]
  refine ⟨fun runtime => ⟨fun cost => ⟨fun requests => ?_, fun _ => by simp⟩, fun _ => by simp⟩, fun _ => by simp⟩
  exact ⟨trivial, fun _ => ⟨runtime, cost, requests⟩⟩

/-- The store lets a step through: its run has a valid lease that can pay for the
derived actions, and each of them is on record with an ALLOW or allowed by the policy. -/
structure Store.LetsThrough (runtime : Runtime) (store : Store) (run : AgentRun) (step : AgentRunStep)
    (timeoutSeconds : Nat) (actions : List ProposedAction) : Prop where
  enforced : runtime.trustEnforcement = true
  sideEffect : step.stepType.hasSideEffect = true
  derived : ∃ task approval, store.agentTasks.get? run.taskId = some task ∧
    store.approvalRequests.get? (run.approvalRequestId.getD "") = some approval ∧
      actions = derivedActions runtime run step task approval timeoutSeconds
  leased : ∃ lease, Text.present run.capabilityLeaseId = true ∧
    store.capabilityLeases.get? (run.capabilityLeaseId.getD "") = some lease ∧ lease.status = .active ∧
      runtime.clock store.ticks < lease.expiresAt ∧ leaseObjections store run lease = [] ∧ lease.Affords actions
  onRecord : ∀ action ∈ actions, (∃ stored, store.proposedActions.get? action.id = some stored) →
    store.Cleared action
  offRecord : ∀ action ∈ actions, store.proposedActions.get? action.id = none →
    ∃ other ∈ actions, other.id = action.id ∧ store.PolicyAllows runtime other

/-- What holds when an authorization has let a step through. -/
structure Authorized (runtime : Runtime) (start after : Store) (run : AgentRun) (step : AgentRunStep)
    (timeoutSeconds : Nat) (actions : List ProposedAction) : Prop
    extends Store.LetsThrough runtime start run step timeoutSeconds actions where
  cleared : StrictMono runtime.clock → start.Dated runtime → ∀ action ∈ actions, after.Cleared action
  kept : ∀ actionId stored, start.proposedActions.get? actionId = some stored →
    after.proposedActions.get? actionId = some stored
  authorizations : after.actionAuthorizations = start.actionAuthorizations

/-- The step in focus is under the control of a lease. -/
def Course.Governed (runtime : Runtime) (course : Course) : Prop :=
  runtime.trustEnforcement = true ∧ course.focus.stepType.hasSideEffect = true ∧
    Text.present course.binding.capabilityLeaseId = true

theorem clearNeedsHuman_ends (shows : mid.Shows runId course) :
    (onRun runId (atStep course.focus.id (clearNeedsHuman runtime))).Ends mid fun outcome after =>
      outcome = .ok () ∧ after.Shows runId (course.after Move.allow) ∧
        ∃ runs ticks, after = { mid with agentRuns := runs, ticks := ticks } := by
  have carries : (onRun runId (atStep course.focus.id (clearNeedsHuman runtime))).Ends mid fun outcome after =>
      after.Shows runId (course.after Move.allow) ∧ outcome.isOk = course.accepts Move.allow :=
    onFocus_carries shows allowDecided_onward Move.allow_local fun _ _ _ => allowDecided_projects
  refine (carries.and ((onRun_frame _).ends mid)).mono fun outcome after ends => ?_
  obtain ⟨⟨shown, accepted⟩, frame⟩ := ends
  rw [Course.accepts, Move.run_allow] at accepted
  cases outcome with
  | ok value => exact ⟨rfl, shown, frame⟩
  | error error => simp [Except.isOk, Except.toBool] at accepted

/-- How an authorization of the step in focus ends. -/
def Authorizing (runtime : Runtime) (start : Store) (runId : String) (course : Course) (timeoutSeconds : Nat)
    (outcome : Except Raised (List ProposedAction)) (after : Store) : Prop :=
  (∀ error, outcome = .error error →
      ∃ deeds, Refuses runId course error after deeds ∧ (deeds = [] ∨ course.Governed runtime)) ∧
    ∀ actions, outcome = .ok actions →
      (after = start ∧ actions = [] ∧
          (runtime.trustEnforcement = false ∨ course.focus.stepType.hasSideEffect = false)) ∨
        (after.Shows runId (course.after Move.allow) ∧ course.Governed runtime ∧ ∃ durable step,
          start.agentRuns.get? runId = some durable ∧ durable.currentStep = some step ∧
            Authorized runtime start after durable.run step timeoutSeconds actions)

theorem authorizing_failed {timeoutSeconds : Nat} {error : Raised} (governed : course.Governed runtime)
    (refuses : ∃ deeds, Refuses runId course error mid deeds) :
    Authorizing runtime start runId course timeoutSeconds (.error error) mid := by
  refine ⟨fun other same => ?_, by simp⟩
  obtain rfl : error = other := by simpa using same
  obtain ⟨deeds, refuses⟩ := refuses
  exact ⟨deeds, refuses, .inr governed⟩

theorem authorizing_refused {timeoutSeconds : Nat} (shows : mid.Shows runId course) (error : Raised) :
    Authorizing runtime start runId course timeoutSeconds (.error error) mid := by
  refine ⟨fun other same => ?_, by simp⟩
  exact ⟨[], .plainly other mid shows, .inl rfl⟩

/-- The loop over the derived actions, and the release of the step after it. -/
theorem authorizeActions_ends (loop : Loop runtime derived start mid runId course) (actor : String)
    {timeoutSeconds : Nat} {durable : DurableRun} {step : AgentRunStep} (governed : course.Governed runtime)
    (stored : start.agentRuns.get? runId = some durable) (current : durable.currentStep = some step)
    (sideEffect : step.stepType.hasSideEffect = true)
    (truth : ∃ task approval, start.agentTasks.get? durable.run.taskId = some task ∧
      start.approvalRequests.get? (durable.run.approvalRequestId.getD "") = some approval ∧
        derived = derivedActions runtime durable.run step task approval timeoutSeconds)
    (leased : ∃ lease, Text.present durable.run.capabilityLeaseId = true ∧
      start.capabilityLeases.get? (durable.run.capabilityLeaseId.getD "") = some lease ∧ lease.status = .active ∧
        runtime.clock start.ticks < lease.expiresAt ∧ leaseObjections start durable.run lease = [] ∧
        lease.Affords derived) :
    (do
      Procedure.each (authorizeAction runtime runId course.focus.id actor) derived
      onRun runId (atStep course.focus.id (clearNeedsHuman runtime))
      persist
      return derived).Ends mid (Authorizing runtime start runId course timeoutSeconds) := by
  rw [ends_bind]
  refine Ends.each (fun store => Loop runtime derived start store runId course)
    (fun action store => LetThrough runtime start store action) derived loop
    (fun action member store loop => authorizeAction_ends loop actor member |>.mono fun outcome after ends => ?_)
    fun last loop through _ => ?_
  · exact ⟨fun error failed => authorizing_failed governed (ends.1 error failed), ends.2⟩
  · rw [continue_ok, ends_bind]
    -- every action is let through; the human gate falls
    refine (clearNeedsHuman_ends loop.shows).mono fun outcome after ends => ?_
    obtain ⟨rfl, shown, runs, ticks, rfl⟩ := ends
    simp only [continue_ok, ends_bind, persist, ends_modify, ends_pure]
    refine ⟨by simp, fun actions same => .inr ⟨shown.of_runs rfl, governed, durable, step, stored, current, ?_⟩⟩
    obtain rfl : derived = actions := by simpa using same
    have judging := loop.judging
    exact
      { enforced := governed.1
        sideEffect := sideEffect
        derived := truth
        leased := leased
        onRecord := fun action member recorded => (through action member).onRecord recorded
        offRecord := by
          intro action member absent
          obtain ⟨stored, filed⟩ := (through action member).filed
          -- what the loop added to the record is a derived action
          exact judging.added action.id stored absent filed
        cleared := fun moves dated action member => (through action member).cleared moves dated
        kept := fun actionId known found => (judging.recorded actionId known found).1
        authorizations := judging.authorizations }

theorem authorizeRunStep_ends (shows : start.Shows runId course) (actor : String) (timeoutSeconds : Nat) :
    (authorizeRunStep runtime runId course.focus.id actor timeoutSeconds).Ends start
      (Authorizing runtime start runId course timeoutSeconds) := by
  obtain ⟨durable, stored, -, depicts⟩ := id shows
  obtain ⟨step, found, identity, -⟩ := depicts.finds
  have current : durable.currentStep = some step := by
    have pointed := depicts.reads.2.2.2.2.2
    simpa [DurableRun.currentStep, pointed] using found
  have stepType : step.stepType = course.focus.stepType := congrArg StepIdentity.stepType identity
  have leaseOf : durable.run.capabilityLeaseId = course.binding.capabilityLeaseId :=
    congrArg RunBinding.capabilityLeaseId depicts.reads.2.2.2.2.1
  simp only [authorizeRunStep, runOr404, ends_bind, ends_state, continue_ok, stored, ends_found_some, found, ends_ite,
    ends_pure, ends_demand, continue_error]
  refine ⟨fun exempt => ?_, fun enforced => ⟨fun present => ?_, fun _ => authorizing_refused shows _⟩⟩
  · -- a step without side effects is let through unasked
    exact ⟨by simp, fun actions same => .inl ⟨rfl, by simpa using same.symm, stepType ▸ exempt⟩⟩
  obtain ⟨enforced, sideEffect⟩ := not_or.mp enforced
  have governed : course.Governed runtime :=
    ⟨by simpa using enforced, stepType ▸ by simpa using sideEffect, leaseOf ▸ present⟩
  -- the checks of the source, in their order: the lease, the derived actions, the budget
  cases lease : start.capabilityLeases.get? (durable.run.capabilityLeaseId.getD "") with
  | none => exact authorizing_refused shows _
  | some held =>
    have checked : (blockOnConflict runtime runId course.focus.id
        (validateLeaseForRun runtime durable.run held)).Ends start fun outcome after =>
          (∀ error, outcome = .error error → ∃ deeds, Refuses runId course error after deeds) ∧
            ∀ value, outcome = .ok value → (start.Quietly after ∧ start.Fades after) ∧ value = held ∧
              held.status = .active ∧ runtime.clock start.ticks < held.expiresAt ∧
              leaseObjections start durable.run held = [] := by
      refine blockOnConflict_ends shows ((validateLeaseForRun_ends durable.run held).mono fun outcome after ends => ?_)
      exact ⟨ends.1.1.runs, fun value same => ⟨ends.1, ends.2 value same⟩⟩
    rw [ends_found_some, continue_ok, ends_bind]
    refine checked.mono fun outcome after ends => ?_
    cases outcome with
    | error error => exact authorizing_failed governed (ends.1 error rfl)
    | ok kept =>
      obtain ⟨⟨quiet, fades⟩, rfl, active, going, silent⟩ := ends.2 kept rfl
      have shown : after.Shows runId course := shows.of_runs quiet.runs
      rw [continue_ok, ends_bind]
      refine (stepActions_ends durable.run step timeoutSeconds).mono fun outcome later derives => ?_
      obtain ⟨rfl, derives⟩ := derives
      cases outcome with
      | error error => exact authorizing_refused shown error
      | ok actions =>
        -- the look at the lease changed neither tasks nor approvals
        obtain ⟨task, approval, known, sealed, truth⟩ := derives actions rfl
        rw [quiet.tasks] at known
        rw [quiet.approvals] at sealed
        have affordable : (blockOnConflict runtime runId course.focus.id
            (preflightAggregateBudget kept actions)).Ends later fun outcome last =>
              (∀ error, outcome = .error error → ∃ deeds, Refuses runId course error last deeds) ∧
                ∀ value, outcome = .ok value → last = later ∧ kept.Affords actions :=
          blockOnConflict_ends shown ((preflightAggregateBudget_ends kept actions).mono
            fun outcome last ends => ⟨by rw [ends.1], fun _ same => ⟨ends.1, ends.2 same⟩⟩)
        rw [continue_ok, ends_bind]
        refine affordable.mono fun outcome last ends => ?_
        cases outcome with
        | error error => exact authorizing_failed governed (ends.1 error rfl)
        | ok value =>
          obtain ⟨rfl, affords⟩ := ends.2 value rfl
          -- the loop starts in a store with the same records as at the request
          refine authorizeActions_ends ⟨Store.judging_quiet quiet fades, shown, fun dated => ?_⟩ actor governed stored
            current (by simpa using sideEffect) ⟨task, approval, known, sealed, truth⟩
            ⟨kept, present, lease, active, going, silent, affords⟩
          exact quiet.dates dated

end Authorize

end ControlTower
