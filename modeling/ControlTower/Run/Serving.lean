import ControlTower.Run.Creation
import ControlTower.Run.System

/-! What the procedures behind the requests do to one run: a list of deeds, for
the run a request is about, and nothing for the others. -/

set_option autoImplicit false

namespace ControlTower

open Foundation
open Foundation.Procedure

section Spared

variable {α : Type} {runtime : Runtime} {runId target : String}

theorem evaluateGatewayAction_spares (action : ProposedAction) (actor : String) :
    Sparing runId (evaluateGatewayAction runtime action actor) := by
  refine sparing_runs fun store => ?_
  obtain ⟨decision, -, evaluates⟩ : (evaluateGatewayAction runtime action actor).Ends store fun outcome after =>
    ∃ decision, outcome = .ok decision ∧ store.Evaluates runtime after action decision :=
      evaluateGatewayAction_evaluates action actor
  exact evaluates.runs

theorem refuseStep_spares (other : runId ≠ target) (stepId : String) (mark : StepProcedure Unit) (reason : String) :
    Sparing runId (refuseStep target stepId mark reason : StoreProcedure α) :=
  sparing_bind (onRun_spares _ other) fun _ => sparing_bind persist_quiet.sparing fun _ => sparing_raise _

theorem blockOnConflict_spares (other : runId ≠ target) (stepId : String) {check : StoreProcedure α}
    (spares : Sparing runId check) : Sparing runId (blockOnConflict runtime target stepId check) := by
  refine guarantees_rescue (Store.spares_trans runId) spares fun error => ?_
  split
  · exact refuseStep_spares other _ _ _
  · exact sparing_raise _

theorem validateLeaseForRun_spares (run : AgentRun) (lease : CapabilityLease) :
    Sparing runId (validateLeaseForRun runtime run lease) :=
  sparing_bind (refreshLeaseStatus_quiet _).sparing fun _ => sparing_read fun _ =>
    sparing_bind (sparing_demand _) fun _ => sparing_pure _

theorem authorizeAction_spares (other : runId ≠ target) (stepId actor : String) (action : ProposedAction) :
    Sparing runId (authorizeAction runtime target stepId actor action) := by
  refine sparing_bind (sparing_read fun store => ?_) fun decision => ?_
  · split
    · exact evaluateGatewayAction_spares _ _
    · refine guarantees_ite (refuseStep_spares other _ _ _) ?_
      split
      · exact refuseStep_spares other _ _ _
      · exact sparing_pure _
  · split
    · exact sparing_pure _
    · exact refuseStep_spares other _ _ _
    · exact refuseStep_spares other _ _ _

/-- An authorization concerns its own run only. -/
theorem authorizeRunStep_spares (other : runId ≠ target) (stepId actor : String) (timeoutSeconds : Nat) :
    Sparing runId (authorizeRunStep runtime target stepId actor timeoutSeconds) := by
  refine sparing_bind (sparing_runOr404 target) fun durable => sparing_bind (sparing_found _ _) fun step => ?_
  refine guarantees_ite (sparing_pure _) (sparing_bind (sparing_demand _) fun _ => sparing_read fun _ => ?_)
  refine sparing_bind (sparing_found _ _) fun held => ?_
  refine sparing_bind (blockOnConflict_spares other _ (validateLeaseForRun_spares _ _)) fun lease => ?_
  refine sparing_bind (sparing_read fun _ => ?_) fun actions => ?_
  · refine sparing_bind (sparing_found _ _) fun _ => sparing_bind (sparing_found _ _) fun _ => ?_
    exact sparing_bind (sparing_demand _) fun _ => sparing_pure _
  refine sparing_bind (blockOnConflict_spares other _ ?_) fun _ => ?_
  · exact sparing_bind (sparing_demand _) fun _ => sparing_bind (sparing_demand _) fun _ => sparing_demand _
  refine sparing_bind (guarantees_each (Store.spares_self runId) (Store.spares_trans runId) _
    fun action _ => authorizeAction_spares other _ _ action) fun _ => ?_
  exact sparing_bind (onRun_spares _ other) fun _ => sparing_bind persist_quiet.sparing fun _ => sparing_pure _

end Spared

/-- A run that has no lease yet may take one. -/
inductive Bound (course : Course) : List Deed → Prop where
  | unchanged : Bound course []
  | leased (leaseId : String) (absent : Text.present course.binding.capabilityLeaseId = false) :
      Bound course [.bind leaseId]

section Attach

variable {runtime : Runtime} {store : Store} {runId : String} {course : Course}

theorem bind_carries {scope : RunScope} (leaseId : String) (now : Instant)
    (depicts : Depicts scope.run scope.steps course) :
    (RunScope.modifyRun fun run => { run with capabilityLeaseId := some leaseId, updatedAt := now }).Ends scope
      (Carries course (Move.bind leaseId)) := by
  refine carries_modifyRun depicts rfl rfl rfl fun passed focus ahead same => ?_
  rw [← same]
  rfl

theorem attachCapabilityLease_spares {target : String} (other : runId ≠ target) (leaseId : String) :
    Sparing runId (attachCapabilityLease runtime target leaseId) := by
  refine sparing_bind (sparing_runOr404 target) fun durable => guarantees_ite (sparing_demand _) ?_
  iterate 4 refine sparing_bind (sparing_demand _) fun _ => ?_
  refine sparing_read fun _ => sparing_bind (sparing_found _ _) fun lease => ?_
  refine sparing_bind ?_ fun lease => sparing_bind quiet_readClock.sparing fun _ => ?_
  · exact validateLeaseForRun_spares _ _
  · exact sparing_bind (onRun_spares _ other) fun _ => persist_quiet.sparing

theorem attachCapabilityLease_ends (shows : store.Shows runId course) (leaseId : String) :
    (attachCapabilityLease runtime runId leaseId).Ends store fun outcome after =>
      ∃ deeds last, Bound course deeds ∧ Performs course deeds last ∧ after.Shows runId last ∧
        (outcome = .ok () → deeds = [] → Text.present course.binding.capabilityLeaseId = true) := by
  obtain ⟨durable, stored, -, depicts⟩ := id shows
  have leaseOf : durable.run.capabilityLeaseId = course.binding.capabilityLeaseId :=
    congrArg RunBinding.capabilityLeaseId depicts.reads.2.2.2.2.1
  -- until the lease is attached a refusal leaves the course as it is
  have unbound : ∀ (error : Raised) (after : Store), after.agentRuns = store.agentRuns →
      ∃ deeds last, Bound course deeds ∧ Performs course deeds last ∧ after.Shows runId last ∧
        ((Except.error error : Except Raised Unit) = .ok () → deeds = [] →
          Text.present course.binding.capabilityLeaseId = true) :=
    fun error after same => ⟨[], course, .unchanged, .done course, shows.of_runs same, by simp⟩
  refine ends_runOr404 stored ?_
  simp only [ends_ite]
  refine ⟨fun present => ?_, fun absent => ?_⟩
  · rw [ends_demand]
    exact ⟨fun _ => ⟨[], course, .unchanged, .done course, shows, fun _ _ => leaseOf ▸ present⟩, fun _ => unbound _ _ rfl⟩
  -- the four checks of the source: the status of the run, its worker, its step, and the attempts so far
  iterate 4 refine ends_guard (unbound _ _ rfl) fun _ => ?_
  refine ends_read (ends_lookup (unbound _ _ rfl) fun lease _ => ?_)
  refine Ends.bind (validateLeaseForRun_ends durable.run lease) (fun lease after checked => ?_)
    fun error after checked => unbound error after checked.1.1.runs
  have shown : after.Shows runId course := shows.of_runs checked.1.1.runs
  -- the run is bound once the lease is written, whatever the events after it do
  have bound : ∀ (outcome : Except Raised Unit) (last : Store), last.Shows runId (course.after (Move.bind lease.id)) →
      ∃ deeds reached, Bound course deeds ∧ Performs course deeds reached ∧ last.Shows runId reached ∧
        (outcome = .ok () → deeds = [] → Text.present course.binding.capabilityLeaseId = true) :=
    fun outcome last shown => ⟨_, _, .leased lease.id (by simpa [leaseOf] using absent),
      .single (.bind lease.id) trivial, shown, by simp⟩
  rw [ends_bind, ends_readClock, continue_ok]
  refine Ends.bind (onRun_carries (shown.of_runs rfl) (runOnward_modifyRun fun _ => rfl)
    fun scope depicts => bind_carries lease.id _ depicts) (fun _ last ends => ?_) fun error last ends => bound _ last ends.1
  exact bound _ _ (ends.1.of_runs rfl)

theorem ensureRunCapability_spares {target : String} (other : runId ≠ target) (user : AuthUser) :
    Sparing runId (ensureRunCapability runtime target user) := by
  refine guarantees_ite (sparing_pure _) (sparing_bind (sparing_runOr404 target) fun durable => ?_)
  refine sparing_read fun _ => guarantees_ite (sparing_demand _) ?_
  refine sparing_bind (sparing_found _ _) fun task => sparing_bind (sparing_found _ _) fun approval => ?_
  refine sparing_bind (sparing_demand _) fun _ => sparing_bind (sparing_demand _) fun _ => ?_
  split
  · exact sparing_raise _
  · refine guarantees_rescue (Store.spares_trans runId) ?_ fun error => ?_
    · exact sparing_bind (issueCapabilityLease_quiet _ _).sparing fun _ => attachCapabilityLease_spares other _
    · split
      · exact sparing_raise _
      · exact guarantees_ite (sparing_raise _) (sparing_raise _)

/-- A run that needs a lease gets one here; without an error the store is as it
was, or the run has taken the lease. -/
theorem ensureRunCapability_ends (shows : store.Shows runId course) (user : AuthUser) :
    (ensureRunCapability runtime runId user).Ends store fun outcome after =>
      ∃ deeds last, Bound course deeds ∧ Performs course deeds last ∧ after.Shows runId last ∧
        (outcome = .ok () → deeds = [] → after = store) := by
  obtain ⟨durable, stored, -, depicts⟩ := id shows
  have leaseOf : durable.run.capabilityLeaseId = course.binding.capabilityLeaseId :=
    congrArg RunBinding.capabilityLeaseId depicts.reads.2.2.2.2.1
  -- nothing is done before the lease is derived
  have same : ∀ outcome : Except Raised Unit,
      ∃ deeds last, Bound course deeds ∧ Performs course deeds last ∧ store.Shows runId last ∧
        (outcome = .ok () → deeds = [] → store = store) :=
    fun _ => ⟨[], course, .unchanged, .done course, shows, fun _ _ => rfl⟩
  simp only [ensureRunCapability, ends_ite]
  refine ⟨fun _ => same _, fun _ => ends_runOr404 stored (ends_read ?_)⟩
  simp only [ends_ite]
  refine ⟨fun _ => ?_, fun absent => ?_⟩
  · rw [ends_demand]
    exact ⟨fun _ => same _, fun _ => same _⟩
  refine ends_lookup (same _) fun task _ => ends_lookup (same _) fun approval _ => ?_
  refine ends_guard (same _) fun _ => ends_guard (same _) fun _ => ?_
  split
  · exact same _
  · rename_i scope _
    -- the derived lease is issued and attached, or the course is as before
    have granting : (issueCapabilityLease runtime (derivedLeaseRequest task approval scope) user >>= fun lease =>
        attachCapabilityLease runtime runId lease.id).Ends store fun outcome after =>
          ∃ deeds last, Bound course deeds ∧ Performs course deeds last ∧ after.Shows runId last ∧
            (outcome = .ok () → deeds ≠ []) := by
      refine Ends.bind ((issueCapabilityLease_quiet _ _).ends store) (fun lease after quiet => ?_)
        fun error after quiet => ⟨[], course, .unchanged, .done course, shows.of_runs quiet.runs, by simp⟩
      refine (attachCapabilityLease_ends (shows.of_runs quiet.runs) lease.id).mono fun outcome last ends => ?_
      obtain ⟨deeds, reached, bound, performs, shown, attached⟩ := ends
      refine ⟨deeds, reached, bound, performs, shown, fun ok none => ?_⟩
      rw [leaseOf] at absent
      exact absent (attached ok none)
    rw [ends_rescue]
    refine granting.mono fun outcome after ends => ?_
    obtain ⟨deeds, last, bound, performs, shown, granted⟩ := ends
    have failed : ∀ error : Raised, ∃ deeds last, Bound course deeds ∧ Performs course deeds last ∧
        after.Shows runId last ∧ ((Except.error error : Except Raised Unit) = .ok () → deeds = [] → after = store) :=
      fun error => ⟨deeds, last, bound, performs, shown, by simp⟩
    cases outcome with
    | ok value => exact ⟨deeds, last, bound, performs, shown, fun ok none => absurd none (granted ok)⟩
    -- a conflict of the trust service is raised anew; other errors pass
    | error error =>
      cases error with
      | trustControlConflict message => exact failed _
      | _ => simp only [ends_ite, ends_raise, failed, implies_true, and_self]

end Attach

/-- The verdict that a human decision on an action puts into effect: the one on
record, if there is one. -/
def Store.verdictOn (store : Store) (actionId : String) (decision : ActionAuthorizationDecision) :
    ActionAuthorizationDecision :=
  match store.authorizationOf actionId with
  | some existing => existing.decision
  | none => decision

/-- What a verdict on an action does to a run. -/
inductive Decided (runtime : Runtime) (store : Store) (runId : String) (course : Course) (actionId : String)
    (verdict : ActionAuthorizationDecision) : List Deed → Prop where
  | apart : Decided runtime store runId course actionId verdict []
  | focus (named : store.namedByAction runtime actionId = some (runId, course.focus.id)) :
      Decided runtime store runId course actionId verdict [.decided verdict]
  | beside (stepId : String) (named : store.namedByAction runtime actionId = some (runId, stepId))
      (other : stepId ≠ course.focus.id) :
      Decided runtime store runId course actionId verdict [.decidedElsewhere verdict]

section Decide

variable {runtime : Runtime} {store : Store} {runId : String} {course : Course}

theorem putStep_same {steps : List AgentRunStep} {step : AgentRunStep} (distinct : (steps.map (·.id)).Nodup)
    (here : step ∈ steps) : putStep steps step = steps := by
  have fixed : ∀ other ∈ steps, (if other.id = step.id then step else other) = id other := by
    intro other member
    by_cases same : other.id = step.id
    · simp [List.inj_on_of_nodup_map distinct member here same]
    · simp [same]
  rw [putStep, List.map_congr_left fixed, List.map_id]

/-- A procedure on a step out of focus that leaves the step alone. -/
theorem Picture.atBeside {scope : RunScope} {passed ahead : List AgentRunStep} {focus step : AgentRunStep}
    {body : StepProcedure Unit} {move : Move} {stepId : String}
    (picture : Picture scope.run scope.steps passed focus ahead) (found : findStep scope.steps stepId = some step)
    (projects : ProjectsAt (seenBeside passed focus ahead) body move ⟨scope.run, step, scope.ticks⟩)
    (stays : move.Local) (untouched : (body.run ⟨scope.run, step, scope.ticks⟩).2.step = step) :
    (atStep stepId body).Ends scope (Carries (courseOf scope.run passed focus ahead) move) := by
  have shown := projects.ends
  have keeps := stays (courseOf scope.run passed focus ahead)
  simp only [Ends, seenBeside, atStep, found] at shown ⊢
  rw [untouched, putStep_same picture.lineup.distinct_ids (findStep_some found).1]
  rw [← shown.1] at keeps
  obtain ⟨binding, cancelled, -, -, -, pointer⟩ := keeps
  refine ⟨⟨passed, focus, ahead, ?_, shown.1⟩, shown.2⟩
  exact picture.changeRun (fun _ => (body.run ⟨scope.run, step, scope.ticks⟩).2.run)
    (congrArg RunBinding.id binding) cancelled ((pointer picture.pointed).trans picture.pointed.symm)

def RunAtStep.SameStep (before after : RunAtStep) : Prop := after.step = before.step

theorem RunAtStep.sameStep_self (state : RunAtStep) : state.SameStep state := rfl

theorem transitionRun_untouched (target : AgentRunStatus) (reason : String) :
    Guarantees RunAtStep.SameStep (transitionRun runtime target reason) := by
  have joins : ∀ a b c : RunAtStep, a.SameStep b → b.SameStep c → a.SameStep c := fun _ _ _ first rest => rest.trans first
  refine guarantees_bind joins (guarantees_state RunAtStep.sameStep_self) fun _ =>
    guarantees_ite (guarantees_pure RunAtStep.sameStep_self _) ?_
  refine guarantees_bind joins (guarantees_demand RunAtStep.sameStep_self _) fun _ =>
    guarantees_bind joins (fun _ => rfl) fun _ => ?_
  exact guarantees_modify fun _ => rfl

theorem onlyIf_untouched {condition : Prop} [Decidable condition] (target : AgentRunStatus) (reason : String) :
    Guarantees RunAtStep.SameStep (onlyIf condition (transitionRun runtime target reason)) :=
  guarantees_onlyIf RunAtStep.sameStep_self (transitionRun_untouched target reason)

/-- The verdict of a human on a step out of focus. -/
theorem decidedBeside_carries {scope : RunScope} {stepId : String} {step : AgentRunStep}
    (verdict : ActionAuthorizationDecision) (reason : String) (depicts : Depicts scope.run scope.steps course)
    (found : findStep scope.steps stepId = some step) (other : stepId ≠ course.focus.id) :
    (atStep stepId (match verdict with
      | .allow => allowDecided runtime
      | .block => denyDecided runtime reason)).Ends scope
        (Carries course (Deed.decidedElsewhere verdict).move) := by
  obtain ⟨here, named⟩ := findStep_some found
  have settled : step.status ≠ .needsHuman := by
    rcases depicts.elsewhere here (by rw [named]; exact other) with passed | ⟨waits, -⟩
    · simp [passed]
    · rw [waits]
      cases course.cancelRequested <;> simp [waitingStatus]
  obtain ⟨passed, focus, ahead, picture, rfl⟩ := depicts
  cases verdict with
  | allow =>
    refine picture.atBeside found (allowDecided_projectsBeside settled) Move.allowElsewhere_local ?_
    simp only [allowDecided, run_bind, run_state, onlyIf_false settled, run_pure]
    exact onlyIf_untouched .scheduled exactApprovalRecorded ⟨scope.run, step, scope.ticks⟩
  | block =>
    refine picture.atBeside found (denyDecided_projectsBeside settled) Move.denyElsewhere_local ?_
    simp only [denyDecided, run_bind, run_state, onlyIf_false settled, run_pure]
    exact onlyIf_untouched .blocked reason ⟨scope.run, step, scope.ticks⟩

/-- The verdict of a human on the step in focus. -/
theorem decided_carries (verdict : ActionAuthorizationDecision) (reason : String) (shows : store.Shows runId course) :
    (onRun runId (atStep course.focus.id (match verdict with
      | .allow => allowDecided runtime
      | .block => denyDecided runtime reason))).Ends store fun outcome after =>
        after.Shows runId (course.after (Deed.decided verdict).move) ∧
          outcome.isOk = course.accepts (Deed.decided verdict).move := by
  cases verdict with
  | allow => exact onFocus_carries shows allowDecided_onward Move.allow_local fun _ _ _ => allowDecided_projects
  | block => exact onFocus_carries shows (denyDecided_onward _) Move.deny_local fun _ _ _ => denyDecided_projects

end Decide

end ControlTower
