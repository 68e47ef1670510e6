import ControlTower.Run.Execution
import ControlTower.Run.Requests
import ControlTower.Trust.Effects

/-! Every request to the service is a chain of trust effects, and so every
reachable store keeps what the effects keep. -/

set_option autoImplicit false

namespace ControlTower

open Foundation
open Foundation.Procedure
open Relation (ReflTransGen)

section Parts

variable {α : Type} {runtime : Runtime} {permission : Permission} {store : Store}

theorem onRun_same {body : RunProcedure α} (runId : String) (onward : RunOnward body) :
    Guarantees Store.SameTrust (onRun runId body) := by
  intro store
  have time : store.ticks ≤ ((onRun runId body).run store).2.ticks := onRun_time onward store
  obtain ⟨runs, ticks, frame⟩ : ∃ runs ticks,
    ((onRun runId body).run store).2 = { store with agentRuns := runs, ticks := ticks } := onRun_frame body store
  rw [frame] at time ⊢
  exact ⟨rfl, rfl, rfl, rfl, rfl, rfl, rfl, rfl, rfl, time⟩

theorem onRun_effecting {body : RunProcedure α} (runId : String) (onward : RunOnward body) :
    Effecting runtime permission (onRun runId body) := effecting_same (onRun_same runId onward)

theorem persist_effecting : Effecting runtime permission persist := effecting_same persist_same

theorem runOr404_effecting (runId : String) : Effecting runtime permission (runOr404 runId) :=
  effecting_read fun _ => effecting_found _ _

theorem conflictResponse_effecting {body : StoreProcedure α} (effecting : Effecting runtime permission body) :
    Effecting runtime permission (conflictResponse body) := effecting_relabel effecting

/-- A rest that has its effects in every store, after one that was read. -/
theorem effects_rest {first : StoreProcedure α} {β : Type} {next : α → StoreProcedure β}
    (start : first.Ends store fun _ after => store.Effects runtime permission after)
    (rest : ∀ value, Effecting runtime permission (next value)) :
    (first >>= next).Ends store fun _ last => store.Effects runtime permission last :=
  Ends.bind start (fun value after effects => Store.effects_trans _ _ _ _ effects (rest value after))
    fun _ _ effects => effects

theorem refuseStep_effecting (runId stepId : String) {mark : StepProcedure Unit} (reason : String)
    (onward : StepOnward mark) : Effecting runtime permission (refuseStep runId stepId mark reason : StoreProcedure α) :=
  effecting_bind (onRun_effecting runId (atStep_onward _ onward)) fun _ =>
    effecting_bind persist_effecting fun _ => effecting_raise _

theorem blockOnConflict_effects (runId stepId : String) {check : StoreProcedure α}
    (effects : check.Ends store fun _ after => store.Effects runtime permission after) :
    (blockOnConflict runtime runId stepId check).Ends store fun _ after => store.Effects runtime permission after := by
  refine ends_rescue.mpr (effects.mono fun outcome after effects => ?_)
  cases outcome with
  | ok value => exact effects
  | error error =>
    dsimp only
    split
    · exact Store.effects_trans _ _ _ _ effects (refuseStep_effecting _ _ _ (transitionBoth_onward _ _ _ _) after)
    · exact effects

end Parts

section Leases

variable {runtime : Runtime} {permission : Permission} {store : Store}

theorem validateLeaseForRun_effects {leaseId : String} {lease : CapabilityLease} (filed : store.Filed)
    (stored : store.capabilityLeases.get? leaseId = some lease) (run : AgentRun) :
    (validateLeaseForRun runtime run lease).Ends store fun _ after => store.Effects runtime permission after := by
  refine effects_rest ((refreshLeaseStatus_effects permission filed stored).mono fun _ _ ends => ends.1) fun refreshed => ?_
  exact effecting_read fun _ => effecting_bind (effecting_demand _) fun _ => effecting_pure _

theorem attachCapabilityLease_effecting (runId leaseId : String) :
    Effecting runtime permission (attachCapabilityLease runtime runId leaseId) := by
  refine effecting_bind (runOr404_effecting runId) fun durable => guarantees_ite (effecting_demand _) ?_
  iterate 4 refine effecting_bind (effecting_demand _) fun _ => ?_
  refine effecting_of fun store filed => ends_read (ends_lookup (Store.effects_self _ _) fun lease stored => ?_)
  refine effects_rest (validateLeaseForRun_effects filed stored durable.run) fun lease => ?_
  refine effecting_bind (effecting_same (readClock_same runtime)) fun _ => ?_
  exact effecting_bind (onRun_effecting runId (runOnward_modifyRun fun _ => rfl)) fun _ => persist_effecting

theorem issueCapabilityLease_effecting {payload : CapabilityLeaseCreate} (valid : payload.scope.Valid)
    (user : AuthUser) : Effecting runtime permission (issueCapabilityLease runtime payload user) :=
  effecting_of fun _ _ => (issueCapabilityLease_ends payload user).mono fun _ _ issues => issues.effects valid

theorem ensureRunCapability_effecting (runId : String) (user : AuthUser) :
    Effecting runtime permission (ensureRunCapability runtime runId user) := by
  refine guarantees_ite (effecting_pure _) (effecting_bind (runOr404_effecting runId) fun durable => ?_)
  refine effecting_read fun _ => guarantees_ite (effecting_demand _) ?_
  refine effecting_bind (effecting_found _ _) fun task => effecting_bind (effecting_found _ _) fun approval => ?_
  iterate 2 refine effecting_bind (effecting_demand _) fun _ => ?_
  split
  · exact effecting_raise _
  · rename_i validated
    refine guarantees_rescue (Store.effects_trans runtime) ?_ fun error => ?_
    · have valid := CapabilityScope.valid_of_validate validated
      exact effecting_bind (issueCapabilityLease_effecting valid _) fun _ => attachCapabilityLease_effecting _ _
    · split
      · exact effecting_raise _
      · exact guarantees_ite (effecting_raise _) (effecting_raise _)

end Leases

section Authorize

variable {runtime : Runtime} {permission : Permission} {store : Store}

theorem authorizeAction_effecting (runId stepId actor : String) (action : ProposedAction) :
    Effecting runtime permission (authorizeAction runtime runId stepId actor action) := by
  have held : ∀ reason, StepOnward (markNeedsHuman runtime reason) := fun _ => transitionBoth_onward _ _ _ _
  have blocked : ∀ reason, StepOnward (markBlocked runtime reason) := fun _ => transitionBoth_onward _ _ _ _
  refine effecting_bind (effecting_of fun store filed => ends_read ?_) fun decision => ?_
  · split
    · rename_i new
      exact evaluateGatewayAction_effects filed (permission.new store action (Table.get?_eq_none.mp new)) _
    · refine guarantees_ite (refuseStep_effecting _ _ _ (blocked _)) ?_ store
      split
      · exact refuseStep_effecting _ _ _ (blocked _)
      · exact effecting_pure _
  · split
    · exact effecting_pure _
    · exact refuseStep_effecting _ _ _ (blocked _)
    · exact refuseStep_effecting _ _ _ (held _)

theorem stepActions_effecting (run : AgentRun) (step : AgentRunStep) (timeoutSeconds : Nat) :
    Effecting runtime permission (stepActions runtime run step timeoutSeconds) := by
  refine effecting_read fun _ => effecting_bind (effecting_found _ _) fun _ => ?_
  refine effecting_bind (effecting_found _ _) fun _ => ?_
  exact effecting_bind (effecting_demand _) fun _ => effecting_pure _

theorem preflightAggregateBudget_effecting (lease : CapabilityLease) (actions : List ProposedAction) :
    Effecting runtime permission (preflightAggregateBudget lease actions) :=
  effecting_bind (effecting_demand _) fun _ => effecting_bind (effecting_demand _) fun _ => effecting_demand _

theorem authorizeRunStep_effecting (runId stepId actor : String) (timeoutSeconds : Nat) :
    Effecting runtime permission (authorizeRunStep runtime runId stepId actor timeoutSeconds) := by
  refine effecting_bind (runOr404_effecting runId) fun durable => effecting_bind (effecting_found _ _) fun step => ?_
  refine guarantees_ite (effecting_pure _) (effecting_bind (effecting_demand _) fun _ => ?_)
  refine effecting_of fun store filed => ends_read (ends_lookup (Store.effects_self _ _) fun lease stored => ?_)
  refine effects_rest (blockOnConflict_effects runId stepId (validateLeaseForRun_effects filed stored _))
    fun lease => ?_
  refine effecting_bind (stepActions_effecting _ _ _) fun actions => effecting_bind ?_ fun _ => ?_
  · exact effecting_of fun _ _ => blockOnConflict_effects runId stepId
      (preflightAggregateBudget_effecting lease actions _)
  refine effecting_bind (guarantees_each (Store.effects_self runtime) (Store.effects_trans runtime) _
    fun action _ => authorizeAction_effecting runId stepId actor action) fun _ => ?_
  refine effecting_bind (onRun_effecting runId (atStep_onward _ allowDecided_onward)) fun _ => ?_
  exact effecting_bind persist_effecting fun _ => effecting_pure _

theorem consumeRunStepActions_effecting (runId stepId actor : String) (actions : List ProposedAction) :
    Effecting runtime permission (consumeRunStepActions runtime runId stepId actor actions) := by
  refine effecting_bind (runOr404_effecting runId) fun durable => effecting_bind (effecting_found _ _) fun step => ?_
  refine guarantees_ite (effecting_pure _) ?_
  refine guarantees_each (Store.effects_self runtime) (Store.effects_trans runtime) _ fun indexed _ => ?_
  exact effecting_bind (effecting_demand _) fun _ => consumeEffectiveAction_effects _ _ _

theorem applyDurableRunDecision_effecting (actionId : String) (verdict : ActionAuthorizationDecision)
    (reason : String) : Effecting runtime permission (applyDurableRunDecision runtime actionId verdict reason) := by
  refine effecting_read fun _ => ?_
  split
  · exact effecting_pure _
  · refine onRun_effecting _ (atStep_onward _ ?_)
    cases verdict with
    | allow => exact allowDecided_onward
    | block => exact denyDecided_onward reason

theorem repeatAuthorization_effecting (actionId : String) (action : ProposedAction) (existing : ActionAuthorization) :
    Effecting runtime permission (repeatAuthorization runtime actionId action existing) :=
  effecting_bind (effecting_demand _) fun _ =>
    effecting_bind (applyDurableRunDecision_effecting _ _ _) fun _ => persist_effecting

theorem recordActionAuthorization_effecting (actionId : String) (verdict : ActionAuthorizationDecision)
    (reason : String) (user : AuthUser) :
    Effecting runtime permission (recordActionAuthorization runtime actionId verdict reason user) := by
  refine effecting_bind (effecting_demand _) fun _ => effecting_of fun store filed => ends_read ?_
  refine ends_lookup (Store.effects_self _ _) fun action stored => ?_
  obtain rfl := filed.actions actionId action stored
  refine ends_lookup (Store.effects_self _ _) fun current latest => ?_
  refine ends_guard (Store.effects_self _ _) fun unblocked => ?_
  split
  · have repeated : ∀ existing, Effecting runtime permission (repeatAuthorization runtime action.id action existing) :=
      repeatAuthorization_effecting action.id action
    exact guarantees_ite (repeated _) (effecting_bind (effecting_demand _) fun _ => repeated _) store
  · rename_i first
    refine ends_guard (Store.effects_self _ _) fun unsettled => ?_
    have undecided : current.decision = .requireApproval := by
      cases verdict : current.decision with
      | allow => exact absurd verdict unsettled
      | block => exact absurd verdict unblocked
      | requireApproval => rfl
    refine effects_rest (storeAuthorization_effects stored latest undecided first verdict reason user) fun _ => ?_
    exact effecting_bind (applyDurableRunDecision_effecting _ _ _) fun _ => persist_effecting

end Authorize

section Requests

variable {runtime : Runtime} {permission : Permission}

theorem createAgentRun_effecting (payload : AgentRunCreate) : Effecting runtime permission (createAgentRun runtime payload) := by
  refine effecting_read fun store => effecting_bind (effecting_found _ _) fun task => ?_
  refine effecting_bind (effecting_demand _) fun _ => effecting_bind (effecting_found _ _) fun approval => ?_
  refine effecting_bind (effecting_demand _) fun _ => ?_
  split
  · exact effecting_pure _
  · exact effecting_same fun _ => ⟨rfl, rfl, rfl, rfl, rfl, rfl, rfl, rfl, rfl, Nat.le_add_right _ 2⟩

theorem createRun_effecting (payload : AgentRunCreate) : Effecting runtime permission (createRun runtime payload) := by
  refine effecting_relabel (effecting_relabel (effecting_bind (createAgentRun_effecting payload) fun runId => ?_))
  exact guarantees_ite (attachCapabilityLease_effecting _ _) (effecting_pure _)

theorem runExecutor_effecting (runId : String) (outcome : ExecutorOutcome) (begun : Begun) :
    Effecting runtime permission (runExecutor runtime runId outcome begun) := by
  cases begun with
  | answered step => exact effecting_pure _
  | invoking step leaseToken =>
    refine effecting_bind (onRun_effecting runId (sealFinalEvidence_onward outcome)) fun _ => ?_
    split
    · exact effecting_raise _
    · exact onRun_effecting runId (finishExecution_onward _ _)

theorem safeLeaseSeconds_effecting (payload : AgentRunExecuteRequest) :
    Effecting runtime permission (safeLeaseSeconds payload) :=
  effecting_bind (effecting_demand _) fun _ => effecting_pure _

theorem executeRunNextStep_effecting (runId : String) (payload : AgentRunExecuteRequest) (outcome : ExecutorOutcome)
    (user : AuthUser) : Effecting runtime permission (executeRunNextStep runtime runId payload outcome user) := by
  refine effecting_bind (effecting_bind (runOr404_effecting runId) fun durable => ?_) fun admitted => ?_
  · refine effecting_bind (effecting_demand _) fun _ => effecting_bind (safeLeaseSeconds_effecting payload) fun _ => ?_
    exact effecting_bind (effecting_found _ _) fun _ => effecting_pure _
  · refine conflictResponse_effecting (effecting_bind (effecting_bind ?_ fun actions => ?_) fun actions => ?_)
    · exact effecting_bind (ensureRunCapability_effecting runId user) fun _ => authorizeRunStep_effecting _ _ _ _
    · refine effecting_bind (onRun_effecting runId (beginExecution_onward _ _)) fun begun => ?_
      exact effecting_bind (runExecutor_effecting runId outcome begun) fun _ => effecting_pure _
    · exact consumeRunStepActions_effecting _ _ _ _

/-- An operator request on a run. -/
theorem control_effecting (runId : String) {body : RunProcedure Unit} (onward : RunOnward body) :
    Effecting runtime permission (conflictResponse (onRun runId body) >>= fun _ => persist) :=
  effecting_bind (conflictResponse_effecting (onRun_effecting runId onward)) fun _ => persist_effecting

theorem requireStepBoundary_effecting (durable : DurableRun) (action : String) :
    Effecting runtime permission (requireStepBoundary durable action) := effecting_demand _

theorem retryRun_effecting (runId : String) (stepId : Option String) (reason : String) :
    Effecting runtime permission (retryRun runtime runId stepId reason) := by
  refine effecting_bind (runOr404_effecting runId) fun durable => effecting_bind (effecting_demand _) fun _ => ?_
  refine effecting_bind (guarantees_ite ?_ ?_) fun target => effecting_bind (effecting_demand _) fun _ => ?_
  · exact effecting_read fun _ => effecting_bind (effecting_found _ _) fun _ => effecting_pure _
  · exact effecting_bind (effecting_found _ _) fun _ => effecting_pure _
  · refine effecting_bind (conflictResponse_effecting (effecting_bind (effecting_demand _) fun _ => ?_)) fun _ => ?_
    · exact onRun_effecting runId (atStep_onward _ (retryAgentRunStep_onward reason))
    · exact persist_effecting

theorem recoverStaleLeases_effecting : Effecting runtime permission (recoverStaleLeases runtime) := by
  refine effecting_bind (effecting_same (readClock_same runtime)) fun now => effecting_read fun store => ?_
  refine effecting_bind ?_ fun _ => persist_effecting
  refine guarantees_each (Store.effects_self runtime) (Store.effects_trans runtime) _ fun runId _ => ?_
  exact effecting_bind (onRun_effecting runId (recoverStaleLease_onward now)) fun _ => effecting_pure _

theorem assertAgentCan_effecting (agent : ExternalAgent) (action : AgentAction) (projectId repository : Option String) :
    Effecting runtime permission (assertAgentCan agent action projectId repository : StoreProcedure Unit) :=
  effecting_bind (effecting_demand _) fun _ => effecting_bind (effecting_demand _) fun _ => effecting_demand _

theorem leaseOr404_effects {store : Store} (filed : store.Filed) (leaseId : String) :
    (leaseOr404 runtime leaseId).Ends store fun outcome after => store.Effects runtime permission after ∧
      ∀ lease, outcome = .ok lease → after.capabilityLeases.get? leaseId = some lease := by
  refine ends_read (ends_lookup ⟨Store.effects_self _ _, by simp⟩ fun lease stored => ?_)
  refine (refreshLeaseStatus_effects permission filed stored).mono fun outcome after ends => ?_
  obtain ⟨effects, refreshed, rfl, found, -⟩ := ends
  refine ⟨effects, fun lease same => ?_⟩
  obtain rfl : refreshed = lease := by simpa using same
  exact found

theorem createLease_effecting (payload : CapabilityLeaseCreate) (user : AuthUser) :
    Effecting runtime permission (createLease runtime payload user) := by
  unfold createLease
  split
  · exact effecting_raise _
  · rename_i validated
    refine effecting_bind (effecting_demand _) fun _ => ?_
    have valid := CapabilityScope.valid_of_validate validated
    exact effecting_bind (effecting_relabel (issueCapabilityLease_effecting valid _)) fun _ => effecting_pure _

theorem createAttestation_attests {store : Store} (approvalRequestId : String) (decision : ReviewerAttestationDecision)
    (reason : String) (user : AuthUser) :
    (createAttestation runtime approvalRequestId decision reason user).Ends store fun _ after => Attests store after :=
  ends_relabel.mpr (recordReviewerAttestation_attests _ _ _ _)

/-- A request that submits nothing to the gateway, attests nothing and reports no
change made elsewhere. -/
def RunRequest.Plain : RunRequest → Prop
  | .evaluateExternal _ _ | .evaluateManual _ _ | .attest _ _ _ _ | .outside _ => False
  | _ => True

/-- Every plain request is a chain of trust effects. -/
theorem perform_effecting (request : RunRequest) (plain : request.Plain) :
    Effecting runtime permission (perform runtime request) := by
  -- each request is a chain of parts, and each part has its effects on the trust records
  cases request with
  | createRun payload => exact createRun_effecting payload
  | bindCapabilityLease runId leaseId =>
    refine effecting_bind (runOr404_effecting runId) fun durable => ?_
    refine effecting_bind (requireStepBoundary_effecting durable _) fun _ => ?_
    exact effecting_relabel (effecting_relabel (attachCapabilityLease_effecting runId leaseId))
  | executeNext runId payload outcome user => exact executeRunNextStep_effecting runId payload outcome user
  | heartbeat runId payload => exact conflictResponse_effecting (onRun_effecting runId (heartbeatRun_onward _ _ _))
  | pause runId reason =>
    refine effecting_bind (runOr404_effecting runId) fun durable => ?_
    exact effecting_bind (effecting_demand _) fun _ => control_effecting runId (pauseAgentRun_onward reason)
  | resume runId reason => exact control_effecting runId (resumeAgentRun_onward reason)
  | cancel runId reason =>
    refine effecting_bind (runOr404_effecting runId) fun durable => ?_
    exact effecting_bind (effecting_demand _) fun _ => control_effecting runId (cancelAgentRun_onward reason)
  | retry runId stepId reason => exact retryRun_effecting runId stepId reason
  | recoverStale => exact recoverStaleLeases_effecting
  | authorize runId actor timeoutSeconds =>
    refine effecting_bind (runOr404_effecting runId) fun durable => effecting_bind (effecting_found _ _) fun current => ?_
    exact effecting_bind (authorizeRunStep_effecting _ _ _ _) fun _ => effecting_pure _
  | decide actionId payload user => exact effecting_relabel (recordActionAuthorization_effecting _ _ _ _)
  | consumeExternal agentId actionId payload =>
    refine effecting_bind (effecting_demand _) fun _ => effecting_read fun _ => ?_
    refine effecting_bind (effecting_found _ _) fun agent => effecting_read fun _ => ?_
    refine effecting_bind (effecting_found _ _) fun action => effecting_bind (effecting_demand _) fun _ => ?_
    refine effecting_bind (assertAgentCan_effecting _ _ _ _) fun _ => ?_
    exact effecting_relabel (consumeEffectiveAction_effects _ _ _)
  | consumeManual actionId payload user =>
    exact effecting_bind (effecting_demand _) fun _ => effecting_relabel (consumeEffectiveAction_effects _ _ _)
  | issueLease payload user => exact createLease_effecting payload user
  | viewLease leaseId =>
    refine effecting_of fun store filed => effects_rest ?_ fun _ => effecting_pure _
    exact (leaseOr404_effects filed leaseId).mono fun _ _ ends => ends.1
  | revokeLease leaseId reason user =>
    refine effecting_of fun store filed => ?_
    refine effects_then filed (leaseOr404_effects filed leaseId) fun lease after still found => ?_
    exact ends_relabel.mpr (revokeCapabilityLease_effects still (found lease rfl) user reason)
  | evaluateExternal | evaluateManual | attest | «outside» => exact plain.elim

/-- A request submits an action to the gateway; one that an agent submits is
stamped with the identity of the agent. -/
def RunRequest.Submits (store : Store) (action : ProposedAction) : RunRequest → Prop
  | .evaluateExternal agentId payload => ∃ agent, store.externalAgents.get? agentId = some agent ∧
      action = { payload with provider := agent.provider, agentId := some agent.id }
  | .evaluateManual payload _ => action = payload
  | _ => False

/-- What a request submits to the gateway is permitted. -/
def Permission.Allows (permission : Permission) (store : Store) (request : RunRequest) : Prop :=
  ∀ action, request.Submits store action → permission.permits store action

theorem assertAgentCan_ends {store : Store} (agent : ExternalAgent) (action : AgentAction)
    (projectId repository : Option String) :
    (assertAgentCan agent action projectId repository : StoreProcedure Unit).Ends store fun _ after => after = store :=
  ends_guard rfl fun _ => ends_guard rfl fun _ => ends_demand.mpr ⟨fun _ => rfl, fun _ => rfl⟩

/-- A permitted evaluation is a chain of trust effects. -/
theorem evaluate_effects {store : Store} (filed : store.Filed) {action : ProposedAction}
    (permitted : permission.permits store action) (actor : String) :
    (evaluateGatewayAction runtime action actor >>= fun _ => pure ()).Ends store
      fun _ after => store.Effects runtime permission after :=
  effects_rest (evaluateGatewayAction_effects filed permitted actor) fun _ => effecting_pure _

theorem evaluateExternalAgentAction_effects {store : Store} (filed : store.Filed) {agentId : String}
    {payload : ProposedAction} (allows : permission.Allows store (.evaluateExternal agentId payload)) :
    (evaluateExternalAgentAction runtime agentId payload).Ends store
      fun _ after => store.Effects runtime permission after := by
  unfold evaluateExternalAgentAction
  refine ends_guard (Store.effects_self _ _) fun _ => ends_read (ends_lookup (Store.effects_self _ _) fun agent known => ?_)
  refine Ends.bind (assertAgentCan_ends agent _ _ _) (fun _ after same => ?_) fun _ after same => ?_
  · subst same
    exact ends_read (ends_guard (Store.effects_self _ _) fun _ =>
      evaluate_effects filed (allows _ ⟨agent, known, rfl⟩) _)
  · exact same ▸ Store.effects_self _ _

theorem evaluateManualAction_effects {store : Store} (filed : store.Filed) {payload : ProposedAction} {user : AuthUser}
    (allows : permission.Allows store (.evaluateManual payload user)) :
    (evaluateManualAction runtime payload user).Ends store fun _ after => store.Effects runtime permission after :=
  ends_guard (Store.effects_self _ _) fun _ => evaluate_effects filed (allows _ rfl) _

end Requests

/-- Leases, actions and what was decided about them are as they were. -/
structure Store.SameLedger (before after : Store) : Prop where
  leases : after.capabilityLeases = before.capabilityLeases
  actions : after.proposedActions = before.proposedActions
  decisions : after.policyDecisions = before.policyDecisions
  authorizations : after.actionAuthorizations = before.actionAuthorizations
  consumptions : after.actionConsumptions = before.actionConsumptions
  time : before.ticks ≤ after.ticks

section Runs

variable {runtime : Runtime} {permission : Permission}

theorem Attests.sameLedger {before after : Store} (attests : Attests before after) : before.SameLedger after := by
  cases attests with
  | unchanged same =>
    exact ⟨same.leases, same.actions, same.decisions, same.authorizations, same.consumptions, same.time⟩
  | recorded approval attestation stored fresh about other same =>
    exact ⟨same.leases, same.actions, same.decisions, same.authorizations, same.consumptions, same.time⟩

theorem applyOutside_sameLedger (change : OutsideChange) (store : Store) :
    store.SameLedger (applyOutside change store) := ⟨rfl, rfl, rfl, rfl, rfl, Nat.le_refl _⟩

/-- A request is a chain of effects, an attestation, or a change made elsewhere. -/
theorem next_cases {store : Store} (filed : store.Filed) {request : RunRequest}
    (allows : permission.Allows store request) :
    ReflTransGen (TrustEffect runtime permission) store ((runMachine runtime).next store request) ∨
      Attests store ((runMachine runtime).next store request) ∨
      ∃ change, request = .outside change ∧ (runMachine runtime).next store request = applyOutside change store := by
  by_cases plain : request.Plain
  · exact .inl (perform_effecting request plain store filed)
  · cases request with
    | evaluateExternal agentId payload => exact .inl (evaluateExternalAgentAction_effects filed allows filed)
    | evaluateManual payload user => exact .inl (evaluateManualAction_effects filed allows filed)
    | attest approvalRequestId decision reason user =>
      exact .inr (.inl (createAttestation_attests approvalRequestId decision reason user))
    | «outside» change => exact .inr (.inr ⟨change, rfl, rfl⟩)
    | _ => exact absurd trivial plain

theorem allows_all (store : Store) (request : RunRequest) : Permission.all.Allows store request := fun _ _ => trivial

/-- What every effect keeps, and what does not depend on the approvals, every request keeps. -/
theorem next_keeps {invariant : Store → Prop}
    (effect : ∀ before after, TrustEffect runtime permission before after → before.Filed → invariant before → invariant after)
    (beside : ∀ before after : Store, before.SameLedger after → invariant before → invariant after) {store : Store}
    {request : RunRequest} (allows : permission.Allows store request) (filed : store.Filed) (holds : invariant store) :
    ((runMachine runtime).next store request).Filed ∧ invariant ((runMachine runtime).next store request) := by
  have aside : ∀ after : Store, store.SameLedger after → after.Filed ∧ invariant after :=
    fun after same => ⟨⟨same.leases ▸ filed.leases, same.actions ▸ filed.actions⟩, beside store after same holds⟩
  rcases next_cases filed allows with chain | attests | ⟨change, rfl, same⟩
  · exact chain_keeps effect chain filed holds
  · exact aside _ attests.sameLedger
  · rw [same]
    exact aside _ (applyOutside_sameLedger change store)

theorem follows_keeps {invariant : Store → Prop} {allowed : Store → RunRequest → Prop}
    (permitted : ∀ store request, allowed store request → permission.Allows store request)
    (effect : ∀ before after, TrustEffect runtime permission before after → before.Filed → invariant before → invariant after)
    (beside : ∀ before after : Store, before.SameLedger after → invariant before → invariant after) {first last : Store}
    (follows : Machine.Follows (runMachine runtime) allowed first last) (filed : first.Filed) (holds : invariant first) :
    last.Filed ∧ invariant last := by
  induction follows with
  | done => exact ⟨filed, holds⟩
  | step request _ fits ih => exact next_keeps effect beside (permitted _ _ fits) ih.1 ih.2

theorem fresh_filed {store : Store} (fresh : store.Fresh) : store.Filed := by
  constructor
  · intro leaseId lease stored
    rw [fresh.capabilityLeases] at stored
    cases stored
  · intro actionId action stored
    rw [fresh.proposedActions] at stored
    cases stored

/-- What holds of every fresh store, and what every request keeps, holds of every reachable store. -/
theorem reachable_keeps {invariant : Store → Prop} {allowed : Store → RunRequest → Prop}
    (permitted : ∀ store request, allowed store request → permission.Allows store request)
    (start : ∀ store : Store, store.Fresh → invariant store)
    (effect : ∀ before after, TrustEffect runtime permission before after → before.Filed → invariant before → invariant after)
    (beside : ∀ before after : Store, before.SameLedger after → invariant before → invariant after) {store : Store}
    (reachable : (runMachine runtime).Reachable allowed store) : store.Filed ∧ invariant store := by
  obtain ⟨first, fresh, follows⟩ := reachable
  exact follows_keeps permitted effect beside follows (fresh_filed fresh) (start first fresh)

end Runs

end ControlTower
