import Mathlib.Order.Monotone.Defs
import ControlTower.Trust.Quiet

/-! What an evaluation and a human decision leave on record, and which decision
on an action is the latest one. -/

set_option autoImplicit false

namespace ControlTower

open Foundation
open Foundation.Procedure

section Latest

variable {store : Store} {decision : PolicyDecision}

/-- The store with one more decision. -/
def Store.withDecision (store : Store) (decision : PolicyDecision) : Store :=
  { store with policyDecisions := store.policyDecisions.set decision.id decision }

theorem decisions_withDecision (fresh : decision.id ∉ store.policyDecisions.keys) :
    (store.withDecision decision).policyDecisions.values = store.policyDecisions.values ++ [decision] :=
  Table.values_set_fresh decision fresh

theorem latest_other (fresh : decision.id ∉ store.policyDecisions.keys) {actionId : String}
    (other : decision.proposedActionId ≠ actionId) :
    (store.withDecision decision).latestPolicyDecision actionId = store.latestPolicyDecision actionId := by
  simp [Store.latestPolicyDecision, decisions_withDecision fresh, List.filter_append, other]

theorem latest_new (fresh : decision.id ∉ store.policyDecisions.keys)
    (newest : ∀ earlier ∈ store.policyDecisions.values, earlier.evaluatedAt < decision.evaluatedAt) :
    (store.withDecision decision).latestPolicyDecision decision.proposedActionId = some decision := by
  simp only [Store.latestPolicyDecision, decisions_withDecision fresh, List.filter_append,
    List.filter_cons, beq_self_eq_true, if_true, List.filter_nil]
  refine Selection.pick_append_last fun earlier member => ?_
  simp [laterDecision, newest earlier (List.mem_of_mem_filter member)]

theorem latest_mem {actionId : String} (latest : store.latestPolicyDecision actionId = some decision) :
    decision ∈ store.policyDecisions.values ∧ decision.proposedActionId = actionId := by
  have member := Selection.pick_mem latest
  rw [List.mem_filter] at member
  exact ⟨member.1, by simpa using member.2⟩

/-- The latest decision depends on the decisions alone. -/
theorem latest_congr (store : Store) {other : Store} (same : other.policyDecisions = store.policyDecisions)
    (actionId : String) : other.latestPolicyDecision actionId = store.latestPolicyDecision actionId := by
  simp only [Store.latestPolicyDecision, same]

end Latest

/-- One more decision on record, dated inside the step. -/
structure Store.Decides (runtime : Runtime) (before after : Store) (decision : PolicyDecision) : Prop where
  runs : after.agentRuns = before.agentRuns
  tasks : after.agentTasks = before.agentTasks
  approvals : after.approvalRequests = before.approvalRequests
  decisions : after.policyDecisions = before.policyDecisions.set decision.id decision
  fresh : decision.id ∉ before.policyDecisions.keys
  leases : ∀ leaseId lease, before.capabilityLeases.get? leaseId = some lease →
    ∃ kept, after.capabilityLeases.get? leaseId = some kept ∧ lease.SameGrant kept
  dated : ∃ tick, before.ticks ≤ tick ∧ tick < after.ticks ∧ decision.evaluatedAt = runtime.clock tick

/-- The lease an evaluation looks at: the stored one, or that lease expired. -/
def Store.LeaseFor (store : Store) (action : ProposedAction) (lease : CapabilityLease) : Prop :=
  ∃ stored, store.capabilityLeases.get? (action.leaseId.getD "") = some stored ∧ stored.SameGrant lease ∧
    (lease = stored ∨ lease.status = .expired)

/-- An evaluation stores the action and decides on it by the policy. -/
structure Store.Evaluates (runtime : Runtime) (before after : Store) (action : ProposedAction)
    (decision : PolicyDecision) : Prop extends Store.Decides runtime before after decision where
  actions : after.proposedActions = before.proposedActions.set action.id action
  authorizations : after.actionAuthorizations = before.actionAuthorizations
  about : decision.proposedActionId = action.id
  policy : ∃ lease now, decision.decision = (evaluateProposedAction runtime action lease now).decision ∧
    ∀ looked, lease = some looked → before.LeaseFor action looked

/-- Every decision carries an earlier reading of the clock. -/
def Store.Dated (runtime : Runtime) (store : Store) : Prop :=
  ∀ decision ∈ store.policyDecisions.values, ∃ tick, tick < store.ticks ∧ decision.evaluatedAt = runtime.clock tick

theorem Store.Quietly.dates {runtime : Runtime} {before after : Store} (quiet : before.Quietly after)
    (dated : before.Dated runtime) : after.Dated runtime := by
  intro decision member
  rw [quiet.decisions] at member
  obtain ⟨tick, past, same⟩ := dated decision member
  exact ⟨tick, Nat.lt_of_lt_of_le past quiet.time, same⟩

namespace Store.Decides

variable {runtime : Runtime} {before after : Store} {decision : PolicyDecision}

theorem time (decides : before.Decides runtime after decision) : before.ticks ≤ after.ticks := by
  obtain ⟨tick, from_, until_, -⟩ := decides.dated
  exact Nat.le_of_lt (Nat.lt_of_le_of_lt from_ until_)

theorem dates (decides : before.Decides runtime after decision) (dated : before.Dated runtime) :
    after.Dated runtime := by
  intro other member
  rw [decides.decisions, Table.values_set_fresh decision decides.fresh, List.mem_append] at member
  rcases member with earlier | last
  · obtain ⟨tick, past, same⟩ := dated other earlier
    exact ⟨tick, Nat.lt_of_lt_of_le past decides.time, same⟩
  · obtain ⟨tick, -, until_, same⟩ := decides.dated
    rw [List.mem_singleton.mp last]
    exact ⟨tick, until_, same⟩

/-- Under a clock that always moves on, the new decision is the latest one. -/
theorem latest (decides : before.Decides runtime after decision) (dated : before.Dated runtime)
    (moves : StrictMono runtime.clock) : after.latestPolicyDecision decision.proposedActionId = some decision := by
  rw [latest_congr (before.withDecision decision) decides.decisions]
  refine latest_new decides.fresh fun earlier member => ?_
  obtain ⟨tick, past, same⟩ := dated earlier member
  obtain ⟨now, from_, -, here⟩ := decides.dated
  rw [same, here]
  exact moves (Nat.lt_of_lt_of_le past from_)

/-- The decision changes nothing for other actions. -/
theorem latest_elsewhere (decides : before.Decides runtime after decision) {actionId : String}
    (other : decision.proposedActionId ≠ actionId) :
    after.latestPolicyDecision actionId = before.latestPolicyDecision actionId := by
  rw [latest_congr (before.withDecision decision) decides.decisions]
  exact latest_other decides.fresh other

end Store.Decides

section Evaluate

variable {runtime : Runtime} {store : Store}

theorem appendTrustEvent_ends {eventType : TrustEventType} {entityType entityId actor : String}
    {correlationId : Option String} {payload : Document} :
    (appendTrustEvent runtime eventType entityType entityId actor correlationId payload).Ends store
      fun outcome after => outcome = .ok () ∧ store.Quietly after :=
  ⟨rfl, appendTrustEvent_quiet store⟩

theorem persist_ends : persist.Ends store fun outcome after => outcome = .ok () ∧ store.Quietly after :=
  ⟨rfl, persist_quiet store⟩

/-- A refreshed lease is the lease itself, not yet ended, or the lease expired. -/
theorem refreshLeaseStatus_ends (lease : CapabilityLease) :
    (refreshLeaseStatus runtime lease).Ends store fun outcome after =>
      ∃ refreshed, outcome = .ok refreshed ∧ lease.SameGrant refreshed ∧
        ((refreshed = lease ∧ after.capabilityLeases = store.capabilityLeases ∧
            (lease.status = .active → runtime.clock store.ticks < lease.expiresAt)) ∨
          refreshed.status = .expired) := by
  have same : lease.SameGrant lease := ⟨rfl, rfl, rfl, rfl, rfl, rfl, rfl, rfl⟩
  simp only [refreshLeaseStatus, ends_ite, ends_bind, ends_readClock, continue_ok, ends_pure]
  refine ⟨fun active => ⟨fun ended => ?_, fun going => ?_⟩, fun inactive => ?_⟩
  · refine ⟨_, rfl, ?_, .inr rfl⟩
    exact ⟨rfl, rfl, rfl, rfl, rfl, rfl, rfl, rfl⟩
  · exact ⟨lease, rfl, same, .inl ⟨rfl, rfl, fun _ => Nat.not_le.mp going⟩⟩
  · exact ⟨lease, rfl, same, .inl ⟨rfl, trivial, fun active => absurd active inactive⟩⟩

theorem leaseOfAction_ends (action : ProposedAction) :
    (leaseOfAction runtime action).Ends store fun outcome after => store.Quietly after ∧
      ∃ lease, outcome = .ok lease ∧ ∀ looked, lease = some looked → store.LeaseFor action looked := by
  refine ⟨leaseOfAction_quiet action store, ?_⟩
  suffices ends : (leaseOfAction runtime action).Ends store fun outcome _ =>
      ∃ lease, outcome = .ok lease ∧ ∀ looked, lease = some looked → store.LeaseFor action looked from ends
  simp only [leaseOfAction, ends_bind, ends_state, continue_ok]
  split
  · rename_i stored found
    rw [ends_bind]
    refine (refreshLeaseStatus_ends stored).mono fun outcome after ends => ?_
    obtain ⟨refreshed, rfl, granted, looks⟩ := ends
    refine ⟨some refreshed, rfl, fun looked same => ?_⟩
    obtain rfl : refreshed = looked := by simpa using same
    exact ⟨stored, found, granted, looks.imp And.left id⟩
  · exact ⟨none, rfl, fun looked same => by simp at same⟩

theorem storeDecision_ends (action : ProposedAction) (verdict : Verdict) (version : String) :
    (storeDecision runtime action verdict version).Ends store fun outcome after =>
      ∃ decision, outcome = .ok decision ∧ decision.id ∉ store.policyDecisions.keys ∧
        decision.proposedActionId = action.id ∧ decision.decision = verdict.decision ∧
        decision.evaluatedPolicyVersion = version ∧ decision.evaluatedAt = runtime.clock store.ticks ∧
        after = { store.withDecision decision with ticks := store.ticks + 1 } := by
  simp only [storeDecision, ends_bind, ends_readClock, continue_ok, ends_state, ends_modify, ends_pure]
  exact ⟨_, rfl, runtime.newId_fresh _ _, rfl, rfl, rfl, rfl, rfl⟩

theorem evaluateGatewayAction_evaluates (action : ProposedAction) (actor : String) :
    (evaluateGatewayAction runtime action actor).Ends store fun outcome after =>
      ∃ decision, outcome = .ok decision ∧ store.Evaluates runtime after action decision := by
  refine Ends.bind (leaseOfAction_ends action) (fun lease looked ends => ?_) fun error looked ends => ?_
  · obtain ⟨quiet, found, same, looks⟩ := ends
    obtain rfl : lease = found := by simpa using same
    simp only [ends_bind, ends_modify, continue_ok]
    refine appendTrustEvent_ends.mono fun outcome received ends => ?_
    obtain ⟨rfl, receiving⟩ := ends
    simp only [continue_ok, ends_readClock, ends_bind]
    refine (storeDecision_ends action _ _).mono fun outcome decided ends => ?_
    obtain ⟨decision, rfl, fresh, about, verdict, -, dated, rfl⟩ := ends
    simp only [continue_ok, ends_bind]
    refine appendTrustEvent_ends.mono fun outcome announced ends => ?_
    obtain ⟨rfl, announcing⟩ := ends
    simp only [continue_ok, ends_bind]
    refine persist_ends.mono fun outcome last ends => ?_
    obtain ⟨rfl, persisting⟩ := ends
    rw [continue_ok, ends_pure]
    refine ⟨decision, rfl, ?_⟩
    have rest := Store.quietly_trans _ _ _ announcing persisting
    have start := quiet.decisions ▸ receiving.decisions
    exact
      { runs := rest.runs.trans (receiving.runs.trans quiet.runs)
        tasks := rest.tasks.trans (receiving.tasks.trans quiet.tasks)
        approvals := rest.approvals.trans (receiving.approvals.trans quiet.approvals)
        decisions := by
          rw [rest.decisions]
          exact congrArg (fun table => table.set decision.id decision) start
        fresh := by
          rw [← start]
          exact fresh
        leases := by
          intro leaseId lease stored
          obtain ⟨first, found, granted⟩ := quiet.leases leaseId lease stored
          obtain ⟨second, found, again⟩ := receiving.leases leaseId first found
          obtain ⟨third, found, still⟩ := rest.leases leaseId second found
          exact ⟨third, found, (granted.trans again).trans still⟩
        dated := by
          refine ⟨_, ?_, ?_, dated⟩
          · exact (quiet.time.trans receiving.time).trans (Nat.le_succ _)
          · exact Nat.lt_of_lt_of_le (Nat.lt_succ_self _) rest.time
        actions := by
          rw [rest.actions]
          exact receiving.actions.trans (congrArg (fun table => table.set action.id action) quiet.actions)
        authorizations := rest.authorizations.trans (receiving.authorizations.trans quiet.authorizations)
        about := about
        policy := ⟨lease, _, verdict, looks⟩ }
  · obtain ⟨-, found, impossible, -⟩ := ends
    simp at impossible

end Evaluate

/-- A first human decision: a signed authorization of the stored action, and the
decision it puts in force. -/
structure Store.Authorizes (runtime : Runtime) (before after : Store) (action : ProposedAction)
    (verdict : ActionAuthorizationDecision) (authorization : ActionAuthorization) (decision : PolicyDecision) :
    Prop extends Store.Decides runtime before after decision where
  actions : after.proposedActions = before.proposedActions
  authorizations : after.actionAuthorizations =
    before.actionAuthorizations.set authorization.id authorization
  newAuthorization : authorization.id ∉ before.actionAuthorizations.keys
  about : decision.proposedActionId = action.id ∧ authorization.actionId = action.id
  signed : verifyActionAuthorization runtime authorization action = true
  recorded : authorization.decision = verdict
  effective : decision.decision = (effectiveVerdict verdict decision.riskLevel).decision

section Authorize

variable {runtime : Runtime} {store : Store}

theorem storeAuthorization_authorizes (action : ProposedAction) (current : PolicyDecision)
    (verdict : ActionAuthorizationDecision) (reason : String) (user : AuthUser) :
    (storeAuthorization runtime action current verdict reason user).Ends store fun outcome after =>
      outcome = .ok () ∧ ∃ authorization decision,
        store.Authorizes runtime after action verdict authorization decision := by
  simp only [storeAuthorization, ends_bind, ends_readClock, continue_ok, ends_state, ends_modify]
  refine (storeDecision_ends action _ _).mono fun outcome middle ends => ?_
  obtain ⟨decision, rfl, fresh, about, decided, -, dated, rfl⟩ := ends
  rw [continue_ok]
  refine appendTrustEvent_ends.mono fun outcome last ends => ?_
  obtain ⟨rfl, rest⟩ := ends
  refine ⟨rfl, signedAuthorization runtime (runtime.newId "action_authorization" store.actionAuthorizations.keys)
    action current verdict reason user (runtime.clock store.ticks), decision, ?_⟩
  exact
    { runs := rest.runs
      tasks := rest.tasks
      approvals := rest.approvals
      decisions := rest.decisions
      fresh := fresh
      leases := rest.leases
      dated := ⟨_, Nat.le_succ _, Nat.lt_of_lt_of_le (Nat.lt_succ_self _) rest.time, dated⟩
      actions := rest.actions
      authorizations := rest.authorizations
      newAuthorization := runtime.newId_fresh _ _
      about := ⟨about, rfl⟩
      signed := by
        simp [verifyActionAuthorization, verifyPayloadSignature, signedAuthorization, authorizationSignaturePayload]
      recorded := rfl
      effective := decided.trans (by cases verdict <;> rfl) }

end Authorize

end ControlTower
