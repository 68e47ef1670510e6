import ControlTower.Trust.Authorization

/-! The quiet work of the trust services: events, leases, attestations and
consumption leave runs, tasks, actions, decisions and authorizations alone, and
a lease keeps the grant it was issued with. -/

set_option autoImplicit false

namespace ControlTower

open Foundation
open Foundation.Procedure

/-- What a lease grants, as opposed to its status and its consumption. -/
def CapabilityLease.SameGrant (before after : CapabilityLease) : Prop :=
  after.id = before.id ∧ after.approvalRequestId = before.approvalRequestId ∧
    after.approvedPayloadHash = before.approvedPayloadHash ∧ after.agentId = before.agentId ∧
    after.provider = before.provider ∧ after.mode = before.mode ∧ after.scope = before.scope ∧
    after.expiresAt = before.expiresAt

theorem CapabilityLease.SameGrant.trans {first middle last : CapabilityLease} (start : first.SameGrant middle)
    (rest : middle.SameGrant last) : first.SameGrant last := by
  simp only [CapabilityLease.SameGrant] at *
  grind

structure Store.Quietly (before after : Store) : Prop where
  runs : after.agentRuns = before.agentRuns
  tasks : after.agentTasks = before.agentTasks
  approvals : after.approvalRequests = before.approvalRequests
  actions : after.proposedActions = before.proposedActions
  decisions : after.policyDecisions = before.policyDecisions
  authorizations : after.actionAuthorizations = before.actionAuthorizations
  leases : ∀ leaseId lease, before.capabilityLeases.get? leaseId = some lease →
    ∃ kept, after.capabilityLeases.get? leaseId = some kept ∧ lease.SameGrant kept
  time : before.ticks ≤ after.ticks

theorem Store.quietly_self (store : Store) : store.Quietly store :=
  ⟨rfl, rfl, rfl, rfl, rfl, rfl, fun _ lease found => ⟨lease, found, rfl, rfl, rfl, rfl, rfl, rfl, rfl, rfl⟩,
    Nat.le_refl _⟩

theorem Store.quietly_trans (first middle last : Store) (start : first.Quietly middle)
    (rest : middle.Quietly last) : first.Quietly last where
  runs := rest.runs.trans start.runs
  tasks := rest.tasks.trans start.tasks
  approvals := rest.approvals.trans start.approvals
  actions := rest.actions.trans start.actions
  decisions := rest.decisions.trans start.decisions
  authorizations := rest.authorizations.trans start.authorizations
  leases := by
    intro leaseId lease found
    obtain ⟨middle, kept, granted⟩ := start.leases leaseId lease found
    obtain ⟨last, left, still⟩ := rest.leases leaseId middle kept
    exact ⟨last, left, granted.trans still⟩
  time := start.time.trans rest.time

/-- A change of collections that are neither runs nor verdicts nor leases. -/
theorem Store.quietly_of {before after : Store} (runs : after.agentRuns = before.agentRuns)
    (tasks : after.agentTasks = before.agentTasks) (approvals : after.approvalRequests = before.approvalRequests)
    (actions : after.proposedActions = before.proposedActions)
    (decisions : after.policyDecisions = before.policyDecisions)
    (authorizations : after.actionAuthorizations = before.actionAuthorizations)
    (leases : after.capabilityLeases = before.capabilityLeases) (time : before.ticks ≤ after.ticks) :
    before.Quietly after :=
  ⟨runs, tasks, approvals, actions, decisions, authorizations,
    leases ▸ (Store.quietly_self before).leases, time⟩

abbrev Quiet {α : Type} (body : StoreProcedure α) : Prop := Guarantees Store.Quietly body

section Rules

variable {α β : Type} {runtime : Runtime}

theorem quiet_pure (value : α) : Quiet (pure value) := guarantees_pure Store.quietly_self value

theorem quiet_raise (error : Raised) : Quiet (raise error : StoreProcedure α) :=
  guarantees_raise Store.quietly_self error

theorem quiet_bind {first : StoreProcedure α} {next : α → StoreProcedure β} (start : Quiet first)
    (rest : ∀ value, Quiet (next value)) : Quiet (first >>= next) :=
  guarantees_bind Store.quietly_trans start rest

theorem quiet_read {next : Store → StoreProcedure β} (rest : ∀ store, Quiet (next store)) :
    Quiet (Procedure.state >>= next) :=
  quiet_bind (guarantees_state Store.quietly_self) rest

theorem quiet_demand {condition : Prop} [Decidable condition] (error : Raised) :
    Quiet (demand condition error) :=
  guarantees_demand Store.quietly_self error

theorem quiet_onlyIf {condition : Prop} [Decidable condition] {body : StoreProcedure Unit} (quiet : Quiet body) :
    Quiet (onlyIf condition body) :=
  guarantees_onlyIf Store.quietly_self quiet

theorem quiet_found (value : Option α) (error : Raised) : Quiet (found value error) :=
  guarantees_found Store.quietly_self value error

theorem quiet_modify {change : Store → Store} (quietly : ∀ store : Store, store.Quietly (change store)) :
    Quiet (.modify change) :=
  guarantees_modify quietly

/-- A change made in the store that was read. -/
theorem quiet_readModify {change : Store → Store → Store} {rest : Store → StoreProcedure β}
    (quietly : ∀ store : Store, store.Quietly (change store store)) (after : ∀ store, Quiet (rest store)) :
    Quiet (Procedure.state >>= fun store => Procedure.modify (change store) >>= fun _ => rest store) :=
  fun store => Store.quietly_trans _ _ _ (quietly store) (after store (change store store))

theorem quiet_relabel {body : StoreProcedure α} {rename : Raised → Raised} (quiet : Quiet body) :
    Quiet (body.relabel rename) :=
  guarantees_relabel quiet

theorem quiet_clock (value : Store → α) : Quiet (Procedure.update fun store => (value store, Clocked.tick store)) :=
  fun _ => Store.quietly_of rfl rfl rfl rfl rfl rfl rfl (Nat.le_succ _)

theorem quiet_readClock : Quiet (readClock runtime : StoreProcedure Instant) := quiet_clock _

theorem quiet_drawSecret : Quiet (drawSecret runtime : StoreProcedure String) := quiet_clock _

end Rules

section Services

variable {runtime : Runtime}

theorem persist_quiet : Quiet persist :=
  quiet_modify fun _ => Store.quietly_of rfl rfl rfl rfl rfl rfl rfl (Nat.le_refl _)

theorem appendTrustEvent_quiet {eventType : TrustEventType} {entityType entityId actor : String}
    {correlationId : Option String} {payload : Document} :
    Quiet (appendTrustEvent runtime eventType entityType entityId actor correlationId payload) :=
  quiet_bind quiet_readClock fun _ =>
    quiet_modify fun _ => Store.quietly_of rfl rfl rfl rfl rfl rfl rfl (Nat.le_refl _)

theorem changeLease_quiet (leaseId : String) {change : CapabilityLease → CapabilityLease}
    (granted : ∀ lease : CapabilityLease, lease.SameGrant (change lease)) : Quiet (changeLease leaseId change) := by
  refine quiet_modify fun store => ⟨rfl, rfl, rfl, rfl, rfl, rfl, fun other lease stored => ?_, Nat.le_refl _⟩
  by_cases same : other = leaseId
  · subst same
    exact ⟨change lease, by simp [stored], granted lease⟩
  · exact ⟨lease, by simpa [same] using stored, rfl, rfl, rfl, rfl, rfl, rfl, rfl, rfl⟩

theorem refreshLeaseStatus_quiet (lease : CapabilityLease) : Quiet (refreshLeaseStatus runtime lease) := by
  refine guarantees_ite (quiet_bind quiet_readClock fun _ => guarantees_ite ?_ (quiet_pure _)) (quiet_pure _)
  refine quiet_bind quiet_readClock fun _ => ?_
  refine quiet_bind (changeLease_quiet _ fun _ => ⟨rfl, rfl, rfl, rfl, rfl, rfl, rfl, rfl⟩) fun _ => ?_
  exact quiet_bind appendTrustEvent_quiet fun _ => quiet_bind persist_quiet fun _ => quiet_pure _

theorem leaseOfAction_quiet (action : ProposedAction) : Quiet (leaseOfAction runtime action) := by
  refine quiet_read fun _ => ?_
  split
  · exact quiet_bind (refreshLeaseStatus_quiet _) fun _ => quiet_pure _
  · exact quiet_pure _

theorem recordReviewerAttestation_quiet (approvalRequestId : String) (decision : ReviewerAttestationDecision)
    (reason : String) (user : AuthUser) :
    Quiet (recordReviewerAttestation runtime approvalRequestId decision reason user) := by
  refine quiet_read fun _ => quiet_bind (quiet_found _ _) fun _ => quiet_bind (quiet_demand _) fun _ => ?_
  refine quiet_bind (quiet_demand _) fun _ => ?_
  dsimp only
  split
  · exact quiet_demand _
  · refine quiet_bind quiet_readClock fun _ => quiet_bind (quiet_modify fun _ => ?_) fun _ => ?_
    · exact Store.quietly_of rfl rfl rfl rfl rfl rfl rfl (Nat.le_refl _)
    · exact quiet_bind appendTrustEvent_quiet fun _ => persist_quiet

theorem validateScopeAgainstApproval_quiet (payload : CapabilityLeaseCreate) (approval : ApprovalRequest) :
    Quiet (validateScopeAgainstApproval payload approval) := by
  refine quiet_read fun _ => quiet_bind (quiet_found _ _) fun _ => ?_
  iterate 4 refine quiet_bind (quiet_demand _) fun _ => ?_
  exact quiet_demand _

theorem findActiveLease_quiet (approvalId : String) (agentId : Option String) (leases : List CapabilityLease) :
    Quiet (findActiveLease runtime approvalId agentId leases) := by
  induction leases with
  | nil => exact quiet_pure _
  | cons lease rest ih =>
    refine guarantees_ite (quiet_bind quiet_readClock fun _ => ?_) ih
    exact guarantees_ite (quiet_pure _) ih

theorem correlationIdOf_quiet (metadata : List (String × Document)) : Quiet (correlationIdOf metadata) := by
  unfold correlationIdOf
  split <;> first | exact quiet_pure _ | exact quiet_raise _

/-- A new lease stands under an identifier that no lease had. -/
theorem storeLease_quiet (payload : CapabilityLeaseCreate) (approval : ApprovalRequest) (user : AuthUser) :
    Quiet (storeLease runtime payload approval user) := by
  refine quiet_bind quiet_readClock fun _ => quiet_bind quiet_drawSecret fun _ => ?_
  refine quiet_bind quiet_readClock fun _ => quiet_readModify (fun store => ?_) fun _ => ?_
  · refine ⟨rfl, rfl, rfl, rfl, rfl, rfl, fun leaseId lease stored => ⟨lease, ?_, rfl, rfl, rfl, rfl, rfl, rfl, rfl, rfl⟩,
      Nat.le_refl _⟩
    have known : leaseId ≠ runtime.newId "lease" store.capabilityLeases.keys := by
      rintro rfl
      exact runtime.newId_fresh _ _ (Table.mem_keys.mpr ⟨lease, stored⟩)
    rw [Table.get?_set_other _ _ known]
    exact stored
  · refine quiet_bind (correlationIdOf_quiet _) fun _ => ?_
    exact quiet_bind appendTrustEvent_quiet fun _ => quiet_bind persist_quiet fun _ => quiet_pure _

theorem issueCapabilityLease_quiet (payload : CapabilityLeaseCreate) (user : AuthUser) :
    Quiet (issueCapabilityLease runtime payload user) := by
  refine quiet_read fun _ => quiet_bind (quiet_found _ _) fun _ => ?_
  iterate 4 refine quiet_bind (quiet_demand _) fun _ => ?_
  refine quiet_bind (validateScopeAgainstApproval_quiet _ _) fun _ => ?_
  iterate 2 refine quiet_bind (quiet_demand _) fun _ => ?_
  refine quiet_bind (findActiveLease_quiet _ _ _) fun active => ?_
  split
  · exact quiet_bind (quiet_demand _) fun _ => quiet_pure _
  · exact storeLease_quiet _ _ _

theorem revokeCapabilityLease_quiet (lease : CapabilityLease) (user : AuthUser) (reason : String) :
    Quiet (revokeCapabilityLease runtime lease user reason) := by
  refine quiet_bind (refreshLeaseStatus_quiet _) fun _ => guarantees_ite (quiet_pure _) ?_
  refine quiet_bind (quiet_demand _) fun _ => quiet_bind quiet_readClock fun _ => ?_
  refine quiet_bind quiet_readClock fun _ => ?_
  refine quiet_bind (changeLease_quiet _ fun _ => ⟨rfl, rfl, rfl, rfl, rfl, rfl, rfl, rfl⟩) fun _ => ?_
  exact quiet_bind appendTrustEvent_quiet fun _ => persist_quiet

theorem verifyHumanAllow_quiet (action : ProposedAction) : Quiet (verifyHumanAllow runtime action) :=
  quiet_read fun _ => quiet_bind (quiet_found _ _) fun _ => quiet_bind (quiet_demand _) fun _ => quiet_demand _

theorem chargeLease_quiet (lease : CapabilityLease) (consumption : ActionConsumption) :
    Quiet (chargeLease runtime lease consumption) := by
  unfold chargeLease
  iterate 4 refine quiet_bind (quiet_demand _) fun _ => ?_
  refine quiet_bind quiet_readClock fun _ => ?_
  exact changeLease_quiet _ fun _ => ⟨rfl, rfl, rfl, rfl, rfl, rfl, rfl, rfl⟩

theorem consumeEffectiveAction_quiet (actionId : String) (consumption : ActionConsumption) (actor : String) :
    Quiet (consumeEffectiveAction runtime actionId consumption actor) := by
  refine quiet_read fun _ => quiet_bind (quiet_found _ _) fun _ => quiet_bind (quiet_found _ _) fun _ => ?_
  refine quiet_bind (quiet_onlyIf (verifyHumanAllow_quiet _)) fun _ => ?_
  split
  · exact quiet_demand _
  · refine quiet_bind (quiet_found _ _) fun _ => quiet_bind (refreshLeaseStatus_quiet _) fun _ => ?_
    refine quiet_bind (quiet_demand _) fun _ => quiet_bind (chargeLease_quiet _ _) fun _ => ?_
    refine quiet_bind (quiet_modify fun _ => ?_) fun _ => ?_
    · exact Store.quietly_of rfl rfl rfl rfl rfl rfl rfl (Nat.le_refl _)
    · exact quiet_bind appendTrustEvent_quiet fun _ => persist_quiet

end Services

/-- Every lease is as it was, or has expired. -/
def Store.Fades (before after : Store) : Prop :=
  ∀ leaseId lease, after.capabilityLeases.get? leaseId = some lease →
    before.capabilityLeases.get? leaseId = some lease ∨ lease.status = .expired

theorem Store.fades_self (store : Store) : store.Fades store := fun _ _ stored => .inl stored

theorem Store.fades_trans (first middle last : Store) (start : first.Fades middle) (rest : middle.Fades last) :
    first.Fades last := fun leaseId lease stored =>
  (rest leaseId lease stored).elim (start leaseId lease) .inr

theorem Store.fades_of {before after : Store} (same : after.capabilityLeases = before.capabilityLeases) :
    before.Fades after := fun _ _ stored => .inl (same ▸ stored)

section Fading

variable {runtime : Runtime} {α β : Type}

abbrev Fading {α : Type} (body : StoreProcedure α) : Prop := Guarantees Store.Fades body

theorem fading_bind {first : StoreProcedure α} {next : α → StoreProcedure β} (start : Fading first)
    (rest : ∀ value, Fading (next value)) : Fading (first >>= next) :=
  guarantees_bind Store.fades_trans start rest

theorem fading_read {next : Store → StoreProcedure β} (rest : ∀ store, Fading (next store)) :
    Fading (Procedure.state >>= next) :=
  fading_bind (guarantees_state Store.fades_self) rest

theorem fading_pure (value : α) : Fading (pure value) := guarantees_pure Store.fades_self value

theorem fading_readClock : Fading (readClock runtime : StoreProcedure Instant) :=
  fun _ => Store.fades_of rfl

theorem fading_modify {change : Store → Store}
    (same : ∀ store, (change store).capabilityLeases = store.capabilityLeases) : Fading (.modify change) :=
  fun store => Store.fades_of (same store)

theorem appendTrustEvent_fading {eventType : TrustEventType} {entityType entityId actor : String}
    {correlationId : Option String} {payload : Document} :
    Fading (appendTrustEvent runtime eventType entityType entityId actor correlationId payload) :=
  fading_bind fading_readClock fun _ => fading_modify fun _ => rfl

theorem refreshLeaseStatus_fading (lease : CapabilityLease) : Fading (refreshLeaseStatus runtime lease) := by
  refine guarantees_ite (fading_bind fading_readClock fun _ => guarantees_ite ?_ (fading_pure _)) (fading_pure _)
  refine fading_bind fading_readClock fun _ => fading_bind (fun store leaseId kept stored => ?_) fun _ => ?_
  · simp only [changeLease, run_modify, Table.get?_adjust] at stored
    split at stored
    · obtain ⟨before, -, rfl⟩ := Option.map_eq_some_iff.mp stored
      exact .inr rfl
    · exact .inl stored
  · exact fading_bind appendTrustEvent_fading fun _ => fading_bind (fading_modify fun _ => rfl) fun _ => fading_pure _

theorem leaseOfAction_fading (action : ProposedAction) : Fading (leaseOfAction runtime action) := by
  refine fading_read fun _ => ?_
  split
  · exact fading_bind (refreshLeaseStatus_fading _) fun _ => fading_pure _
  · exact fading_pure _

theorem storeDecision_fading (action : ProposedAction) (verdict : Verdict) (version : String) :
    Fading (storeDecision runtime action verdict version) :=
  fading_bind fading_readClock fun _ => fading_read fun _ => fading_bind (fading_modify fun _ => rfl) fun _ =>
    fading_pure _

theorem evaluateGatewayAction_fading (action : ProposedAction) (actor : String) :
    Fading (evaluateGatewayAction runtime action actor) := by
  refine fading_bind (leaseOfAction_fading action) fun _ => fading_bind (fading_modify fun _ => rfl) fun _ => ?_
  refine fading_bind appendTrustEvent_fading fun _ => fading_bind fading_readClock fun _ => ?_
  refine fading_bind (storeDecision_fading _ _ _) fun _ => fading_bind appendTrustEvent_fading fun _ => ?_
  exact fading_bind (fading_modify fun _ => rfl) fun _ => fading_pure _

end Fading

end ControlTower
