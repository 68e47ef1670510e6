import Mathlib.Logic.Relation
import ControlTower.Trust.Issuance
import ControlTower.Trust.Verdict

/-! What the trust services can do to their records, one effect at a time. Every
procedure of the services is a chain of these effects, and so what each effect
keeps is kept by all of them. -/

set_option autoImplicit false

namespace ControlTower

open Foundation
open Foundation.Procedure
open Relation (ReflTransGen)

def CapabilityLease.expiredAt (now : Instant) (lease : CapabilityLease) : CapabilityLease :=
  { lease with status := .expired, updatedAt := now }

def CapabilityLease.revokedBy (user reason : String) (revokedAt updatedAt : Instant) (lease : CapabilityLease) :
    CapabilityLease :=
  { lease with
    status := .revoked
    revokedAt := some revokedAt
    revokedByUserId := some user
    revocationReason := reason
    updatedAt }

/-- The totals of a lease after a consumption. -/
def CapabilityLease.charge (lease : CapabilityLease) (consumption : ActionConsumption) (now : Instant)
    (stored : CapabilityLease) : CapabilityLease :=
  { stored with
    consumedRuntimeSeconds := lease.consumedRuntimeSeconds + consumption.actualRuntimeSeconds
    consumedCostUsd := lease.consumedCostUsd + consumption.actualCostUsd
    consumedPullRequests := lease.consumedPullRequests + consumption.pullRequestsCreated
    consumedRetries := lease.consumedRetries + (if consumption.retryConsumed then 1 else 0)
    updatedAt := now }

/-- The lease can pay for a consumption. -/
structure CapabilityLease.CanPay (lease : CapabilityLease) (consumption : ActionConsumption) : Prop where
  runtime : lease.consumedRuntimeSeconds + consumption.actualRuntimeSeconds ≤ lease.scope.maxRuntimeSeconds
  cost : lease.consumedCostUsd + consumption.actualCostUsd ≤ lease.scope.maxCostUsd
  pullRequests : lease.consumedPullRequests + consumption.pullRequestsCreated ≤ lease.scope.maxPullRequests
  retries : lease.consumedRetries + (if consumption.retryConsumed then 1 else 0) ≤ lease.scope.maxRetries

/-- One more decision on an action, with a given verdict. -/
structure Store.Records (runtime : Runtime) (before after : Store) (action : ProposedAction) (verdict : Verdict)
    (version : String) (decision : PolicyDecision) : Prop where
  fresh : decision.id ∉ before.policyDecisions.keys
  about : decision.proposedActionId = action.id
  decided : decision.decision = verdict.decision
  version : decision.evaluatedPolicyVersion = version
  dated : before.Reads runtime after decision.evaluatedAt

/-- Which evaluations a history may hold: those of new actions, and maybe others.
It looks at the actions and at what was decided and consumed only. -/
structure Permission where
  permits : Store → ProposedAction → Prop
  new : ∀ store action, action.id ∉ store.proposedActions.keys → permits store action
  framed : ∀ (before after : Store) action, after.proposedActions = before.proposedActions →
    after.policyDecisions = before.policyDecisions → after.actionConsumptions = before.actionConsumptions →
    permits before action → permits after action

/-- Every evaluation is permitted. -/
def Permission.all : Permission where
  permits _ _ := True
  new _ _ _ := trivial
  framed _ _ _ _ _ _ _ := trivial

inductive TrustEffect (runtime : Runtime) (permission : Permission) (before after : Store) : Prop where
  | elsewhere (same : before.SameTrust after)
  | issue (payload : CapabilityLeaseCreate) (approval : ApprovalRequest) (lease : CapabilityLease)
      (valid : payload.scope.Valid) (admits : before.Admits payload approval)
      (grants : lease.Grants runtime payload approval) (fresh : lease.id ∉ before.capabilityLeases.keys)
      (sole : ∀ other ∈ before.capabilityLeases.values, other.Concerns approval.id payload.agentId →
        other.status = .active → ∃ now, before.Reads runtime after now ∧ other.expiresAt ≤ now)
      (same : Store.SameTrust { before with
        capabilityLeases := before.capabilityLeases.set lease.id lease } after)
  | expire (lease : CapabilityLease) (now updatedAt : Instant)
      (stored : before.capabilityLeases.get? lease.id = some lease) (active : lease.status = .active)
      (read : before.Reads runtime after now) (ended : lease.expiresAt ≤ now)
      (same : Store.SameTrust { before with
        capabilityLeases := before.capabilityLeases.adjust lease.id (CapabilityLease.expiredAt updatedAt) } after)
  | revoke (lease : CapabilityLease) (user reason : String) (revokedAt updatedAt : Instant)
      (stored : before.capabilityLeases.get? lease.id = some lease) (active : lease.status = .active)
      (same : Store.SameTrust { before with
        capabilityLeases := before.capabilityLeases.adjust lease.id
          (CapabilityLease.revokedBy user reason revokedAt updatedAt) } after)
  | consume (action : ProposedAction) (decision : PolicyDecision) (lease : CapabilityLease)
      (consumption : ActionConsumption) (now : Instant)
      (stored : before.proposedActions.get? action.id = some action)
      (latest : before.latestPolicyDecision action.id = some decision) (allowed : decision.decision = .allow)
      (first : before.actionConsumptions.get? action.id = none)
      (named : lease.id = action.leaseId.getD "") (held : before.capabilityLeases.get? lease.id = some lease)
      (active : lease.status = .active) (pays : lease.CanPay consumption)
      (same : Store.SameTrust { before with
        capabilityLeases := before.capabilityLeases.adjust lease.id (lease.charge consumption now)
        actionConsumptions := before.actionConsumptions.set action.id consumption } after)
  | evaluate (action : ProposedAction) (decision : PolicyDecision) (now : Instant)
      (permitted : permission.permits before action) (read : before.Reads runtime after now)
      (records : before.Records runtime after action
        (evaluateProposedAction runtime action (before.capabilityLeases.get? (action.leaseId.getD "")) now)
        policyVersion decision)
      (same : Store.SameTrust { before with
        proposedActions := before.proposedActions.set action.id action
        policyDecisions := before.policyDecisions.set decision.id decision } after)
  | authorize (action : ProposedAction) (current decision : PolicyDecision) (authorization : ActionAuthorization)
      (stored : before.proposedActions.get? action.id = some action)
      (latest : before.latestPolicyDecision action.id = some current)
      (undecided : current.decision = .requireApproval) (first : before.authorizationOf action.id = none)
      (fresh : authorization.id ∉ before.actionAuthorizations.keys) (about : authorization.actionId = action.id)
      (signed : verifyActionAuthorization runtime authorization action = true)
      (records : before.Records runtime after action (effectiveVerdict authorization.decision current.riskLevel)
        (current.evaluatedPolicyVersion ++ humanDecisionMark) decision)
      (same : Store.SameTrust { before with
        actionAuthorizations := before.actionAuthorizations.set authorization.id authorization
        policyDecisions := before.policyDecisions.set decision.id decision } after)

/-- An attestation is on record already, or is new; its reviewer did not create
the approval it is about. -/
inductive Attests (before after : Store) : Prop where
  | unchanged (same : before.SameTrust after)
  | recorded (approval : ApprovalRequest) (attestation : ReviewerAttestation)
      (stored : ∃ approvalId, before.approvalRequests.get? approvalId = some approval)
      (fresh : attestation.id ∉ before.reviewerAttestations.keys)
      (about : attestation.approvalRequestId = approval.id)
      (other : approval.createdByUserId ≠ some attestation.reviewerUserId)
      (same : Store.SameTrust { before with
        reviewerAttestations := before.reviewerAttestations.set attestation.id attestation } after)

/-- Leases and actions stand under their identifiers. -/
structure Store.Filed (store : Store) : Prop where
  leases : ∀ leaseId lease, store.capabilityLeases.get? leaseId = some lease → lease.id = leaseId
  actions : ∀ actionId action, store.proposedActions.get? actionId = some action → action.id = actionId

theorem Store.Filed.of_leases {before after : Store} (filed : before.Filed)
    (leases : ∀ leaseId lease, after.capabilityLeases.get? leaseId = some lease → lease.id = leaseId)
    (actions : after.proposedActions = before.proposedActions) : after.Filed :=
  ⟨leases, actions ▸ filed.actions⟩

theorem filed_adjust {leases : Table String CapabilityLease}
    (filed : ∀ leaseId lease, leases.get? leaseId = some lease → lease.id = leaseId) (key : String)
    {change : CapabilityLease → CapabilityLease} (named : ∀ lease, (change lease).id = lease.id) :
    ∀ leaseId lease, (leases.adjust key change).get? leaseId = some lease → lease.id = leaseId := by
  intro leaseId lease stored
  rw [Table.get?_adjust] at stored
  split at stored
  · obtain ⟨before, present, rfl⟩ := Option.map_eq_some_iff.mp stored
    rw [named]
    exact filed leaseId before present
  · exact filed leaseId lease stored

/-- Every effect keeps the records under their identifiers. -/
theorem TrustEffect.files {runtime : Runtime} {permission : Permission} {before after : Store} (effect : TrustEffect runtime permission before after)
    (filed : before.Filed) : after.Filed := by
  cases effect with
  -- only an issue and an evaluation file a record, each under its own identifier
  | elsewhere same => exact ⟨same.leases ▸ filed.leases, same.actions ▸ filed.actions⟩
  | issue payload approval lease valid admits grants fresh sole same =>
    refine filed.of_leases (fun leaseId stored found => ?_) same.actions
    rw [same.leases, Table.get?_set] at found
    split at found
    · obtain rfl := Option.some.inj found
      exact (by assumption : leaseId = lease.id).symm
    · exact filed.leases leaseId stored found
  | expire lease now updatedAt stored active read ended same =>
    refine filed.of_leases ?_ same.actions
    rw [same.leases]
    exact filed_adjust filed.leases _ fun _ => rfl
  | revoke lease user reason revokedAt updatedAt stored active same =>
    refine filed.of_leases ?_ same.actions
    rw [same.leases]
    exact filed_adjust filed.leases _ fun _ => rfl
  | consume action decision lease consumption now stored latest allowed first named held active pays same =>
    refine filed.of_leases ?_ same.actions
    rw [same.leases]
    exact filed_adjust filed.leases _ fun _ => rfl
  | evaluate action decision now permitted read records same =>
    refine ⟨same.leases ▸ filed.leases, fun actionId stored found => ?_⟩
    rw [same.actions, Table.get?_set] at found
    split at found
    · obtain rfl := Option.some.inj found
      exact (by assumption : actionId = action.id).symm
    · exact filed.actions actionId stored found
  | authorize action current decision authorization stored latest undecided first fresh about signed records same =>
    exact ⟨same.leases ▸ filed.leases, same.actions ▸ filed.actions⟩

/-- A procedure went through a chain of effects. -/
def Store.Effects (runtime : Runtime) (permission : Permission) (before after : Store) : Prop :=
  before.Filed → ReflTransGen (TrustEffect runtime permission) before after

theorem effects_file {runtime : Runtime} {permission : Permission} {before after : Store}
    (effects : ReflTransGen (TrustEffect runtime permission) before after) (filed : before.Filed) : after.Filed := by
  induction effects with
  | refl => exact filed
  | tail _ last ih => exact last.files ih

/-- What every effect keeps, a chain of effects keeps. -/
theorem chain_keeps {runtime : Runtime} {permission : Permission} {invariant : Store → Prop}
    (effect : ∀ before after, TrustEffect runtime permission before after → before.Filed → invariant before → invariant after)
    {before after : Store} (chain : ReflTransGen (TrustEffect runtime permission) before after) (filed : before.Filed)
    (holds : invariant before) : after.Filed ∧ invariant after := by
  induction chain with
  | refl => exact ⟨filed, holds⟩
  | tail _ last ih => exact ⟨last.files ih.1, effect _ _ last ih.1 ih.2⟩

theorem Store.effects_self {permission : Permission} (runtime : Runtime) (store : Store) : store.Effects runtime permission store := fun _ => .refl

theorem Store.effects_trans {permission : Permission} (runtime : Runtime) (first middle last : Store) (start : first.Effects runtime permission middle)
    (rest : middle.Effects runtime permission last) : first.Effects runtime permission last :=
  fun filed => (start filed).trans (rest (effects_file (start filed) filed))

theorem TrustEffect.effects {runtime : Runtime} {permission : Permission} {before after : Store} (effect : TrustEffect runtime permission before after) :
    before.Effects runtime permission after := fun _ => .single effect

theorem Store.SameTrust.effects {runtime : Runtime} {permission : Permission} {before after : Store} (same : before.SameTrust after) :
    before.Effects runtime permission after := (TrustEffect.elsewhere same).effects

abbrev Effecting {α : Type} (runtime : Runtime) (permission : Permission) (body : StoreProcedure α) : Prop :=
  Guarantees (Store.Effects runtime permission) body

section Rules

variable {α β : Type} {runtime : Runtime} {permission : Permission} {store : Store}

theorem effecting_pure (value : α) : Effecting runtime permission (pure value) :=
  guarantees_pure (Store.effects_self runtime) value

theorem effecting_raise (error : Raised) : Effecting runtime permission (raise error : StoreProcedure α) :=
  guarantees_raise (Store.effects_self runtime) error

theorem effecting_bind {first : StoreProcedure α} {next : α → StoreProcedure β} (start : Effecting runtime permission first)
    (rest : ∀ value, Effecting runtime permission (next value)) : Effecting runtime permission (first >>= next) :=
  guarantees_bind (Store.effects_trans runtime) start rest

theorem effecting_read {next : Store → StoreProcedure β} (rest : ∀ store, Effecting runtime permission (next store)) :
    Effecting runtime permission (Procedure.state >>= next) :=
  effecting_bind (guarantees_state (Store.effects_self runtime)) rest

theorem effecting_demand {condition : Prop} [Decidable condition] (error : Raised) :
    Effecting runtime permission (demand condition error) :=
  guarantees_demand (Store.effects_self runtime) error

theorem effecting_onlyIf {condition : Prop} [Decidable condition] {body : StoreProcedure Unit}
    (effecting : Effecting runtime permission body) : Effecting runtime permission (onlyIf condition body) :=
  guarantees_onlyIf (Store.effects_self runtime) effecting

theorem effecting_found (value : Option α) (error : Raised) : Effecting runtime permission (found value error) :=
  guarantees_found (Store.effects_self runtime) value error

theorem effecting_relabel {body : StoreProcedure α} {rename : Raised → Raised} (effecting : Effecting runtime permission body) :
    Effecting runtime permission (body.relabel rename) :=
  guarantees_relabel effecting

theorem effecting_same {body : StoreProcedure α} (same : Guarantees Store.SameTrust body) : Effecting runtime permission body :=
  fun store => (same store).effects

/-- The rest of a procedure, after a part that went through some effects. -/
theorem effects_then {first : StoreProcedure α} {next : α → StoreProcedure β} {reached : Except Raised α → Store → Prop}
    (filed : store.Filed)
    (start : first.Ends store fun outcome after => store.Effects runtime permission after ∧ reached outcome after)
    (rest : ∀ value after, after.Filed → reached (.ok value) after →
      (next value).Ends after fun _ last => after.Effects runtime permission last) :
    (first >>= next).Ends store fun _ last => store.Effects runtime permission last := by
  refine Ends.bind start (fun value after ends => ?_) fun error after ends => ends.1
  have still : after.Filed := effects_file (ends.1 filed) filed
  exact (rest value after still ends.2).mono fun _ last effects => Store.effects_trans _ _ _ _ ends.1 effects

/-- A procedure has its effects in every store that keeps its records under their identifiers. -/
theorem effecting_of {body : StoreProcedure α}
    (effects : ∀ store : Store, store.Filed → body.Ends store fun _ after => store.Effects runtime permission after) :
    Effecting runtime permission body :=
  fun store filed => effects store filed filed

end Rules

section Services

variable {runtime : Runtime} {permission : Permission} {store : Store}

theorem adjust_here {leases : Table String CapabilityLease} {key : String} {lease : CapabilityLease}
    (stored : leases.get? key = some lease) (change : CapabilityLease → CapabilityLease) :
    (leases.adjust key change).get? key = some (change lease) := by simp [stored]

theorem adjust_elsewhere (leases : Table String CapabilityLease) {key other : String} (different : other ≠ key)
    (change : CapabilityLease → CapabilityLease) : (leases.adjust key change).get? other = leases.get? other := by
  simp [different]

/-- A stored lease, refreshed: it is as it was, or it has expired. -/
theorem refreshLeaseStatus_effects (permission : Permission) {leaseId : String} {lease : CapabilityLease} (filed : store.Filed)
    (stored : store.capabilityLeases.get? leaseId = some lease) :
    (refreshLeaseStatus runtime lease).Ends store fun outcome after => store.Effects runtime permission after ∧
      ∃ refreshed, outcome = .ok refreshed ∧ after.capabilityLeases.get? leaseId = some refreshed ∧
        after.approvalRequests = store.approvalRequests ∧ after.proposedActions = store.proposedActions ∧
        after.policyDecisions = store.policyDecisions ∧ after.actionConsumptions = store.actionConsumptions := by
  obtain rfl := filed.leases leaseId lease stored
  simp only [refreshLeaseStatus, ends_ite, ends_bind, ends_readClock, continue_ok, ends_pure]
  refine ⟨fun active => ⟨fun ended => ?_, fun _ => ?_⟩, fun _ => ?_⟩
  · simp only [changeLease, ends_modify, continue_ok, ends_bind]
    refine ⟨fun filed => .single ?_, _, rfl, adjust_here stored _, rfl, rfl, rfl, rfl⟩
    exact .expire lease (runtime.clock store.ticks) _ stored active
      ⟨store.ticks, Nat.le_refl _, Nat.lt_add_of_pos_right (by decide : 0 < 3), rfl⟩ ended
      ⟨rfl, rfl, rfl, rfl, rfl, rfl, rfl, rfl, rfl, Nat.le_add_right _ 3⟩
  · exact ⟨(readClock_same runtime store).effects, lease, rfl, stored, rfl, rfl, rfl, rfl⟩
  · exact ⟨Store.effects_self runtime store, lease, rfl, stored, trivial, trivial, trivial, trivial⟩

theorem leaseOfAction_effects (permission : Permission) (filed : store.Filed) (action : ProposedAction) :
    (leaseOfAction runtime action).Ends store fun outcome after => store.Effects runtime permission after ∧
      outcome = .ok (after.capabilityLeases.get? (action.leaseId.getD "")) ∧
      after.proposedActions = store.proposedActions ∧ after.policyDecisions = store.policyDecisions ∧
      after.actionConsumptions = store.actionConsumptions := by
  simp only [leaseOfAction, ends_bind, ends_state, continue_ok]
  split
  · rename_i lease stored
    rw [ends_bind]
    refine (refreshLeaseStatus_effects permission filed stored).mono fun outcome after ends => ?_
    obtain ⟨effects, refreshed, rfl, found, -, kept⟩ := ends
    exact ⟨effects, congrArg Except.ok found.symm, kept⟩
  · rename_i absent
    exact ⟨Store.effects_self runtime store, congrArg Except.ok absent.symm, rfl, rfl, rfl⟩

theorem revokeCapabilityLease_effects {leaseId : String} {lease : CapabilityLease} (filed : store.Filed)
    (stored : store.capabilityLeases.get? leaseId = some lease) (user : AuthUser) (reason : String) :
    (revokeCapabilityLease runtime lease user reason).Ends store fun _ after => store.Effects runtime permission after := by
  refine effects_then filed (refreshLeaseStatus_effects permission filed stored) fun refreshed after still ends => ?_
  obtain ⟨_, ⟨rfl⟩, found, -⟩ := ends
  obtain rfl := still.leases leaseId refreshed found
  simp only [ends_ite, ends_pure]
  refine ⟨fun _ => Store.effects_self runtime after, fun _ => ?_⟩
  refine ends_guard (Store.effects_self runtime after) fun active => ?_
  simp only [ends_bind, ends_readClock, continue_ok, changeLease, ends_modify]
  exact TrustEffect.effects (.revoke refreshed user.id reason _ _ found active
    ⟨rfl, rfl, rfl, rfl, rfl, rfl, rfl, rfl, rfl, Nat.le_add_right _ 3⟩)

theorem recordReviewerAttestation_attests (approvalRequestId : String) (decision : ReviewerAttestationDecision)
    (reason : String) (user : AuthUser) :
    (recordReviewerAttestation runtime approvalRequestId decision reason user).Ends store
      fun _ after => Attests store after := by
  have same : Attests store store := .unchanged (Store.sameTrust_self store)
  refine ends_read (ends_lookup same fun approval stored => ends_guard same fun _ => ends_guard same fun other => ?_)
  dsimp only
  split
  · exact ends_demand.mpr ⟨fun _ => same, fun _ => same⟩
  · simp only [ends_bind, ends_readClock, continue_ok, ends_modify, appendTrustEvent, persist]
    refine .recorded approval _ ⟨approvalRequestId, stored⟩ ?_ ?_ ?_
      ⟨rfl, rfl, rfl, set_named ReviewerAttestation.id rfl, rfl, rfl, rfl, rfl, rfl, Nat.le_add_right _ 2⟩
    · exact runtime.newId_fresh "attestation" store.reviewerAttestations.keys
    · rfl
    · exact other

theorem Issues.effects {payload : CapabilityLeaseCreate} {outcome : Except Raised CapabilityLease} {after : Store}
    (valid : payload.scope.Valid) (issues : Issues runtime payload store outcome after) : store.Effects runtime permission after := by
  cases issues with
  | refused error shut => exact Store.effects_self runtime store
  | taken error ticks approval lease now onward =>
    exact Store.SameTrust.effects ⟨rfl, rfl, rfl, rfl, rfl, rfl, rfl, rfl, rfl, onward⟩
  | returned ticks approval lease now onward =>
    exact Store.SameTrust.effects ⟨rfl, rfl, rfl, rfl, rfl, rfl, rfl, rfl, rfl, onward⟩
  | granted outcome after approval lease admits grants fresh sole stored answer =>
    exact TrustEffect.effects (.issue payload approval lease valid admits grants fresh sole stored)

theorem evaluateGatewayAction_effects (filed : store.Filed) {action : ProposedAction}
    (permitted : permission.permits store action) (actor : String) :
    (evaluateGatewayAction runtime action actor).Ends store fun _ after => store.Effects runtime permission after := by
  refine effects_then filed (leaseOfAction_effects permission filed action) fun lease after still ends => ?_
  obtain ⟨answer, actions, decisions, consumptions⟩ := ends
  obtain rfl : lease = after.capabilityLeases.get? (action.leaseId.getD "") := by simpa using answer
  have allowed := permission.framed store after action actions decisions consumptions permitted
  simp only [ends_bind, ends_modify, continue_ok, appendTrustEvent, ends_readClock, storeDecision, ends_state,
    ends_pure, persist]
  refine TrustEffect.effects (.evaluate action _ (runtime.clock (after.ticks + 1)) allowed ⟨_, Nat.le_succ _, ?_, rfl⟩ ?_
    ⟨rfl, rfl, rfl, rfl, rfl, rfl, set_named PolicyDecision.id rfl, rfl, rfl, Nat.le_add_right _ 4⟩)
  · exact Nat.add_lt_add_left (by decide : 1 < 4) after.ticks
  · refine ⟨runtime.newId_fresh _ _, rfl, rfl, rfl, after.ticks + 2, Nat.le_add_right _ 2, ?_, rfl⟩
    exact Nat.add_lt_add_left (by decide : 2 < 4) after.ticks

/-- A first human verdict on a stored action that waits for one. -/
theorem storeAuthorization_effects {action : ProposedAction} {current : PolicyDecision}
    (stored : store.proposedActions.get? action.id = some action)
    (latest : store.latestPolicyDecision action.id = some current) (undecided : current.decision = .requireApproval)
    (first : store.authorizationOf action.id = none) (verdict : ActionAuthorizationDecision) (reason : String)
    (user : AuthUser) :
    (storeAuthorization runtime action current verdict reason user).Ends store
      fun _ after => store.Effects runtime permission after := by
  simp only [storeAuthorization, ends_bind, ends_readClock, continue_ok, ends_state, ends_modify, storeDecision,
    ends_pure, appendTrustEvent]
  refine TrustEffect.effects (.authorize action current _ _ stored latest undecided first ?_ ?_ ?_ ?_
    ⟨rfl, rfl, rfl, rfl, rfl, rfl, set_named PolicyDecision.id rfl, set_named ActionAuthorization.id rfl, rfl,
      Nat.le_add_right _ 3⟩)
  · exact runtime.newId_fresh "action_authorization" store.actionAuthorizations.keys
  · rfl
  · simp [verifyActionAuthorization, verifyPayloadSignature, signedAuthorization, authorizationSignaturePayload]
  · refine ⟨runtime.newId_fresh _ _, rfl, rfl, rfl, store.ticks + 1, Nat.le_add_right _ 1, ?_, rfl⟩
    exact Nat.add_lt_add_left (by decide : 1 < 3) store.ticks

theorem verifyHumanAllow_ends (action : ProposedAction) :
    (verifyHumanAllow runtime action).Ends store fun _ after => after = store :=
  ends_read (ends_lookup rfl fun _ _ => ends_guard rfl fun _ => ends_demand.mpr ⟨fun _ => rfl, fun _ => rfl⟩)

theorem chargeLease_ends (lease : CapabilityLease) (consumption : ActionConsumption) :
    (chargeLease runtime lease consumption).Ends store fun outcome after =>
      ((∃ error, outcome = .error error) ∧ after = store) ∨
        (outcome = .ok () ∧ lease.CanPay consumption ∧ ∃ now, after = { store with
          ticks := store.ticks + 1
          capabilityLeases := store.capabilityLeases.adjust lease.id (lease.charge consumption now) }) := by
  unfold chargeLease
  refine ends_guard (.inl ⟨⟨_, rfl⟩, rfl⟩) fun seconds => ends_guard (.inl ⟨⟨_, rfl⟩, rfl⟩) fun cost => ?_
  refine ends_guard (.inl ⟨⟨_, rfl⟩, rfl⟩) fun pullRequests => ends_guard (.inl ⟨⟨_, rfl⟩, rfl⟩) fun retries => ?_
  exact .inr ⟨rfl, ⟨seconds, cost, pullRequests, retries⟩, _, rfl⟩

theorem consumeEffectiveAction_effects (actionId : String) (consumption : ActionConsumption) (actor : String) :
    Effecting runtime permission (consumeEffectiveAction runtime actionId consumption actor) := by
  refine effecting_of fun store filed => ends_read (ends_lookup (Store.effects_self _ _) fun action stored => ?_)
  obtain rfl := filed.actions actionId action stored
  refine ends_lookup (Store.effects_self _ _) fun decision latest => ?_
  obtain ⟨latest, allowed⟩ := Option.filter_eq_some_iff.mp latest
  -- the check of a human's allow writes nothing
  have verified : (onlyIf (Text.contains decision.evaluatedPolicyVersion humanDecisionMark = true)
      (verifyHumanAllow runtime action)).Ends store fun _ after => after = store :=
    ends_onlyIf.mpr ⟨fun _ => verifyHumanAllow_ends action, fun _ => rfl⟩
  refine Ends.bind verified (fun _ after same => ?_) fun error after same => same ▸ Store.effects_self _ _
  subst same
  split
  · exact effecting_demand _ after
  · rename_i first
    refine ends_lookup (Store.effects_self _ _) fun lease held => ?_
    -- the look at the lease leaves the action, its decision and its consumption
    refine effects_then filed (refreshLeaseStatus_effects permission filed held) fun refreshed middle still ends => ?_
    obtain ⟨_, ⟨rfl⟩, found, -, actions, decisions, consumptions⟩ := ends
    have named := still.leases _ refreshed found
    refine ends_guard (Store.effects_self _ _) fun active => ?_
    refine Ends.bind (chargeLease_ends refreshed consumption) (fun _ paid ends => ?_) fun error paid ends => ?_
    · -- the charge went through: this is the one effect of the request
      obtain ⟨⟨error, impossible⟩, -⟩ | ⟨-, pays, now, rfl⟩ := ends
      · cases impossible
      simp only [ends_bind, ends_modify, continue_ok, appendTrustEvent, ends_readClock, persist]
      refine TrustEffect.effects (.consume action decision refreshed consumption now ?_ ?_ ?_ ?_ named ?_ active pays
        ⟨rfl, rfl, rfl, rfl, rfl, rfl, rfl, rfl, rfl, Nat.le_add_right _ 2⟩)
      · rw [actions]
        exact stored
      · rw [latest_congr _ decisions]
        exact latest
      · simpa using allowed
      · rw [consumptions]
        exact first
      · rw [named]
        exact found
    · obtain ⟨-, same⟩ | ⟨impossible, -⟩ := ends
      · exact same ▸ Store.effects_self _ _
      · cases impossible

end Services

end ControlTower
