import ControlTower.Run.Accounts

/-! The two services that record a consumption. The routes use the one that looks at
the effective decision; the gateway has another one of its own. -/

set_option autoImplicit false

namespace ControlTower

open Foundation
open Foundation.Procedure

section Services

/-- The first recorded decision on an action. -/
def Store.firstPolicyDecision (store : Store) (actionId : String) : Option PolicyDecision :=
  store.policyDecisions.values.find? fun decision => decision.proposedActionId == actionId

/-- Add a consumption to the totals of a lease; the totals are not compared with the scope. -/
def addToLease (runtime : Runtime) (consumption : ActionConsumption) (lease : CapabilityLease) : StoreProcedure Unit := do
  let now ← readClock runtime
  changeLease lease.id (lease.charge consumption now)

def consumeGatewayAction (runtime : Runtime) (actionId : String) (consumption : ActionConsumption)
    (actor : String) : StoreProcedure Unit := do
  let store ← Procedure.state
  let action ← found (store.proposedActions.get? actionId) (.valueError "Proposed action not found.")
  let _ ← found ((store.firstPolicyDecision action.id).filter (·.decision == .allow))
    (.trustControlConflict "Only an ALLOW decision can be consumed.")
  match store.actionConsumptions.get? action.id with
  | some existing =>
      demand (existing = consumption)
        (.trustControlConflict "Action consumption is immutable once recorded.")
  | none => do
      let lease ← found (store.capabilityLeases.get? (action.leaseId.getD ""))
        (.trustControlConflict "Allowed action is missing its capability lease.")
      let lease ← refreshLeaseStatus runtime lease
      demand (lease.status = .active)
        (.trustControlConflict "Capability lease is no longer active.")
      addToLease runtime consumption lease
      .modify fun store => { store with
        actionConsumptions := store.actionConsumptions.set action.id consumption }
      appendTrustEvent runtime .actionConsumed "proposed_action" action.id actor action.correlationId
        (.object [("actual_cost_usd", usdDocument consumption.actualCostUsd),
          ("actual_runtime_seconds", .number consumption.actualRuntimeSeconds),
          ("evidence_hash", .text (runtime.sha256Hex consumption.evidence)),
          ("lease_id", .text lease.id), ("output_reference", .ofText consumption.outputReference),
          ("pull_requests_created", .number consumption.pullRequestsCreated),
          ("retry_consumed", .flag consumption.retryConsumed)])
      persist

end Services

section Conditions

variable (runtime : Runtime) (store : Store) (action : ProposedAction) (consumption : ActionConsumption)

/-- The first decision on the action allows it. -/
def Store.GatewayAllows : Prop :=
  ∃ decision, store.firstPolicyDecision action.id = some decision ∧ decision.decision = .allow

/-- The latest decision on the action allows it; where a human made it, a valid
authorization of this very action is on record. -/
def Store.EffectivelyAllows : Prop :=
  ∃ decision, store.latestPolicyDecision action.id = some decision ∧ decision.decision = .allow ∧
    (Text.contains decision.evaluatedPolicyVersion humanDecisionMark = true →
      ∃ authorization, store.authorizationOf action.id = some authorization ∧ authorization.decision = .allow ∧
        verifyActionAuthorization runtime authorization action = true)

/-- The consumption is on record, or there is none and the lease of the action is active. -/
def Store.Recordable : Prop :=
  match store.actionConsumptions.get? action.id with
  | some existing => existing = consumption
  | none => ∃ lease, store.capabilityLeases.get? (action.leaseId.getD "") = some lease ∧ lease.status = .active ∧
      runtime.clock store.ticks < lease.expiresAt

/-- A consumption that is not on record yet fits in what is left of the lease. -/
def Store.Fits : Prop :=
  store.actionConsumptions.get? action.id = none → ∀ lease,
    store.capabilityLeases.get? (action.leaseId.getD "") = some lease → lease.CanPay consumption

/-- The totals of the leases, and the consumptions. -/
def Store.accounts : Table String Amounts × Table String ActionConsumption :=
  (store.capabilityLeases.mapValues fun _ lease => lease.consumed, store.actionConsumptions)

/-- The totals and the consumptions once a consumption is on record. -/
def Store.accountsWith : Table String Amounts × Table String ActionConsumption :=
  match store.actionConsumptions.get? action.id, store.capabilityLeases.get? (action.leaseId.getD "") with
  | none, some lease =>
      ((store.capabilityLeases.adjust lease.id (lease.charge consumption 0)).mapValues fun _ lease => lease.consumed,
        store.actionConsumptions.set action.id consumption)
  | _, _ => store.accounts

/-- A service that records the consumption under a condition, and refuses it otherwise. -/
def Store.Takes (condition : Prop) (outcome : Except Raised Unit) (after : Store) : Prop :=
  (condition ∧ outcome = .ok () ∧ after.accounts = store.accountsWith action consumption) ∨
    (¬condition ∧ (∃ error, outcome = .error error) ∧ after.accounts = store.accounts)

end Conditions

section Recording

variable {runtime : Runtime} {store : Store} {action : ProposedAction} {consumption : ActionConsumption} {actor : String}

/-- What both services do for an action that is allowed; they differ in how the lease
pays and in what the event tells. -/
def recordConsumption (runtime : Runtime) (action : ProposedAction) (consumption : ActionConsumption) (actor : String)
    (pay : CapabilityLease → StoreProcedure Unit) (payload : CapabilityLease → Document) (store : Store) :
    StoreProcedure Unit :=
  match store.actionConsumptions.get? action.id with
  | some existing =>
      demand (existing = consumption)
        (.trustControlConflict "Action consumption is immutable once recorded.")
  | none => do
      let lease ← found (store.capabilityLeases.get? (action.leaseId.getD ""))
        (.trustControlConflict "Allowed action is missing its capability lease.")
      let lease ← refreshLeaseStatus runtime lease
      demand (lease.status = .active)
        (.trustControlConflict "Capability lease is no longer active.")
      pay lease
      .modify fun store => { store with
        actionConsumptions := store.actionConsumptions.set action.id consumption }
      appendTrustEvent runtime .actionConsumed "proposed_action" action.id actor action.correlationId (payload lease)
      persist

/-- A payment changes the totals of the lease where the lease can pay, and nothing otherwise. -/
def Pays (runtime : Runtime) (consumption : ActionConsumption) (canPay : CapabilityLease → Prop)
    (pay : CapabilityLease → StoreProcedure Unit) : Prop :=
  ∀ lease store, (pay lease).Ends store fun outcome after =>
    (¬canPay lease ∧ (∃ error, outcome = .error error) ∧ after = store) ∨
      (canPay lease ∧ outcome = .ok () ∧ after = { store with
        ticks := store.ticks + 1
        capabilityLeases := store.capabilityLeases.adjust lease.id (lease.charge consumption (runtime.clock store.ticks)) })

theorem chargeLease_pays : Pays runtime consumption (·.CanPay consumption) fun lease =>
    chargeLease runtime lease consumption := by
  intro lease store
  unfold chargeLease
  apply ends_gate
  · exact fun fails => .inl ⟨fun pays => fails pays.runtime, ⟨_, rfl⟩, rfl⟩
  intro seconds
  apply ends_gate
  · exact fun fails => .inl ⟨fun pays => fails pays.cost, ⟨_, rfl⟩, rfl⟩
  intro cost
  apply ends_gate
  · exact fun fails => .inl ⟨fun pays => fails pays.pullRequests, ⟨_, rfl⟩, rfl⟩
  intro pullRequests
  apply ends_gate
  · exact fun fails => .inl ⟨fun pays => fails pays.retries, ⟨_, rfl⟩, rfl⟩
  intro retries
  exact .inr ⟨⟨seconds, cost, pullRequests, retries⟩, rfl, rfl⟩

theorem addToLease_pays : Pays runtime consumption (fun _ => True) (addToLease runtime consumption) :=
  fun _ _ => .inr ⟨trivial, rfl, rfl⟩

/-- A lease that is stored under its own identifier is active and not over, or the
refreshed one is not active; the totals stand. -/
theorem refreshLeaseStatus_stands (lease : CapabilityLease) :
    (refreshLeaseStatus runtime lease).Ends store fun outcome after => ∃ refreshed, outcome = .ok refreshed ∧
      after.accounts = store.accounts ∧
        ((refreshed = lease ∧ lease.status = .active ∧ runtime.clock store.ticks < lease.expiresAt ∧
            after.capabilityLeases = store.capabilityLeases ∧ after.actionConsumptions = store.actionConsumptions) ∨
          (refreshed.status ≠ .active ∧ ¬(lease.status = .active ∧ runtime.clock store.ticks < lease.expiresAt))) := by
  unfold refreshLeaseStatus
  rw [ends_ite]
  constructor
  · intro active
    simp only [ends_bind, ends_readClock, continue_ok, ends_ite]
    constructor
    · intro ended
      simp only [changeLease, ends_modify, continue_ok, appendTrustEvent, ends_bind, ends_readClock, persist, ends_pure]
      have kept : ∀ updatedAt : Instant,
          ((store.capabilityLeases.adjust lease.id fun lease => { lease with status := .expired, updatedAt }).mapValues
            fun _ lease => lease.consumed) = store.capabilityLeases.mapValues fun _ lease => lease.consumed :=
        fun updatedAt => Table.mapValues_adjust_same _ _ fun _ => rfl
      refine ⟨_, rfl, ?_, .inr ⟨?_, ?_⟩⟩
      · exact Prod.ext (kept _) rfl
      · intro impossible
        cases impossible
      · exact fun both => Nat.not_lt.mpr ended both.2
    · intro going
      exact ⟨lease, rfl, rfl, .inl ⟨rfl, active, Nat.not_le.mp going, rfl, rfl⟩⟩
  · intro inactive
    exact ⟨lease, rfl, rfl, .inr ⟨inactive, fun both => inactive both.1⟩⟩

/-- An allowed action is recorded where it is recordable and its lease can pay. -/
theorem recordConsumption_takes {canPay : CapabilityLease → Prop} {pay : CapabilityLease → StoreProcedure Unit}
    (pays : Pays runtime consumption canPay pay) (payload : CapabilityLease → Document) :
    (recordConsumption runtime action consumption actor pay payload store).Ends store
      (store.Takes action consumption (store.Recordable runtime action consumption ∧
        (store.actionConsumptions.get? action.id = none → ∀ lease,
          store.capabilityLeases.get? (action.leaseId.getD "") = some lease → canPay lease))) := by
  unfold recordConsumption Store.Takes Store.Recordable Store.accountsWith
  -- a consumption on record is given back if it is the same, and nothing is written
  cases recorded : store.actionConsumptions.get? action.id with
  | some existing =>
    dsimp only
    rw [ends_demand]
    constructor
    · intro same
      exact .inl ⟨⟨same, fun impossible => by cases impossible⟩, rfl, rfl⟩
    · intro other
      exact .inr ⟨fun both => other both.1, ⟨_, rfl⟩, rfl⟩
  | none =>
    dsimp only
    rw [ends_bind, ends_found]
    constructor
    · intro lease held
      rw [continue_ok]
      -- the look at the lease tells whether it is still active
      apply Ends.bind (refreshLeaseStatus_stands lease)
      · rintro refreshed middle ⟨_, same, kept, looks⟩
        cases same
        apply ends_gate
        · intro inactive
          rcases looks with ⟨rfl, active, -⟩ | ⟨-, over_⟩
          · exact (inactive active).elim
          · -- the look found the lease over, so nothing could be recorded
            refine .inr ⟨?_, ⟨_, rfl⟩, kept⟩
            rintro ⟨⟨other, found, current⟩, -⟩
            rw [held] at found
            cases found
            exact over_ current
        · intro active
          rcases looks with ⟨rfl, -, going, leases, consumptions⟩ | ⟨inactive, -⟩
          · apply Ends.bind (pays refreshed middle)
            · rintro _ paid (⟨-, ⟨error, impossible⟩, -⟩ | ⟨able, -, rfl⟩)
              · cases impossible
              simp only [ends_bind, ends_modify, continue_ok, appendTrustEvent, ends_readClock, persist]
              refine .inl ⟨⟨⟨refreshed, held, active, going⟩, fun _ other found => ?_⟩, trivial, ?_⟩
              · rw [held] at found
                cases found
                exact able
              · rw [held]
                -- the payment and the record: the totals of the lease grow by the consumption at whatever time
                have totals : ∀ now : Instant,
                    ((middle.capabilityLeases.adjust refreshed.id (refreshed.charge consumption now)).mapValues
                        fun _ lease => lease.consumed) =
                      (store.capabilityLeases.adjust refreshed.id (refreshed.charge consumption 0)).mapValues
                        fun _ lease => lease.consumed := by
                  intro now
                  rw [leases, Table.mapValues_adjust, Table.mapValues_adjust]
                  rfl
                apply Prod.ext
                · exact totals _
                · exact congrArg (·.set action.id consumption) consumptions
            · rintro error paid (⟨unable, -, rfl⟩ | ⟨-, impossible, -⟩)
              · refine .inr ⟨fun both => unable (both.2 rfl refreshed held), ⟨_, rfl⟩, kept⟩
              · cases impossible
          · exact (inactive active).elim
      · rintro error middle ⟨refreshed, impossible, -⟩
        cases impossible
    · -- the action names no lease on record
      intro missing
      refine .inr ⟨?_, ⟨_, rfl⟩, rfl⟩
      rintro ⟨⟨lease, found, -⟩, -⟩
      rw [missing] at found
      cases found

/-- The gateway looks at the first decision, and at no limit. -/
theorem consumeGatewayAction_takes {actionId : String} (stored : store.proposedActions.get? actionId = some action) :
    (consumeGatewayAction runtime actionId consumption actor).Ends store
      (store.Takes action consumption (store.GatewayAllows action ∧ store.Recordable runtime action consumption)) := by
  unfold consumeGatewayAction
  apply ends_read
  rw [stored, ends_bind, ends_found_some, continue_ok, ends_bind, ends_found]
  constructor
  · intro decision first
    obtain ⟨first, allowed⟩ := Option.filter_eq_some_iff.mp first
    have allows : store.GatewayAllows action := ⟨decision, first, by simpa using allowed⟩
    have condition : (store.GatewayAllows action ∧ store.Recordable runtime action consumption) =
        (store.Recordable runtime action consumption ∧ (store.actionConsumptions.get? action.id = none → ∀ lease,
          store.capabilityLeases.get? (action.leaseId.getD "") = some lease → True)) := by
      simp only [allows, true_and, implies_true, and_true]
    rw [condition]
    exact recordConsumption_takes addToLease_pays _
  · intro none_
    refine .inr ⟨?_, ⟨_, rfl⟩, rfl⟩
    rintro ⟨⟨decision, first, allowed⟩, -⟩
    rw [first, Option.filter_some, allowed] at none_
    cases none_

theorem verifyHumanAllow_decides (action : ProposedAction) :
    (verifyHumanAllow runtime action).Ends store fun outcome after => after = store ∧
      ((outcome = .ok () ∧ ∃ authorization, store.authorizationOf action.id = some authorization ∧
          authorization.decision = .allow ∧ verifyActionAuthorization runtime authorization action = true) ∨
        ((∃ error, outcome = .error error) ∧ ¬∃ authorization, store.authorizationOf action.id = some authorization ∧
          authorization.decision = .allow ∧ verifyActionAuthorization runtime authorization action = true)) := by
  unfold verifyHumanAllow
  apply ends_read
  rw [ends_bind, ends_found]
  constructor
  · intro authorization recorded
    rw [continue_ok]
    apply ends_gate
    · intro blocked
      refine ⟨rfl, .inr ⟨⟨_, rfl⟩, ?_⟩⟩
      rintro ⟨other, found, allowed, -⟩
      rw [recorded] at found
      cases found
      exact blocked allowed
    intro allowed
    rw [ends_demand]
    constructor
    · intro valid
      exact ⟨rfl, .inl ⟨rfl, authorization, recorded, allowed, valid⟩⟩
    · intro invalid
      refine ⟨rfl, .inr ⟨⟨_, rfl⟩, ?_⟩⟩
      rintro ⟨other, found, -, valid⟩
      rw [recorded] at found
      cases found
      exact invalid valid
  · intro missing
    refine ⟨rfl, .inr ⟨⟨_, rfl⟩, ?_⟩⟩
    rintro ⟨other, found, -⟩
    rw [missing] at found
    cases found

/-- The routes' service looks at the effective decision and at the limits. -/
theorem consumeEffectiveAction_takes {actionId : String} (stored : store.proposedActions.get? actionId = some action) :
    (consumeEffectiveAction runtime actionId consumption actor).Ends store
      (store.Takes action consumption (store.EffectivelyAllows runtime action ∧
        store.Recordable runtime action consumption ∧ store.Fits action consumption)) := by
  unfold consumeEffectiveAction
  apply ends_read
  rw [stored, ends_bind, ends_found_some, continue_ok, ends_bind, ends_found]
  constructor
  · intro decision latest
    obtain ⟨latest, allowed⟩ := Option.filter_eq_some_iff.mp latest
    have allow : decision.decision = .allow := by simpa using allowed
    rw [continue_ok]
    -- an effective allow leaves the record of the consumption to decide
    have records (allows : store.EffectivelyAllows runtime action) :
        (recordConsumption runtime action consumption actor (fun lease => chargeLease runtime lease consumption)
          (fun lease => .object [("actual_cost_usd", usdDocument consumption.actualCostUsd),
            ("actual_runtime_seconds", .number consumption.actualRuntimeSeconds),
            ("effective_policy_decision_id", .text decision.id),
            ("evidence_hash", .text (runtime.sha256Hex consumption.evidence)),
            ("lease_id", .text lease.id), ("output_reference", .ofText consumption.outputReference),
            ("pull_requests_created", .number consumption.pullRequestsCreated),
            ("retry_consumed", .flag consumption.retryConsumed)]) store).Ends store
          (store.Takes action consumption (store.EffectivelyAllows runtime action ∧
            store.Recordable runtime action consumption ∧ store.Fits action consumption)) := by
      simp only [allows, true_and]
      exact recordConsumption_takes chargeLease_pays _
    have refuses (forbids : ¬store.EffectivelyAllows runtime action) (error : Raised) :
        store.Takes action consumption (store.EffectivelyAllows runtime action ∧
          store.Recordable runtime action consumption ∧ store.Fits action consumption) (.error error) store :=
      .inr ⟨fun both => forbids both.1, ⟨error, rfl⟩, rfl⟩
    rw [ends_bind, ends_onlyIf]
    constructor
    · -- a human's allow has to verify
      intro human
      refine (verifyHumanAllow_decides action).mono ?_
      rintro outcome after ⟨rfl, ⟨rfl, valid⟩ | ⟨⟨error, rfl⟩, invalid⟩⟩
      · exact records ⟨decision, latest, allow, fun _ => valid⟩
      · apply refuses
        rintro ⟨other, found, -, needs⟩
        rw [latest] at found
        cases found
        exact invalid (needs human)
    · intro machine
      exact records ⟨decision, latest, allow, fun human => (machine human).elim⟩
  · -- no decision allows the action
    intro none_
    refine .inr ⟨?_, ⟨_, rfl⟩, rfl⟩
    rintro ⟨⟨decision, latest, allowed, -⟩, -⟩
    rw [latest, Option.filter_some, allowed] at none_
    cases none_

end Recording

section Agreement

/-- Both services succeed with the same totals and consumptions, or both refuse and
leave the totals and consumptions as they are. -/
def PathsAgree (runtime : Runtime) (store : Store) (actionId : String) (consumption : ActionConsumption)
    (actor : String) : Prop :=
  let gateway := (consumeGatewayAction runtime actionId consumption actor).run store
  let effective := (consumeEffectiveAction runtime actionId consumption actor).run store
  (gateway.1 = .ok () ∧ effective.1 = .ok () ∧ gateway.2.accounts = effective.2.accounts) ∨
    ((∃ error, gateway.1 = .error error) ∧ (∃ error, effective.1 = .error error) ∧
      gateway.2.accounts = store.accounts ∧ effective.2.accounts = store.accounts)

/-- The first decision on a recordable action is an ALLOW exactly if the effective one
is, and the consumption fits. -/
def SameRuling (runtime : Runtime) (store : Store) (actionId : String) (consumption : ActionConsumption) : Prop :=
  ∀ action, store.proposedActions.get? actionId = some action → store.Recordable runtime action consumption →
    (store.GatewayAllows action ↔ store.EffectivelyAllows runtime action ∧ store.Fits action consumption)

variable {runtime : Runtime} {store : Store} {action : ProposedAction} {consumption : ActionConsumption}

/-- Two services that record the same consumption agree exactly if their conditions do. -/
theorem takes_agree_iff {first second : Prop} {gateway effective : Except Raised Unit × Store}
    (one : store.Takes action consumption first gateway.1 gateway.2)
    (other : store.Takes action consumption second effective.1 effective.2) :
    ((gateway.1 = .ok () ∧ effective.1 = .ok () ∧ gateway.2.accounts = effective.2.accounts) ∨
      ((∃ error, gateway.1 = .error error) ∧ (∃ error, effective.1 = .error error) ∧
        gateway.2.accounts = store.accounts ∧ effective.2.accounts = store.accounts)) ↔ (first ↔ second) := by
  rcases one with ⟨holds, done, charged⟩ | ⟨fails, ⟨error, refused⟩, kept⟩
  · rcases other with ⟨also, doneToo, chargedToo⟩ | ⟨failsToo, ⟨error, refusedToo⟩, -⟩
    · exact iff_of_true (.inl ⟨done, doneToo, charged.trans chargedToo.symm⟩) (iff_of_true holds also)
    · apply iff_of_false
      · rintro (⟨-, impossible, -⟩ | ⟨⟨error, impossible⟩, -⟩)
        · rw [refusedToo] at impossible
          cases impossible
        · rw [done] at impossible
          cases impossible
      · exact fun same => failsToo (same.mp holds)
  · rcases other with ⟨also, doneToo, -⟩ | ⟨failsToo, refusedToo, keptToo⟩
    · apply iff_of_false
      · rintro (⟨impossible, -⟩ | ⟨-, ⟨error, impossible⟩, -⟩)
        · rw [refused] at impossible
          cases impossible
        · rw [doneToo] at impossible
          cases impossible
      · exact fun same => fails (same.mpr also)
    · exact iff_of_true (.inr ⟨⟨error, refused⟩, refusedToo, kept, keptToo⟩) (iff_of_false fails failsToo)

/-- The two services agree on a consumption exactly if the action is unknown or not
recordable, or the first decision rules as the effective one within the limits. -/
theorem consumption_paths_agree_iff (runtime : Runtime) (store : Store) (actionId : String)
    (consumption : ActionConsumption) (actor : String) :
    PathsAgree runtime store actionId consumption actor ↔ SameRuling runtime store actionId consumption := by
  unfold PathsAgree SameRuling
  dsimp only
  cases stored : store.proposedActions.get? actionId with
  | none =>
    apply iff_of_true
    · right
      unfold consumeGatewayAction consumeEffectiveAction
      simp only [run_bind, run_state, stored, found, run_raise]
      exact ⟨⟨_, rfl⟩, ⟨_, rfl⟩, trivial, trivial⟩
    · intro action impossible
      cases impossible
  | some action =>
    rw [takes_agree_iff (consumeGatewayAction_takes stored) (consumeEffectiveAction_takes stored)]
    simp only [Option.some.injEq, forall_eq']
    tauto

/-- The sample lease and the action under it, and an hour of runtime for its 900 seconds. -/
def wholeHour : ActionConsumption := { tenSeconds with actualRuntimeSeconds := 3600 }

theorem gateway_overdraws : ¬ ∀ (runtime : Runtime) (store : Store),
    (runMachine runtime).Reachable Machine.anything store →
      ∀ actionId consumption actor, PathsAgree runtime store actionId consumption actor := by
  intro claim
  have agrees := claim (.plain true) _ (storeAfter_reachable (.plain true) (chargedRequests.take 2)) "action_1" wholeHour
    "owner@example.com"
  have accepts : ((consumeGatewayAction (.plain true) "action_1" wholeHour "owner@example.com").run
      (storeAfter (.plain true) (chargedRequests.take 2))).1.isOk = true := by decide +kernel
  have refuses : ((consumeEffectiveAction (.plain true) "action_1" wholeHour "owner@example.com").run
      (storeAfter (.plain true) (chargedRequests.take 2))).1.isOk = false := by decide +kernel
  rcases agrees with ⟨-, done, -⟩ | ⟨⟨error, refused⟩, -⟩
  · rw [done] at refuses
    cases refuses
  · rw [refused] at accepts
    cases accepts

end Agreement

end ControlTower
