import Mathlib.Algebra.Order.Ring.Rat
import Mathlib.Algebra.Group.Prod
import ControlTower.Trust.Leases

/-! The accounts of the leases: what a lease has consumed is the total of the
consumptions recorded for the actions that carry it, and stays within its scope. -/

set_option autoImplicit false

namespace ControlTower

open Foundation
open Relation (ReflTransGen)

/-- Seconds of runtime, cost, pull requests and retries. -/
abbrev Amounts : Type := Nat × Rat × Nat × Nat

def ActionConsumption.amounts (consumption : ActionConsumption) : Amounts :=
  (consumption.actualRuntimeSeconds, consumption.actualCostUsd, consumption.pullRequestsCreated,
    if consumption.retryConsumed then 1 else 0)

def CapabilityLease.consumed (lease : CapabilityLease) : Amounts :=
  (lease.consumedRuntimeSeconds, lease.consumedCostUsd, lease.consumedPullRequests, lease.consumedRetries)

def CapabilityScope.limits (scope : CapabilityScope) : Amounts :=
  (scope.maxRuntimeSeconds, scope.maxCostUsd, scope.maxPullRequests, scope.maxRetries)

/-- The lease that a recorded action carries now. -/
def Store.leaseOf (store : Store) (actionId : String) : Option String :=
  (store.proposedActions.get? actionId).map fun action => action.leaseId.getD ""

/-- The total of the recorded consumptions whose actions carry a lease. -/
def Store.spentOn (store : Store) (leaseId : String) : Amounts :=
  store.actionConsumptions.total fun actionId consumption =>
    if store.leaseOf actionId = some leaseId then consumption.amounts else 0

/-- The totals of every lease agree with the recorded consumptions and stay within its scope. -/
structure Store.Accounted (store : Store) : Prop where
  charged : ∀ leaseId lease, store.capabilityLeases.get? leaseId = some lease → lease.consumed = store.spentOn leaseId
  within : ∀ leaseId lease, store.capabilityLeases.get? leaseId = some lease → lease.consumed ≤ lease.scope.limits
  carried : ∀ actionId ∈ store.actionConsumptions.keys,
    ∃ leaseId ∈ store.capabilityLeases.keys, store.leaseOf actionId = some leaseId

/-- An action whose consumption is on record is not submitted again under another lease. -/
def Permission.settled : Permission where
  permits store action := action.id ∈ store.actionConsumptions.keys →
    ∀ leaseId, store.leaseOf action.id = some leaseId → action.leaseId.getD "" = leaseId
  new store action fresh := by
    intro _ leaseId carries
    simp [Store.leaseOf, Table.get?_of_fresh fresh] at carries
  framed before after action actions _ consumptions permits := by
    intro consumed
    rw [consumptions] at consumed
    unfold Store.leaseOf at permits ⊢
    rw [actions]
    exact permits consumed

section Amounts

variable {lease : CapabilityLease} {consumption : ActionConsumption}

theorem charge_consumed (now : Instant) (stored : CapabilityLease) :
    (lease.charge consumption now stored).consumed = lease.consumed + consumption.amounts := rfl

theorem canPay_iff : lease.CanPay consumption ↔ lease.consumed + consumption.amounts ≤ lease.scope.limits := by
  constructor
  · rintro ⟨seconds, cost, pullRequests, retries⟩
    exact ⟨seconds, cost, pullRequests, retries⟩
  · rintro ⟨seconds, cost, pullRequests, retries⟩
    exact ⟨seconds, cost, pullRequests, retries⟩

end Amounts

section Keep

variable {runtime : Runtime} {before after : Store}

/-- The total on a lease depends on the consumptions and on the leases of their actions only. -/
theorem spentOn_congr (consumptions : after.actionConsumptions = before.actionConsumptions)
    (carries : ∀ actionId ∈ before.actionConsumptions.keys, after.leaseOf actionId = before.leaseOf actionId)
    (leaseId : String) : after.spentOn leaseId = before.spentOn leaseId := by
  unfold Store.spentOn
  rw [consumptions]
  apply Table.total_congr
  intro actionId consumption recorded
  rw [carries actionId (Table.mem_keys.mpr ⟨consumption, recorded⟩)]

/-- Nothing is spent on a lease that no action carries. -/
theorem spentOn_fresh (accounted : before.Accounted) {leaseId : String}
    (fresh : leaseId ∉ before.capabilityLeases.keys) : before.spentOn leaseId = 0 := by
  apply Table.total_eq_zero
  intro actionId consumption recorded
  obtain ⟨held, known, carries⟩ := accounted.carried actionId (Table.mem_keys.mpr ⟨consumption, recorded⟩)
  rw [if_neg]
  intro same
  rw [carries] at same
  exact fresh (Option.some.inj same ▸ known)

/-- Leases that keep their totals and limits keep the accounts. -/
theorem accounted_of_leases (accounted : before.Accounted)
    (consumptions : after.actionConsumptions = before.actionConsumptions)
    (carries : ∀ actionId ∈ before.actionConsumptions.keys, after.leaseOf actionId = before.leaseOf actionId)
    (known : ∀ leaseId ∈ before.capabilityLeases.keys, leaseId ∈ after.capabilityLeases.keys)
    (leases : ∀ leaseId lease, after.capabilityLeases.get? leaseId = some lease →
      lease.consumed = before.spentOn leaseId ∧ lease.consumed ≤ lease.scope.limits) : after.Accounted where
  charged := by
    intro leaseId lease stored
    rw [spentOn_congr consumptions carries]
    exact (leases leaseId lease stored).1
  within := fun leaseId lease stored => (leases leaseId lease stored).2
  carried := by
    intro actionId recorded
    rw [consumptions] at recorded
    obtain ⟨leaseId, present, carried⟩ := accounted.carried actionId recorded
    exact ⟨leaseId, known leaseId present, (carries actionId recorded).trans carried⟩

/-- A change of one lease that keeps its totals and limits keeps the accounts. -/
theorem accounted_adjust (accounted : before.Accounted) {key : String} {change : CapabilityLease → CapabilityLease}
    (totals : ∀ lease, (change lease).consumed = lease.consumed) (limits : ∀ lease, (change lease).scope = lease.scope)
    (leases : after.capabilityLeases = before.capabilityLeases.adjust key change)
    (actions : after.proposedActions = before.proposedActions)
    (consumptions : after.actionConsumptions = before.actionConsumptions) : after.Accounted := by
  refine accounted_of_leases accounted consumptions (fun actionId _ => ?_) (fun leaseId known => ?_) ?_
  · unfold Store.leaseOf
    rw [actions]
  · rw [leases, Table.keys_adjust]
    exact known
  · intro leaseId lease stored
    rw [leases, Table.get?_adjust] at stored
    split at stored
    · obtain ⟨old, present, rfl⟩ := Option.map_eq_some_iff.mp stored
      rw [totals, limits]
      exact ⟨accounted.charged leaseId old present, accounted.within leaseId old present⟩
    · exact ⟨accounted.charged leaseId lease stored, accounted.within leaseId lease stored⟩

/-- A consumption adds to the account of the lease that its action carries, and to no other. -/
theorem accounted_consume (accounted : before.Accounted) {action : ProposedAction} {lease : CapabilityLease}
    {consumption : ActionConsumption} {now : Instant} (stored : before.proposedActions.get? action.id = some action)
    (first : before.actionConsumptions.get? action.id = none) (named : lease.id = action.leaseId.getD "")
    (held : before.capabilityLeases.get? lease.id = some lease) (pays : lease.CanPay consumption)
    (leases : after.capabilityLeases = before.capabilityLeases.adjust lease.id (lease.charge consumption now))
    (actions : after.proposedActions = before.proposedActions)
    (consumptions : after.actionConsumptions = before.actionConsumptions.set action.id consumption) :
    after.Accounted := by
  have carries : ∀ actionId, after.leaseOf actionId = before.leaseOf actionId := by
    intro actionId
    unfold Store.leaseOf
    rw [actions]
  have here : before.leaseOf action.id = some lease.id := by
    unfold Store.leaseOf
    rw [stored, named]
    rfl
  -- the sum over the consumptions of a lease grows by the new one
  have spent : ∀ leaseId, after.spentOn leaseId =
      before.spentOn leaseId + if leaseId = lease.id then consumption.amounts else 0 := by
    intro leaseId
    unfold Store.spentOn
    rw [consumptions, Table.total_set_fresh consumption (Table.get?_eq_none.mp first)]
    simp only [carries, here, Option.some.injEq, eq_comm]
  constructor
  · intro leaseId other present
    rw [leases, Table.get?_adjust] at present
    rw [spent]
    split at present
    · rename_i same
      subst same
      rw [held] at present
      obtain rfl := Option.some.inj present
      rw [charge_consumed, if_pos rfl, accounted.charged _ lease held]
    · rename_i different
      rw [if_neg different, add_zero]
      exact accounted.charged leaseId other present
  · intro leaseId other present
    rw [leases, Table.get?_adjust] at present
    split at present
    · rename_i same
      subst same
      rw [held] at present
      obtain rfl := Option.some.inj present
      -- the lease can pay, so the charge stays within its limits
      rw [charge_consumed]
      exact canPay_iff.mp pays
    · exact accounted.within leaseId other present
  · intro actionId recorded
    rw [consumptions, Table.keys_set, if_neg (Table.get?_eq_none.mp first)] at recorded
    rw [leases, Table.keys_adjust, carries]
    rcases List.mem_append.mp recorded with earlier | new
    · exact accounted.carried actionId earlier
    · rw [List.mem_singleton] at new
      subst new
      exact ⟨lease.id, Table.mem_keys.mpr ⟨lease, held⟩, here⟩

/-- Every effect keeps the accounts, where no consumed action changes its lease. -/
theorem TrustEffect.keepsAccounts (effect : TrustEffect runtime .settled before after) (accounted : before.Accounted) :
    after.Accounted := by
  -- an effect that touches neither leases nor consumptions
  have unchanged : after.capabilityLeases = before.capabilityLeases →
      after.proposedActions = before.proposedActions → after.actionConsumptions = before.actionConsumptions →
      after.Accounted := by
    intro leases actions consumptions
    refine accounted_of_leases accounted consumptions (fun actionId _ => ?_) (fun leaseId known => leases ▸ known) ?_
    · unfold Store.leaseOf
      rw [actions]
    · rw [leases]
      exact fun leaseId lease stored => ⟨accounted.charged leaseId lease stored, accounted.within leaseId lease stored⟩
  cases effect with
  | elsewhere same => exact unchanged same.leases same.actions same.consumptions
  | authorize action current decision authorization stored latest undecided first fresh about signed records same =>
    exact unchanged same.leases same.actions same.consumptions
  | issue payload approval lease valid admits grants fresh sole same =>
    refine accounted_of_leases accounted same.consumptions (fun actionId _ => ?_) (fun leaseId known => ?_) ?_
    · unfold Store.leaseOf
      rw [same.actions]
    · rw [same.leases, Table.keys_set]
      split
      · exact known
      · exact List.mem_append_left _ known
    · intro leaseId other stored
      rw [same.leases, Table.get?_set] at stored
      split at stored
      · rename_i here
        obtain rfl := Option.some.inj stored
        obtain ⟨seconds, cost, pullRequests, retries⟩ := grants.unused
        -- a new lease has spent nothing, and no consumption names it yet
        have unused : lease.consumed = 0 := by
          unfold CapabilityLease.consumed
          rw [seconds, cost, pullRequests, retries]
          rfl
        rw [unused, here, spentOn_fresh accounted fresh, grants.scope]
        exact ⟨rfl, Nat.zero_le _, valid.cost, Nat.zero_le _, Nat.zero_le _⟩
      · exact ⟨accounted.charged leaseId other stored, accounted.within leaseId other stored⟩
  | expire lease now updatedAt stored active read ended same =>
    apply accounted_adjust accounted ?_ ?_ same.leases same.actions same.consumptions
    · exact fun _ => rfl
    · exact fun _ => rfl
  | revoke lease user reason revokedAt updatedAt stored active same =>
    apply accounted_adjust accounted ?_ ?_ same.leases same.actions same.consumptions
    · exact fun _ => rfl
    · exact fun _ => rfl
  | consume action decision lease consumption now stored latest allowed first named held active pays same =>
    exact accounted_consume accounted stored first named held pays same.leases same.actions same.consumptions
  | evaluate action decision now permitted read records same =>
    refine accounted_of_leases accounted same.consumptions (fun actionId recorded => ?_)
      (fun leaseId known => same.leases ▸ known) ?_
    · -- an action on record whose consumption counts keeps its lease
      obtain ⟨leaseId, -, carries⟩ := accounted.carried actionId recorded
      rw [carries]
      unfold Store.leaseOf
      rw [same.actions, Table.get?_set]
      split
      · rename_i here
        subst here
        exact congrArg some (permitted recorded leaseId carries)
      · exact carries
    · rw [same.leases]
      exact fun leaseId lease stored => ⟨accounted.charged leaseId lease stored, accounted.within leaseId lease stored⟩

end Keep

end ControlTower
