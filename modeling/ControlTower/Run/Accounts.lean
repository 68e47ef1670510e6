import ControlTower.Run.Effects
import ControlTower.Trust.Accounts

/-! The accounts of the leases in every reachable store. -/

set_option autoImplicit false

namespace ControlTower

open Foundation

/-- A request does not submit an action whose consumption is on record under another lease. -/
def RunRequest.KeepsCharged (store : Store) (request : RunRequest) : Prop := Permission.settled.Allows store request

section Reachable

variable {runtime : Runtime} {before after store : Store}

theorem Store.SameLedger.keepsAccounts (same : before.SameLedger after) (accounted : before.Accounted) :
    after.Accounted := by
  refine accounted_of_leases accounted same.consumptions (fun actionId _ => ?_)
    (fun leaseId known => same.leases ▸ known) ?_
  · unfold Store.leaseOf
    rw [same.actions]
  · rw [same.leases]
    exact fun leaseId lease stored => ⟨accounted.charged leaseId lease stored, accounted.within leaseId lease stored⟩

theorem fresh_accounted (fresh : store.Fresh) : store.Accounted := by
  constructor
  · intro leaseId lease stored
    rw [fresh.capabilityLeases] at stored
    cases stored
  · intro leaseId lease stored
    rw [fresh.capabilityLeases] at stored
    cases stored
  · intro actionId recorded
    rw [fresh.actionConsumptions] at recorded
    cases recorded

/-- Where no request submits a consumed action under another lease, the totals of
every lease are the sums of the consumptions recorded for it, and within its limits. -/
theorem lease_accounts (runtime : Runtime) (store : Store)
    (reachable : (runMachine runtime).Reachable RunRequest.KeepsCharged store) (leaseId : String)
    (lease : CapabilityLease) (stored : store.capabilityLeases.get? leaseId = some lease) :
    lease.consumed = store.spentOn leaseId ∧ lease.consumed ≤ lease.scope.limits := by
  have accounted : store.Accounted :=
    (reachable_keeps (fun _ _ keeps => keeps) (fun _ fresh => fresh_accounted fresh)
      (fun _ _ effect _ => effect.keepsAccounts) (fun _ _ same => same.keepsAccounts) reachable).2
  exact ⟨accounted.charged leaseId lease stored, accounted.within leaseId lease stored⟩

end Reachable

section Sample

/-- A command of the approved test plan, under a lease. -/
def commandAction (leaseId : Option String) : ProposedAction where
  id := "action_1"
  leaseId := leaseId
  provider := .codex
  agentId := none
  runId := none
  taskId := none
  projectId := some "project_1"
  actionType := .runCommand
  repository := some "owner/repository"
  branch := some "feature/greeting"
  paths := []
  command := some "pytest"
  networkDomains := []
  estimatedRuntimeSeconds := 30
  estimatedCostUsd := 0
  retryNumber := 0
  metadata := []
  createdAt := 0

/-- Ten seconds of runtime. -/
def tenSeconds : ActionConsumption where
  actualRuntimeSeconds := 10
  actualCostUsd := 0
  pullRequestsCreated := 0
  retryConsumed := false
  outputReference := none
  evidence := .object []

/-- A lease, an action under it, and ten seconds of runtime charged for the action. -/
def chargedRequests : List RunRequest :=
  [.issueLease (leaseRequest .bounded) sampleOwner, .evaluateManual (commandAction (some "lease_")) sampleOwner,
    .consumeManual "action_1" tenSeconds sampleOwner]

theorem lease_accounts_charged : ∃ lease,
    (storeAfter (.plain true) chargedRequests).capabilityLeases.get? "lease_" = some lease ∧
      lease.consumed = (10, 0, 0, 0) ∧ lease.consumed = (storeAfter (.plain true) chargedRequests).spentOn "lease_" := by
  have permitted : Machine.AllowedAll (runMachine (.plain true)) RunRequest.KeepsCharged (approvedStore (.plain true))
      chargedRequests := by
    refine ⟨fun _ submits => submits.elim, ?_, fun _ submits => submits.elim, trivial⟩
    rintro action rfl consumed
    exact absurd consumed (by decide +kernel)
  have reachable : (runMachine (.plain true)).Reachable RunRequest.KeepsCharged (storeAfter (.plain true) chargedRequests) :=
    ⟨_, approvedStore_fresh _, Machine.follows_runAll _ _ permitted⟩
  have stored : ((storeAfter (.plain true) chargedRequests).capabilityLeases.get? "lease_").any
      (fun lease => lease.consumed = (10, 0, 0, 0)) = true := by decide +kernel
  obtain ⟨lease, found, totals⟩ := (Option.any_eq_true _ _).mp stored
  exact ⟨lease, found, of_decide_eq_true totals, (lease_accounts (.plain true) _ reachable "lease_" lease found).1⟩

/-- The action is submitted once more without the lease: the totals of the lease
stand, but no recorded consumption is left that explains them. -/
theorem resubmission_loses_account :
    let store := storeAfter (.plain true) (chargedRequests ++ [.evaluateManual (commandAction none) sampleOwner])
    ∃ lease, store.capabilityLeases.get? "lease_" = some lease ∧ lease.consumed ≠ store.spentOn "lease_" := by
  intro store
  have stored : (store.capabilityLeases.get? "lease_").any
      (fun lease => lease.consumed ≠ store.spentOn "lease_") = true := by decide +kernel
  obtain ⟨lease, found, differs⟩ := (Option.any_eq_true _ _).mp stored
  exact ⟨lease, found, of_decide_eq_true differs⟩

end Sample

end ControlTower
