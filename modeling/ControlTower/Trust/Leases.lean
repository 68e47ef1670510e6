import ControlTower.Trust.Effects

/-! What the trust effects do to leases: where a lease comes from, what stays of
it, and that an approval and an agent never share two live leases. -/

set_option autoImplicit false

namespace ControlTower

open Foundation
open Foundation.Procedure
open Relation (ReflTransGen)

/-- What approvals and their reviews say is as it was. -/
structure Store.SameReviews (before after : Store) : Prop where
  agents : after.externalAgents = before.externalAgents
  tasks : after.agentTasks = before.agentTasks
  approvals : after.approvalRequests = before.approvalRequests
  attestations : after.reviewerAttestations = before.reviewerAttestations

/-- Nothing but the status, the revocation and the totals of a lease differs,
and no lease becomes active again. -/
structure CapabilityLease.Continues (before after : CapabilityLease) : Prop where
  terms : after = { before with
    status := after.status
    revokedAt := after.revokedAt
    revokedByUserId := after.revokedByUserId
    revocationReason := after.revocationReason
    consumedPullRequests := after.consumedPullRequests
    consumedRetries := after.consumedRetries
    consumedRuntimeSeconds := after.consumedRuntimeSeconds
    consumedCostUsd := after.consumedCostUsd
    updatedAt := after.updatedAt }
  ends : after.status = .active → before.status = .active

theorem CapabilityLease.continues_self (lease : CapabilityLease) : lease.Continues lease :=
  ⟨rfl, fun active => active⟩

theorem CapabilityLease.Continues.trans {first middle last : CapabilityLease} (start : first.Continues middle)
    (rest : middle.Continues last) : first.Continues last := by
  refine ⟨?_, fun active => start.ends (rest.ends active)⟩
  have same := rest.terms
  rw [start.terms] at same
  exact same

/-- The signed receipt of a lease does not change. -/
theorem CapabilityLease.Continues.receipt {before after : CapabilityLease} (continues : before.Continues after) :
    leaseReceiptPayload after = leaseReceiptPayload before ∧ after.receiptSignature = before.receiptSignature := by
  rw [continues.terms]
  exact ⟨rfl, rfl⟩

theorem CapabilityLease.Continues.concerns {before after : CapabilityLease} (continues : before.Continues after) :
    after.approvalRequestId = before.approvalRequestId ∧ after.agentId = before.agentId ∧
      after.expiresAt = before.expiresAt ∧ after.scope = before.scope := by
  rw [continues.terms]
  exact ⟨rfl, rfl, rfl, rfl⟩

/-- A new lease, with what was checked before it was stored. -/
structure Store.Granting (runtime : Runtime) (before after : Store) (lease : CapabilityLease) : Prop where
  request : ∃ payload approval, payload.scope.Valid ∧ before.Admits payload approval ∧
    lease.Grants runtime payload approval
  fresh : lease.id ∉ before.capabilityLeases.keys
  stored : after.capabilityLeases = before.capabilityLeases.set lease.id lease
  sole : ∀ other ∈ before.capabilityLeases.values, other.Concerns lease.approvalRequestId lease.agentId →
    other.status = .active → ∃ now, before.Reads runtime after now ∧ other.expiresAt ≤ now

namespace TrustEffect

variable {runtime : Runtime} {permission : Permission} {before after : Store}

theorem reviews (effect : TrustEffect runtime permission before after) : before.SameReviews after := by
  cases effect <;> (rename_i same; exact ⟨same.agents, same.tasks, same.approvals, same.attestations⟩)

theorem time (effect : TrustEffect runtime permission before after) : before.ticks ≤ after.ticks := by
  cases effect <;> (rename_i same; exact same.time)

theorem adjusted {key leaseId : String} {change : CapabilityLease → CapabilityLease} {lease : CapabilityLease}
    (continues : ∀ stored, before.capabilityLeases.get? key = some stored → stored.Continues (change stored))
    (stored : (before.capabilityLeases.adjust key change).get? leaseId = some lease) :
    ∃ old, before.capabilityLeases.get? leaseId = some old ∧ old.Continues lease := by
  rw [Table.get?_adjust] at stored
  split at stored
  · rename_i same
    obtain ⟨old, present, rfl⟩ := Option.map_eq_some_iff.mp stored
    exact ⟨old, present, continues old (same ▸ present)⟩
  · exact ⟨lease, stored, lease.continues_self⟩

/-- Where a stored lease comes from. -/
theorem leaseOrigin (effect : TrustEffect runtime permission before after) {leaseId : String} {lease : CapabilityLease}
    (stored : after.capabilityLeases.get? leaseId = some lease) :
    (∃ old, before.capabilityLeases.get? leaseId = some old ∧ old.Continues lease) ∨
      (leaseId = lease.id ∧ before.Granting runtime after lease) := by
  have unchanged : after.capabilityLeases = before.capabilityLeases →
      ∃ old, before.capabilityLeases.get? leaseId = some old ∧ old.Continues lease :=
    fun same => ⟨lease, same ▸ stored, lease.continues_self⟩
  cases effect with
  | elsewhere same => exact .inl (unchanged same.leases)
  | evaluate action decision now permitted read records same => exact .inl (unchanged same.leases)
  | authorize action current decision authorization known latest undecided first fresh about signed records same =>
    exact .inl (unchanged same.leases)
  -- the only effect that makes a lease is its issue
  | issue payload approval issued valid admits grants fresh sole same =>
    rw [same.leases, Table.get?_set] at stored
    split at stored
    · rename_i here
      obtain rfl := Option.some.inj stored
      refine .inr ⟨here, ⟨payload, approval, valid, admits, grants⟩, fresh, same.leases, fun other member concerns => ?_⟩
      rw [grants.ofApproval, grants.agent] at concerns
      exact sole other member concerns
    · exact .inl ⟨lease, stored, lease.continues_self⟩
  | expire expired now updatedAt known active read ended same =>
    rw [same.leases] at stored
    exact .inl (adjusted (fun old _ => ⟨rfl, fun impossible => by cases impossible⟩) stored)
  | revoke revoked user reason revokedAt updatedAt known active same =>
    rw [same.leases] at stored
    exact .inl (adjusted (fun old _ => ⟨rfl, fun impossible => by cases impossible⟩) stored)
  | consume action decision charged consumption now known latest allowed first named held active pays same =>
    rw [same.leases] at stored
    refine .inl (adjusted (fun old _ => ?_) stored)
    exact ⟨rfl, fun active => active⟩

/-- No lease is ever lost. -/
theorem leaseKept (effect : TrustEffect runtime permission before after) {leaseId : String}
    (present : leaseId ∈ before.capabilityLeases.keys) : leaseId ∈ after.capabilityLeases.keys := by
  have adjusts : ∀ (key : String) (change : CapabilityLease → CapabilityLease),
      leaseId ∈ (before.capabilityLeases.adjust key change).keys := by
    intro key change
    obtain ⟨lease, stored⟩ := Table.mem_keys.mp present
    refine Table.mem_keys.mpr ?_
    rw [Table.get?_adjust, stored]
    split <;> exact ⟨_, rfl⟩
  cases effect with
  | elsewhere same => exact same.leases ▸ present
  | evaluate action decision now permitted read records same => exact same.leases ▸ present
  | authorize action current decision authorization known latest undecided first fresh about signed records same =>
    exact same.leases ▸ present
  | issue payload approval issued valid admits grants fresh sole same =>
    rw [same.leases, Table.keys_set]
    split <;> simp_all
  | expire expired now updatedAt known active read ended same => exact same.leases ▸ adjusts _ _
  | revoke revoked user reason revokedAt updatedAt known active same => exact same.leases ▸ adjusts _ _
  | consume action decision charged consumption now known latest allowed first named held active pays same =>
    exact same.leases ▸ adjusts _ _

end TrustEffect

section Chain

variable {runtime : Runtime} {permission : Permission} {before after : Store}

theorem Store.sameReviews_self (store : Store) : store.SameReviews store := ⟨rfl, rfl, rfl, rfl⟩

theorem Store.SameReviews.trans {first middle last : Store} (start : first.SameReviews middle)
    (rest : middle.SameReviews last) : first.SameReviews last :=
  ⟨rest.agents.trans start.agents, rest.tasks.trans start.tasks, rest.approvals.trans start.approvals,
    rest.attestations.trans start.attestations⟩

theorem chain_reviews (chain : ReflTransGen (TrustEffect runtime permission) before after) : before.SameReviews after := by
  induction chain with
  | refl => exact Store.sameReviews_self before
  | tail _ last ih => exact ih.trans last.reviews

theorem chain_time (chain : ReflTransGen (TrustEffect runtime permission) before after) : before.ticks ≤ after.ticks := by
  induction chain with
  | refl => exact Nat.le_refl _
  | tail _ last ih => exact ih.trans last.time

theorem chain_leaseKept (chain : ReflTransGen (TrustEffect runtime permission) before after) {leaseId : String}
    (present : leaseId ∈ before.capabilityLeases.keys) : leaseId ∈ after.capabilityLeases.keys := by
  induction chain with
  | refl => exact present
  | tail _ last ih => exact last.leaseKept ih

/-- A stored lease was stored before the chain of effects, or was granted on its way. -/
theorem chain_leaseOrigin (chain : ReflTransGen (TrustEffect runtime permission) before after) {leaseId : String}
    {lease : CapabilityLease} (stored : after.capabilityLeases.get? leaseId = some lease) :
    (∃ old, before.capabilityLeases.get? leaseId = some old ∧ old.Continues lease) ∨
      (leaseId ∉ before.capabilityLeases.keys ∧ ∃ middle next issued,
        ReflTransGen (TrustEffect runtime permission) before middle ∧ middle.Granting runtime next issued ∧
          issued.Continues lease) := by
  induction chain generalizing lease with
  | refl => exact .inl ⟨lease, stored, lease.continues_self⟩
  | @tail middle last chain effect ih =>
    rcases effect.leaseOrigin stored with ⟨old, present, continues⟩ | ⟨rfl, granting⟩
    · rcases ih present with ⟨oldest, first, started⟩ | ⟨absent, mid, next, issued, start, granting, continued⟩
      · exact .inl ⟨oldest, first, started.trans continues⟩
      · exact .inr ⟨absent, mid, next, issued, start, granting, continued.trans continues⟩
    · refine .inr ⟨fun present => ?_, middle, last, lease, chain, granting, lease.continues_self⟩
      exact granting.fresh (chain_leaseKept chain present)

/-- A stored lease stays, and goes on as the same lease. -/
theorem chain_continues (chain : ReflTransGen (TrustEffect runtime permission) before after) {leaseId : String}
    {lease : CapabilityLease} (stored : before.capabilityLeases.get? leaseId = some lease) :
    ∃ kept, after.capabilityLeases.get? leaseId = some kept ∧ lease.Continues kept := by
  obtain ⟨kept, present⟩ := Table.mem_keys.mp (chain_leaseKept chain (Table.mem_keys.mpr ⟨lease, stored⟩))
  rcases chain_leaseOrigin chain present with ⟨old, first, continues⟩ | ⟨absent, -⟩
  · obtain rfl := Option.some.inj (stored.symm.trans first)
    exact ⟨kept, present, continues⟩
  · exact absurd (Table.mem_keys.mpr ⟨lease, stored⟩) absent

theorem Store.SameReviews.admits {before after : Store} (same : before.SameReviews after)
    {payload : CapabilityLeaseCreate} {approval : ApprovalRequest} (admits : after.Admits payload approval) :
    before.Admits payload approval := by
  obtain ⟨stored, approved, frozen, known, undenied, covered, independent, reviewed⟩ := admits
  simp only [Store.Denies, Store.linkedTaskForApproval, Store.Approves, Store.approvalReviewerIds, same.approvals,
    same.agents, same.attestations, same.tasks] at stored known undenied covered independent reviewed
  exact ⟨stored, approved, frozen, known, undenied, covered, independent, reviewed⟩

end Chain

/-- Every receipt verifies. -/
def Store.Signed (runtime : Runtime) (store : Store) : Prop :=
  ∀ leaseId lease, store.capabilityLeases.get? leaseId = some lease →
    verifyPayloadSignature runtime (leaseReceiptPayload lease) lease.receiptSignature = true

/-- From the present reading of the clock on, an approval and an agent share at
most one live lease. -/
def Store.SoleLeases (runtime : Runtime) (store : Store) : Prop :=
  ∀ firstId secondId first second tick, store.capabilityLeases.get? firstId = some first →
    store.capabilityLeases.get? secondId = some second →
    second.Concerns first.approvalRequestId first.agentId → store.ticks ≤ tick →
    first.LiveAt (runtime.clock tick) → second.LiveAt (runtime.clock tick) → firstId = secondId

section Keep

variable {runtime : Runtime} {permission : Permission} {before after : Store}

theorem TrustEffect.keepsSigned (effect : TrustEffect runtime permission before after) (signed : before.Signed runtime) :
    after.Signed runtime := by
  intro leaseId lease stored
  rcases effect.leaseOrigin stored with ⟨old, present, continues⟩ | ⟨-, granting⟩
  · rw [continues.receipt.1, continues.receipt.2]
    exact signed leaseId old present
  · obtain ⟨payload, approval, -, -, grants⟩ := granting.request
    simp [verifyPayloadSignature, grants.signed]

theorem CapabilityLease.Continues.live {first last : CapabilityLease} (continues : first.Continues last)
    {now : Instant} (live : last.LiveAt now) : first.LiveAt now := by
  have until_ := live.2
  rw [continues.concerns.2.2.1] at until_
  exact ⟨continues.ends live.1, until_⟩

/-- A lease that was stored before a new one of its kind is over when the new one
is stored. -/
theorem Store.Granting.ended {lease other : CapabilityLease} (granting : before.Granting runtime after lease)
    (monotone : Monotone runtime.clock) {otherId : String} {tick : Nat}
    (stored : before.capabilityLeases.get? otherId = some other)
    (concerns : other.Concerns lease.approvalRequestId lease.agentId) (later : after.ticks ≤ tick) :
    ¬ other.LiveAt (runtime.clock tick) := by
  intro live
  obtain ⟨now, ⟨moment, -, until_, rfl⟩, past⟩ :=
    granting.sole other (Table.mem_values.mpr ⟨otherId, stored⟩) concerns live.1
  have onward : runtime.clock moment ≤ runtime.clock tick := monotone ((Nat.le_of_lt until_).trans later)
  exact absurd live.2 (Nat.not_lt.mpr (past.trans onward))

theorem TrustEffect.keepsSole (effect : TrustEffect runtime permission before after) (monotone : Monotone runtime.clock)
    (sole : before.SoleLeases runtime) : after.SoleLeases runtime := by
  intro firstId secondId first second tick storedFirst storedSecond concerns later liveFirst liveSecond
  rcases effect.leaseOrigin storedFirst with ⟨one, presentOne, continuesOne⟩ | ⟨rfl, grantingFirst⟩ <;>
    rcases effect.leaseOrigin storedSecond with ⟨two, presentTwo, continuesTwo⟩ | ⟨rfl, grantingSecond⟩
  · refine sole firstId secondId one two tick presentOne presentTwo ?_ (effect.time.trans later)
      (continuesOne.live liveFirst) (continuesTwo.live liveSecond)
    have same := continuesOne.concerns
    have alike := continuesTwo.concerns
    exact ⟨by rw [← alike.1, concerns.1, same.1], by rw [← alike.2.1, concerns.2, same.2.1]⟩
  · have same := continuesOne.concerns
    refine absurd (continuesOne.live liveFirst) (grantingSecond.ended monotone presentOne ?_ later)
    exact ⟨by rw [concerns.1, same.1], by rw [concerns.2, same.2.1]⟩
  · have alike := continuesTwo.concerns
    refine absurd (continuesTwo.live liveSecond) (grantingFirst.ended monotone presentTwo ?_ later)
    exact ⟨by rw [← alike.1, concerns.1], by rw [← alike.2.1, concerns.2]⟩
  · by_contra different
    have earlier : before.capabilityLeases.get? second.id = some second := by
      have found := storedSecond
      rwa [grantingFirst.stored, Table.get?_set_other _ _ (Ne.symm different)] at found
    exact grantingSecond.fresh (Table.mem_keys.mpr ⟨second, earlier⟩)

end Keep

end ControlTower
