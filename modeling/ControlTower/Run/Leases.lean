import Mathlib.Data.Finset.Card
import ControlTower.Run.Effects
import ControlTower.Trust.Leases

/-! The law of lease issuance, over every run of the service. -/

set_option autoImplicit false

namespace ControlTower

open Foundation
open Foundation.Procedure
open Relation (ReflTransGen)

section Ledger

variable {runtime : Runtime} {before after : Store}

theorem Store.SameLedger.keepsSigned (same : before.SameLedger after) (signed : before.Signed runtime) :
    after.Signed runtime := by
  unfold Store.Signed
  rw [same.leases]
  exact signed

theorem Store.SameLedger.keepsSole (same : before.SameLedger after) (sole : before.SoleLeases runtime) :
    after.SoleLeases runtime := by
  intro firstId secondId first second tick storedFirst storedSecond concerns later
  rw [same.leases] at storedFirst storedSecond
  exact sole firstId secondId first second tick storedFirst storedSecond concerns (same.time.trans later)

end Ledger

section Reachable

variable {runtime : Runtime} {allowed : Store → RunRequest → Prop} {store : Store}

theorem signed_reachable (reachable : (runMachine runtime).Reachable allowed store) : store.Signed runtime := by
  refine (reachable_keeps (fun store request _ => allows_all store request) (fun store fresh => ?_) (fun _ _ effect _ => effect.keepsSigned)
    (fun _ _ same => same.keepsSigned) reachable).2
  intro leaseId lease stored
  rw [fresh.capabilityLeases] at stored
  cases stored

theorem sole_reachable (monotone : Monotone runtime.clock) (reachable : (runMachine runtime).Reachable allowed store) :
    store.SoleLeases runtime := by
  refine (reachable_keeps (fun store request _ => allows_all store request) (fun store fresh => ?_) (fun _ _ effect _ => effect.keepsSole monotone)
    (fun _ _ same => same.keepsSole) reachable).2
  intro firstId secondId first second tick stored
  rw [fresh.capabilityLeases] at stored
  cases stored

theorem filed_reachable (reachable : (runMachine runtime).Reachable allowed store) : store.Filed := by
  obtain ⟨first, fresh, follows⟩ := reachable
  have kept := @follows_keeps runtime .all (fun _ => True) allowed (fun store request _ => allows_all store request)
    (fun _ _ _ _ _ => trivial) (fun _ _ _ _ => trivial)
  exact (kept follows (fresh_filed fresh) trivial).1

end Reachable

/-- The approval of a lease vouches for it: it is approved and sealed, enough
different users stand behind its payload, the creator is not one of them where
that is asked for, and nobody denied the payload. -/
def Store.Vouches (store : Store) (lease : CapabilityLease) : Prop :=
  ∃ approvalId approval, store.approvalRequests.get? approvalId = some approval ∧
    approval.id = lease.approvalRequestId ∧ approval.status = .approved ∧
    approval.approvedPayloadHash = some lease.approvedPayloadHash ∧ lease.approvedPayloadHash ≠ "" ∧
    (∃ users : Finset String, lease.requiredReviewerCount ≤ users.card ∧
      ∀ user ∈ users, store.Approves approval lease.approvedPayloadHash user) ∧
    (lease.preventSelfApproval = true → ∀ creator, approval.createdByUserId = some creator →
      ¬ store.Approves approval lease.approvedPayloadHash creator) ∧
    ¬ store.Denies lease.approvalRequestId lease.approvedPayloadHash

section Vouch

variable {runtime : Runtime} {store : Store} {payload : CapabilityLeaseCreate} {approval : ApprovalRequest}
  {lease : CapabilityLease}

theorem Store.Admits.vouches (admits : store.Admits payload approval) (grants : lease.Grants runtime payload approval) :
    store.Vouches lease := by
  have hash := grants.payloadHash
  have named : approval.approvedPayloadHash.getD "" = lease.approvedPayloadHash := by rw [hash]; rfl
  obtain ⟨stored, approved, frozen, -, undenied, -, independent, reviewed⟩ := admits
  rw [named] at undenied independent reviewed
  refine ⟨payload.approvalRequestId, approval, stored, grants.ofApproval.symm, approved, hash, ?_, ?_, ?_, ?_⟩
  · rw [hash] at frozen
    simpa [Text.present] using frozen
  · refine ⟨(store.approvalReviewerIds approval lease.approvedPayloadHash).toFinset, ?_, fun user member => ?_⟩
    · rw [grants.reviewers, List.toFinset_card_of_nodup reviewers_distinct]
      exact reviewed
    · exact mem_approvalReviewerIds.mp (List.mem_toFinset.mp member)
  · rw [grants.selfApproval]
    exact independent
  · rw [grants.ofApproval]
    exact undenied

theorem CapabilityLease.Continues.vouched {issued last : CapabilityLease} (continues : issued.Continues last)
    (vouches : store.Vouches issued) : store.Vouches last := by
  rw [continues.terms]
  exact vouches

/-- A lease that a request brings is vouched for by the store that the request meets. -/
theorem next_vouches (filed : store.Filed) (request : RunRequest) {leaseId : String}
    (stored : ((runMachine runtime).next store request).capabilityLeases.get? leaseId = some lease)
    (new : store.capabilityLeases.get? leaseId = none) : store.Vouches lease := by
  have unchanged : ∀ after : Store, store.SameLedger after → after.capabilityLeases.get? leaseId ≠ some lease := by
    intro after same present
    rw [same.leases, new] at present
    cases present
  rcases next_cases filed (allows_all store request) with chain | attests | ⟨change, rfl, same⟩
  · rcases chain_leaseOrigin chain stored with ⟨old, present, -⟩ | ⟨-, middle, next, issued, start, granting, continues⟩
    · rw [new] at present
      cases present
    · obtain ⟨payload, approval, -, admits, grants⟩ := granting.request
      exact continues.vouched (((chain_reviews start).admits admits).vouches grants)
  · exact absurd stored (unchanged _ attests.sameLedger)
  · rw [same] at stored
    exact absurd stored (unchanged _ (applyOutside_sameLedger change store))

end Vouch

/-- Only changes made elsewhere are excluded. -/
def RunRequest.Inside (_ : Store) (request : RunRequest) : Prop := ∀ change, request ≠ .outside change

/-- What happens to the reviews of an approval while nothing changes elsewhere:
attestations may be added, by users who did not create the approval. -/
structure Store.ReviewsGrow (before after : Store) : Prop where
  agents : after.externalAgents = before.externalAgents
  tasks : after.agentTasks = before.agentTasks
  approvals : after.approvalRequests = before.approvalRequests
  kept : ∀ attestation ∈ before.reviewerAttestations.values, attestation ∈ after.reviewerAttestations.values
  added : ∀ attestation ∈ after.reviewerAttestations.values, attestation ∈ before.reviewerAttestations.values ∨
    ∃ approval, (∃ approvalId, before.approvalRequests.get? approvalId = some approval) ∧
      attestation.approvalRequestId = approval.id ∧ approval.createdByUserId ≠ some attestation.reviewerUserId

section Grow

variable {runtime : Runtime} {first middle last before after : Store}

theorem Store.reviewsGrow_self (store : Store) : store.ReviewsGrow store :=
  ⟨rfl, rfl, rfl, fun _ member => member, fun _ member => .inl member⟩

theorem Store.ReviewsGrow.trans (start : first.ReviewsGrow middle) (rest : middle.ReviewsGrow last) :
    first.ReviewsGrow last where
  agents := rest.agents.trans start.agents
  tasks := rest.tasks.trans start.tasks
  approvals := rest.approvals.trans start.approvals
  kept := fun attestation member => rest.kept attestation (start.kept attestation member)
  added := by
    intro attestation member
    rcases rest.added attestation member with earlier | ⟨approval, ⟨approvalId, stored⟩, about, other⟩
    · exact start.added attestation earlier
    · exact .inr ⟨approval, ⟨approvalId, start.approvals ▸ stored⟩, about, other⟩

theorem Store.SameReviews.grow (same : before.SameReviews after) : before.ReviewsGrow after := by
  refine ⟨same.agents, same.tasks, same.approvals, ?_, ?_⟩
  · rw [same.attestations]
    exact fun _ member => member
  · rw [same.attestations]
    exact fun _ member => .inl member

theorem Attests.grow (attests : Attests before after) : before.ReviewsGrow after := by
  cases attests with
  | unchanged same => exact Store.SameReviews.grow ⟨same.agents, same.tasks, same.approvals, same.attestations⟩
  | recorded approval attestation stored fresh about other same =>
    have values : after.reviewerAttestations.values = before.reviewerAttestations.values ++ [attestation] := by
      rw [same.attestations]
      exact Table.values_set_fresh attestation fresh
    refine ⟨same.agents, same.tasks, same.approvals, fun earlier member => ?_, fun later member => ?_⟩
    · rw [values]
      exact List.mem_append_left _ member
    · rw [values, List.mem_append, List.mem_singleton] at member
      rcases member with earlier | rfl
      · exact .inl earlier
      · exact .inr ⟨approval, stored, about, other⟩

/-- While nothing changes elsewhere, reviews grow and no lease is lost. -/
theorem follows_inside (follows : Machine.Follows (runMachine runtime) RunRequest.Inside first last)
    (filed : first.Filed) :
    first.ReviewsGrow last ∧ last.Filed ∧ ∀ leaseId lease, first.capabilityLeases.get? leaseId = some lease →
      ∃ kept, last.capabilityLeases.get? leaseId = some kept ∧ lease.Continues kept := by
  induction follows with
  | done => exact ⟨Store.reviewsGrow_self _, filed, fun leaseId lease stored => ⟨lease, stored, lease.continues_self⟩⟩
  | @step last request _ inside ih =>
    obtain ⟨grow, still, kept⟩ := ih
    rcases next_cases still (allows_all last request) with chain | attests | ⟨change, same, -⟩
    · refine ⟨grow.trans (chain_reviews chain).grow, effects_file chain still, fun leaseId lease stored => ?_⟩
      obtain ⟨held, present, continues⟩ := kept leaseId lease stored
      obtain ⟨next, there, goes⟩ := chain_continues chain present
      exact ⟨next, there, continues.trans goes⟩
    · have same := attests.sameLedger
      refine ⟨grow.trans attests.grow, ⟨same.leases ▸ still.leases, same.actions ▸ still.actions⟩, ?_⟩
      rw [same.leases]
      exact kept
    · exact absurd same (inside change)

theorem Store.ReviewsGrow.approves (grow : before.ReviewsGrow after) {approval : ApprovalRequest}
    {payloadHash user : String} (approves : before.Approves approval payloadHash user) :
    after.Approves approval payloadHash user := by
  rcases approves with approver | ⟨attestation, member, rest⟩
  · exact .inl approver
  · exact .inr ⟨attestation, grow.kept attestation member, rest⟩

/-- An approval that passed the gate passes it again, unless somebody has denied it since. -/
theorem Store.ReviewsGrow.admits (grow : before.ReviewsGrow after) (filed : ControlTower.Filed before.approvalRequests)
    {payload : CapabilityLeaseCreate} {approval : ApprovalRequest} (admits : before.Admits payload approval)
    (undenied : ¬ after.Denies approval.id (approval.approvedPayloadHash.getD "")) : after.Admits payload approval where
  stored := grow.approvals ▸ admits.stored
  approved := admits.approved
  frozen := admits.frozen
  known := grow.agents ▸ admits.known
  undenied := undenied
  covered := by
    obtain ⟨task, linked, approved⟩ := admits.covered
    refine ⟨task, ?_, approved⟩
    simp only [Store.linkedTaskForApproval, grow.tasks]
    exact linked
  independent := by
    intro prevent creator created approves
    rcases approves with approver | ⟨attestation, member, about, hash, approve, reviewer⟩
    · exact admits.independent prevent creator created (.inl approver)
    · rcases grow.added attestation member with earlier | ⟨other, ⟨otherId, stored⟩, of, apart⟩
      · exact admits.independent prevent creator created (.inr ⟨attestation, earlier, about, hash, approve, reviewer⟩)
      · -- records stand under their identifiers, so the attested approval is this one
        have here : otherId = payload.approvalRequestId := by
          rw [← filed otherId other stored, ← of, about, filed _ approval admits.stored]
        rw [here, admits.stored] at stored
        obtain rfl := Option.some.inj stored
        exact apart (reviewer ▸ created)
  reviewed := by
    refine admits.reviewed.trans ?_
    refine (reviewers_distinct.subperm fun user member => ?_).length_le
    exact mem_approvalReviewerIds.mpr (grow.approves (mem_approvalReviewerIds.mp member))

end Grow

/-- What issuing a request again comes to in a later store: the lease is still
there, and while it is live the request is answered by it and changes nothing,
or was denied since, and is refused and changes nothing. -/
def Store.Reissues (runtime : Runtime) (store : Store) (payload : CapabilityLeaseCreate) (approval : ApprovalRequest)
    (lease : CapabilityLease) (user : AuthUser) : Prop :=
  ∃ kept, store.capabilityLeases.get? lease.id = some kept ∧ lease.Continues kept ∧
    ∀ outcome after, (issueCapabilityLease runtime payload user).run store = (outcome, after) →
      kept.status = .active → (∀ tick, store.ticks ≤ tick → tick < after.ticks → runtime.clock tick < kept.expiresAt) →
      (store.Denies approval.id (approval.approvedPayloadHash.getD "") ∧ (∃ error, outcome = .error error) ∧
          after = store) ∨
        (¬ store.Denies approval.id (approval.approvedPayloadHash.getD "") ∧ outcome = .ok kept ∧
          after = { store with ticks := after.ticks })

section Again

variable {runtime : Runtime} {store first second after : Store} {payload : CapabilityLeaseCreate}
  {lease : CapabilityLease}

/-- The lease bears the fingerprint of the request. -/
def CapabilityLease.Answers (runtime : Runtime) (payload : CapabilityLeaseCreate) (lease : CapabilityLease) : Prop :=
  lease.scope.metadata.lookup "request_fingerprint" = some (.text (runtime.sha256Hex payload.document))

/-- The lease that answers a request is stored, of the approval and the agent of
the request, and bears its fingerprint. -/
theorem Issues.answered (issues : Issues runtime payload store (.ok lease) first) (filed : store.Filed) :
    ∃ approval, store.Admits payload approval ∧ lease.Concerns approval.id payload.agentId ∧
      lease.Answers runtime payload ∧ first.capabilityLeases.get? lease.id = some lease ∧ store.SameReviews first := by
  cases issues with
  | returned ticks approval lease now onward admits member concerns read live same =>
    obtain ⟨leaseId, stored⟩ := Table.mem_values.mp member
    refine ⟨approval, admits, concerns, same, ?_, ⟨rfl, rfl, rfl, rfl⟩⟩
    rw [filed.leases leaseId lease stored]
    exact stored
  | granted outcome after approval granted admits grants fresh sole stored answer =>
    obtain rfl : lease = granted := by
      rcases answer with answered | ⟨error, impossible⟩
      · exact Except.ok.inj answered
      · cases impossible
    refine ⟨approval, admits, ⟨grants.ofApproval, grants.agent⟩, ?_, ?_,
      ⟨stored.agents, stored.tasks, stored.approvals, stored.attestations⟩⟩
    · unfold CapabilityLease.Answers
      rw [grants.scope]
      exact Document.lookup_setField _ _ _
    · rw [stored.leases]
      exact Table.get?_set_self _ _ _

/-- A live lease that answers a request is what issuing the request comes to, where
the gate lets the request through. -/
theorem Issues.sole {outcome : Except Raised CapabilityLease} (issues : Issues runtime payload store outcome after)
    (alone : store.SoleLeases runtime) {leaseId : String} {approval : ApprovalRequest}
    (admits : store.Admits payload approval) (stored : store.capabilityLeases.get? leaseId = some lease)
    (concerns : lease.Concerns approval.id payload.agentId) (answers : lease.Answers runtime payload)
    (active : lease.status = .active)
    (live : ∀ tick, store.ticks ≤ tick → tick < after.ticks → runtime.clock tick < lease.expiresAt) :
    outcome = .ok lease ∧ after = { store with ticks := after.ticks } := by
  -- another live lease of the approval and the agent would be a second one
  have same : ∀ (other : CapabilityLease) (shown : ApprovalRequest) (now : Instant),
      store.Admits payload shown → other ∈ store.capabilityLeases.values →
      other.Concerns shown.id payload.agentId → store.Reads runtime after now → other.LiveAt now → other = lease := by
    intro other shown now shows member of read alive
    obtain ⟨otherId, there⟩ := Table.mem_values.mp member
    obtain ⟨tick, since, until_, rfl⟩ := read
    obtain rfl := Option.some.inj (shows.stored.symm.trans admits.stored)
    have one : leaseId = otherId := by
      apply alone leaseId otherId lease other tick stored there ?_ since ⟨active, live tick since until_⟩ alive
      exact ⟨of.1.trans concerns.1.symm, of.2.trans concerns.2.symm⟩
    rw [one, there] at stored
    exact Option.some.inj stored
  cases issues with
  | refused error shut => exact absurd admits (shut approval)
  | taken error ticks shown other now onward shows member of read alive differs =>
    obtain rfl := same other shown now shows member of read alive
    exact absurd answers differs
  | returned ticks shown other now onward shows member of read alive agrees =>
    obtain rfl := same other shown now shows member of read alive
    exact ⟨rfl, rfl⟩
  | granted outcome after shown granted shows grants fresh none_live there answer =>
    obtain rfl := Option.some.inj (shows.stored.symm.trans admits.stored)
    obtain ⟨now, ⟨tick, since, until_, rfl⟩, past⟩ :=
      none_live lease (Table.mem_values.mpr ⟨leaseId, stored⟩) concerns active
    exact absurd (live tick since until_) (Nat.not_lt.mpr past)

theorem Issues.shut {outcome : Except Raised CapabilityLease} (issues : Issues runtime payload store outcome after)
    (shut : ∀ approval, ¬ store.Admits payload approval) : (∃ error, outcome = .error error) ∧ after = store := by
  cases issues with
  | refused error _ => exact ⟨⟨error, rfl⟩, rfl⟩
  | taken _ _ shown _ _ _ shows => exact absurd shows (shut shown)
  | returned _ shown _ _ _ shows => exact absurd shows (shut shown)
  | granted _ _ shown _ shows => exact absurd shows (shut shown)

/-- A lease continues to answer its request, about the same approval and agent. -/
theorem CapabilityLease.Continues.answers {kept : CapabilityLease} (continues : lease.Continues kept)
    (answers : lease.Answers runtime payload) : kept.Answers runtime payload := by
  unfold CapabilityLease.Answers
  rw [continues.concerns.2.2.2]
  exact answers

theorem reissues (monotone : Monotone runtime.clock) (valid : payload.scope.Valid) (user otherUser : AuthUser) (filed : store.Filed)
    (named : ControlTower.Filed store.approvalRequests) (alone : store.SoleLeases runtime)
    (issued : (issueCapabilityLease runtime payload user).run store = (.ok lease, first))
    (follows : Machine.Follows (runMachine runtime) RunRequest.Inside first second) :
    ∃ approval, store.approvalRequests.get? payload.approvalRequestId = some approval ∧
      second.Reissues runtime payload approval lease otherUser := by
  have issues : Issues runtime payload store (.ok lease) first := (issueCapabilityLease_ends payload user).of_run issued
  obtain ⟨approval, admits, concerns, answers, stored, reviews⟩ := issues.answered filed
  have chain : ReflTransGen (TrustEffect runtime .all) store first := issues.effects valid filed
  have kept_alone := chain_keeps (fun _ _ effect _ => effect.keepsSole monotone) chain filed alone
  obtain ⟨grow, -, held⟩ := follows_inside follows kept_alone.1
  have still : second.SoleLeases runtime :=
    (follows_keeps (fun store request _ => allows_all store request) (fun _ _ effect _ => effect.keepsSole monotone) (fun _ _ same => same.keepsSole) follows
      kept_alone.1 kept_alone.2).2
  obtain ⟨kept, present, continues⟩ := held lease.id lease stored
  refine ⟨approval, admits.stored, kept, present, continues, fun outcome after again active live => ?_⟩
  have reissued : Issues runtime payload second outcome after :=
    (issueCapabilityLease_ends payload otherUser).of_run again
  by_cases denied : second.Denies approval.id (approval.approvedPayloadHash.getD "")
  · exact .inl ⟨denied, reissued.shut fun shown shows => by
      -- the gate looks at the same approval as before
      have there := grow.approvals.trans reviews.approvals
      obtain rfl : shown = approval := Option.some.inj (shows.stored.symm.trans (there ▸ admits.stored))
      exact shows.undenied denied⟩
  · have admitted : second.Admits payload approval :=
      (reviews.grow.trans grow).admits named admits denied
    refine .inr ⟨denied, reissued.sole still admitted present ?_ (continues.answers answers) active live⟩
    exact ⟨continues.concerns.1.trans concerns.1, continues.concerns.2.1.trans concerns.2⟩

end Again

/-- In every store that requests reach, the leases that a request brings are
vouched for by their approvals, a request that got a lease gets it again while it
is live and nobody has denied it, an approval and an agent share at most one live
lease, and every receipt verifies. -/
theorem lease_issuance_law (runtime : Runtime) (monotone : Monotone runtime.clock) (store : Store)
    (reachable : (runMachine runtime).Reachable Machine.anything store) :
    (∀ request leaseId lease, store.capabilityLeases.get? leaseId = none →
      ((runMachine runtime).next store request).capabilityLeases.get? leaseId = some lease → store.Vouches lease) ∧
    (ControlTower.Filed store.approvalRequests → ∀ payload user otherUser lease first second, payload.scope.Valid →
      (issueCapabilityLease runtime payload user).run store = (.ok lease, first) →
      Machine.Follows (runMachine runtime) RunRequest.Inside first second →
      ∃ approval, store.approvalRequests.get? payload.approvalRequestId = some approval ∧
        second.Reissues runtime payload approval lease otherUser) ∧
    store.SoleLeases runtime ∧ store.Signed runtime := by
  have filed := filed_reachable reachable
  have alone := sole_reachable monotone reachable
  constructor
  · intro request leaseId lease new stored
    exact next_vouches filed request stored new
  constructor
  · intro named payload user otherUser lease first second valid issued follows
    exact reissues monotone valid user otherUser filed named alone issued follows
  · exact ⟨alone, signed_reachable reachable⟩

section Sample

theorem lease_issuance_law_issued :
    (storeAfter (.plain true) [.issueLease (leaseRequest .bounded) sampleOwner]).SoleLeases (.plain true) ∧
      (storeAfter (.plain true) [.issueLease (leaseRequest .bounded) sampleOwner]).Signed (.plain true) :=
  (lease_issuance_law (.plain true) (fun _ _ later => Nat.mul_le_mul_right _ later) _ (storeAfter_reachable _ _)).2.2

set_option maxRecDepth 20000 in
/-- A reviewer who denies the payload between two equal requests has the second one
refused, although the lease of the first is live. -/
theorem reissue_refused_after_denial :
    let issue := issueCapabilityLease (.plain true) (leaseRequest .bounded) sampleOwner
    let first := (issue.run (approvedStore (.plain true))).2
    let denied := (runMachine (.plain true)).next first (.attest "approval_1" .deny "no" sampleOwner)
    ∃ lease, (issue.run (approvedStore (.plain true))).1 = .ok lease ∧
      denied.capabilityLeases.get? lease.id = some lease ∧
      lease.LiveAt ((Runtime.plain true).clock denied.ticks) ∧
      ∃ error, (issue.run denied).1 = .error error :=
  ⟨_, rfl, rfl, ⟨rfl, by decide⟩, _, rfl⟩

end Sample

end ControlTower
