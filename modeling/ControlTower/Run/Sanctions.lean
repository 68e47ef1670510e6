import ControlTower.Run.Ledger
import ControlTower.Trust.Scope

/-! What stands behind a decision that lets an action pass: a lease that was live, an
approval that covers the action, and a gate that both went through. -/

set_option autoImplicit false

namespace ControlTower

open Foundation
open Relation (ReflTransGen)

/-- A lease goes back to one that a store granted, for an approval that its gate let through. -/
structure Store.Roots (runtime : Runtime) (origin : Store) (payload : CapabilityLeaseCreate) (approval : ApprovalRequest)
    (task : AgentTask) (lease : CapabilityLease) : Prop where
  admits : origin.Admits payload approval
  linked : origin.linkedTaskForApproval approval.id = some task
  valid : payload.scope.Valid
  approved : payload.scope.Approved approval task
  granted : ∃ issued : CapabilityLease, issued.Grants runtime payload approval ∧ issued.Continues lease

/-- Every lease goes back to one of the given stores. -/
def Store.RootedIn (runtime : Runtime) (origins : Store → Prop) (store : Store) : Prop :=
  ∀ leaseId lease, store.capabilityLeases.get? leaseId = some lease →
    ∃ origin payload approval task, origins origin ∧ origin.Roots runtime payload approval task lease

/-- What lets an action pass a decision: nothing dangerous is asked for and a human is asked
first, or a lease of an approved scope supported the action when it was judged. -/
inductive Store.Sanctions (runtime : Runtime) (origins : Store → Prop) (store : Store) (action : ProposedAction)
    (decision : PolicyDecision) : Prop where
  | unleased (mild : action.actionType ∉ highRiskActions)
      (asked : decision.decision = .allow → decision.evaluatedPolicyVersion ≠ policyVersion)
  | leased (origin : Store) (payload : CapabilityLeaseCreate) (approval : ApprovalRequest) (task : AgentTask)
      (lease : CapabilityLease) (now : Instant) (known : origins origin)
      (roots : origin.Roots runtime payload approval task lease)
      (supports : lease.Supports runtime action now) (past : ∃ tick, tick < store.ticks ∧ now = runtime.clock tick)
      (covered : action.Covered runtime approval task payload.scope.allowedNetworkDomains)
      (asked : decision.decision = .allow → decision.evaluatedPolicyVersion = policyVersion → lease.mode ≠ .strict)
      (kept : ∃ current, store.capabilityLeases.get? lease.id = some current ∧ lease.Continues current)

/-- Something stands behind every action whose latest decision does not block it. -/
def Store.SanctionedBy (runtime : Runtime) (origins : Store → Prop) (store : Store) : Prop :=
  ∀ actionId action decision, store.proposedActions.get? actionId = some action →
    store.latestPolicyDecision actionId = some decision → decision.decision ≠ .block →
    store.Sanctions runtime origins action decision

section Roots

variable {runtime : Runtime} {permission : Permission} {origins : Store → Prop} {origin start before after : Store}
  {payload : CapabilityLeaseCreate} {approval : ApprovalRequest} {task : AgentTask} {lease current : CapabilityLease}
  {action : ProposedAction} {decision : PolicyDecision}

theorem Store.Roots.continue (roots : origin.Roots runtime payload approval task lease) (continues : lease.Continues current) :
    origin.Roots runtime payload approval task current := by
  obtain ⟨admits, linked, valid, approved, issued, grants, since⟩ := roots
  exact ⟨admits, linked, valid, approved, issued, grants, since.trans continues⟩

theorem Store.Roots.scope (roots : origin.Roots runtime payload approval task lease) :
    lease.scope = { payload.scope with metadata := lease.scope.metadata } := by
  obtain ⟨-, -, -, -, issued, grants, continues⟩ := roots
  rw [continues.concerns.2.2.2, grants.scope]

/-- A gate that let a lease through found a task whose approval it is. -/
theorem Store.Admits.roots (admits : origin.Admits payload approval) (valid : payload.scope.Valid)
    (grants : lease.Grants runtime payload approval) : ∃ task, origin.Roots runtime payload approval task lease := by
  obtain ⟨task, linked, approved⟩ := admits.covered
  exact ⟨task, admits, linked, valid, approved, lease, grants, lease.continues_self⟩

/-- Effects of one request keep leases rooted: what they grant, the store that the request met admits. -/
theorem TrustEffect.keepsRooted (effect : TrustEffect runtime permission before after) (known : origins start)
    (reviews : start.SameReviews before) (rooted : before.RootedIn runtime origins) : after.RootedIn runtime origins := by
  intro leaseId lease stored
  rcases effect.leaseOrigin stored with ⟨old, present, continues⟩ | ⟨-, granting⟩
  · obtain ⟨origin, payload, approval, task, among, roots⟩ := rooted leaseId old present
    exact ⟨origin, payload, approval, task, among, roots.continue continues⟩
  · obtain ⟨payload, approval, valid, admits, grants⟩ := granting.request
    obtain ⟨task, roots⟩ := (reviews.admits admits).roots valid grants
    exact ⟨start, payload, approval, task, known, roots⟩

theorem Store.Sanctions.later (sanctions : before.Sanctions runtime origins action decision)
    (time : before.ticks ≤ after.ticks)
    (leases : ∀ leaseId lease, before.capabilityLeases.get? leaseId = some lease →
      ∃ current, after.capabilityLeases.get? leaseId = some current ∧ lease.Continues current) :
    after.Sanctions runtime origins action decision := by
  cases sanctions with
  | unleased mild asked => exact .unleased mild asked
  | leased origin payload approval task lease now known roots supports past covered asked kept =>
    obtain ⟨tick, earlier, same⟩ := past
    obtain ⟨middle, present, continues⟩ := kept
    obtain ⟨current, found, further⟩ := leases lease.id middle present
    exact .leased origin payload approval task lease now known roots supports ⟨tick, Nat.lt_of_lt_of_le earlier time, same⟩
      covered asked ⟨current, found, continues.trans further⟩

/-- A human allows what the policy left to a human: no more than what stood behind it before. -/
theorem Store.Sanctions.ruled {ruling : PolicyDecision} (sanctions : before.Sanctions runtime origins action decision)
    (human : ruling.evaluatedPolicyVersion ≠ policyVersion) : before.Sanctions runtime origins action ruling := by
  cases sanctions with
  | unleased mild asked => exact .unleased mild fun _ => human
  | leased origin payload approval task lease now known roots supports past covered asked kept =>
    exact .leased origin payload approval task lease now known roots supports past covered
      (fun _ same => absurd same human) kept

theorem humanDecision_version (version : String) : version ++ humanDecisionMark ≠ policyVersion := by
  intro same
  have ends : humanDecisionMark.toList <:+ policyVersion.toList := ⟨version.toList, by rw [← same, String.toList_append]⟩
  rw [← List.isSuffixOf_iff_suffix] at ends
  revert ends
  decide

end Roots

section Judge

variable {runtime : Runtime} {permission : Permission} {origins : Store → Prop} {start before after : Store}

/-- What the policy lets pass is sanctioned when it is judged. -/
theorem sanctions_judged {action : ProposedAction} {decision : PolicyDecision} {now : Instant} (filed : before.Filed)
    (rooted : before.RootedIn runtime origins) (read : before.Reads runtime after now)
    (leases : after.capabilityLeases = before.capabilityLeases)
    (decided : decision.decision =
      (evaluateProposedAction runtime action (before.capabilityLeases.get? (action.leaseId.getD "")) now).decision)
    (passed : decision.decision ≠ .block) : after.Sanctions runtime origins action decision := by
  rw [decided] at passed
  rcases verdict_passes passed with ⟨-, mild, waits⟩ | ⟨lease, held, supports, asked⟩
  · exact .unleased mild fun allowed => absurd (decided ▸ allowed) waits
  · obtain ⟨origin, payload, approval, task, known, roots⟩ := rooted _ lease held
    obtain ⟨tick, -, earlier, same⟩ := read
    have named : lease.id = action.leaseId.getD "" := filed.leases _ _ held
    refine .leased origin payload approval task lease now known roots supports ⟨tick, earlier, same⟩
      (supports.under.covered roots.valid roots.approved roots.scope) (fun allowed _ => asked (decided ▸ allowed)) ?_
    exact ⟨lease, by rw [leases, named, held], lease.continues_self⟩

theorem TrustEffect.keepsSanctioned (effect : TrustEffect runtime permission before after) (moves : StrictMono runtime.clock)
    (filed : before.Filed) (dated : before.Dated runtime) (rooted : before.RootedIn runtime origins)
    (sanctioned : before.SanctionedBy runtime origins) : after.SanctionedBy runtime origins := by
  have leases : ∀ leaseId lease, before.capabilityLeases.get? leaseId = some lease →
      ∃ current, after.capabilityLeases.get? leaseId = some current ∧ lease.Continues current :=
    fun _ _ stored => chain_continues (.single effect) stored
  have time := effect.time
  -- an effect that judges nothing leaves every action with what stands behind it
  have unjudged : after.proposedActions = before.proposedActions → after.policyDecisions = before.policyDecisions →
      after.SanctionedBy runtime origins := by
    intro actions decisions actionId action decision stored latest passed
    rw [actions] at stored
    rw [latest_congr before decisions] at latest
    exact (sanctioned actionId action decision stored latest passed).later time leases
  cases effect with
  | elsewhere same => exact unjudged same.actions same.decisions
  | issue _ _ _ _ _ _ _ _ same => exact unjudged same.actions same.decisions
  | expire _ _ _ _ _ _ _ same => exact unjudged same.actions same.decisions
  | revoke _ _ _ _ _ _ _ same => exact unjudged same.actions same.decisions
  | consume _ _ _ _ _ _ _ _ _ _ _ _ _ same => exact unjudged same.actions same.decisions
  | evaluate judged ruling now permitted read records same =>
    intro actionId action decision stored latest passed
    by_cases here : actionId = judged.id
    · -- the payload on record is the one just judged, and the ruling is the latest
      rw [here, same.actions, Table.get?_set_self] at stored
      obtain rfl := Option.some.inj stored
      rw [here, latest_recorded moves dated records same.decisions] at latest
      obtain rfl := Option.some.inj latest
      exact sanctions_judged filed rooted read same.leases records.decided passed
    · rw [same.actions, Table.get?_set_other _ _ here] at stored
      rw [latest_congr (before.withDecision ruling) same.decisions,
        latest_other records.fresh (by rw [records.about]; exact Ne.symm here)] at latest
      exact (sanctioned actionId action decision stored latest passed).later time leases
  | authorize judged current ruling authorization known asked undecided first fresh about signed records same =>
    intro actionId action decision stored latest passed
    rw [same.actions] at stored
    by_cases here : actionId = judged.id
    · rw [here] at stored latest
      rw [latest_recorded moves dated records same.decisions] at latest
      obtain rfl := Option.some.inj latest
      -- the decision that a human answers was sanctioned before, and the answer keeps its policy version
      have waited : before.Sanctions runtime origins action current := by
        apply sanctioned judged.id action current stored asked
        rw [undecided]
        exact fun impossible => by cases impossible
      apply (waited.ruled _).later time leases
      rw [records.version]
      exact humanDecision_version current.evaluatedPolicyVersion
    · rw [latest_congr (before.withDecision ruling) same.decisions,
        latest_other records.fresh (by rw [records.about]; exact Ne.symm here)] at latest
      exact (sanctioned actionId action decision stored latest passed).later time leases

end Judge

section Reach

variable {runtime : Runtime} {allowed : Store → RunRequest → Prop} {origins wider : Store → Prop} {before after store : Store}

/-- What the sanctions of a store rest on. -/
structure Store.Grounded (runtime : Runtime) (origins : Store → Prop) (store : Store) : Prop where
  filed : store.Filed
  dated : store.Dated runtime
  rooted : store.RootedIn runtime origins
  sanctioned : store.SanctionedBy runtime origins

theorem Store.Grounded.mono (grounded : store.Grounded runtime origins) (widen : ∀ origin, origins origin → wider origin) :
    store.Grounded runtime wider := by
  refine ⟨grounded.filed, grounded.dated, ?_, ?_⟩
  · intro leaseId lease stored
    obtain ⟨origin, payload, approval, task, known, roots⟩ := grounded.rooted leaseId lease stored
    exact ⟨origin, payload, approval, task, widen origin known, roots⟩
  · intro actionId action decision stored latest passed
    cases grounded.sanctioned actionId action decision stored latest passed with
    | unleased mild asked => exact .unleased mild asked
    | leased origin payload approval task lease now known roots supports past covered asked kept =>
      exact .leased origin payload approval task lease now (widen origin known) roots supports past covered asked kept

theorem Store.SameLedger.grounded (same : before.SameLedger after) (grounded : before.Grounded runtime origins) :
    after.Grounded runtime origins := by
  refine ⟨⟨same.leases ▸ grounded.filed.leases, same.actions ▸ grounded.filed.actions⟩, grounded.dated.of_same same.decisions same.time, ?_, ?_⟩
  · intro leaseId lease stored
    rw [same.leases] at stored
    exact grounded.rooted leaseId lease stored
  · intro actionId action decision stored latest passed
    rw [same.actions] at stored
    rw [latest_congr before same.decisions] at latest
    apply (grounded.sanctioned actionId action decision stored latest passed).later same.time
    intro leaseId lease present
    rw [same.leases]
    exact ⟨lease, present, lease.continues_self⟩

theorem chain_grounded (moves : StrictMono runtime.clock) (known : origins before)
    (chain : ReflTransGen (TrustEffect runtime .all) before after) (grounded : before.Grounded runtime origins) :
    after.Grounded runtime origins := by
  induction chain with
  | refl => exact grounded
  | tail start effect ih =>
    exact ⟨effect.files ih.filed, effect.keepsDated ih.dated, effect.keepsRooted known (chain_reviews start) ih.rooted,
      effect.keepsSanctioned moves ih.filed ih.dated ih.rooted ih.sanctioned⟩

theorem next_grounded (moves : StrictMono runtime.clock) (known : origins store) (request : RunRequest)
    (grounded : store.Grounded runtime origins) : ((runMachine runtime).next store request).Grounded runtime origins := by
  rcases next_cases grounded.filed (allows_all store request) with chain | attests | ⟨change, -, same⟩
  · exact chain_grounded moves known chain grounded
  · exact attests.sameLedger.grounded grounded
  · rw [same]
    exact (applyOutside_sameLedger change store).grounded grounded

theorem fresh_grounded (fresh : store.Fresh) : store.Grounded runtime origins := by
  refine ⟨fresh_filed fresh, ?_, ?_, ?_⟩
  · intro decision member
    rw [fresh.policyDecisions] at member
    cases member
  · intro leaseId lease stored
    rw [fresh.capabilityLeases] at stored
    cases stored
  · intro actionId action decision stored
    rw [fresh.proposedActions] at stored
    cases stored

/-- The reachable stores that a history may have gone through on its way to this one. -/
def Store.Ancestor (runtime : Runtime) (store origin : Store) : Prop :=
  (runMachine runtime).Reachable Machine.anything origin ∧ (runMachine runtime).Follows Machine.anything origin store

theorem grounded_reachable (moves : StrictMono runtime.clock)
    (reachable : (runMachine runtime).Reachable Machine.anything store) :
    store.Grounded runtime (store.Ancestor runtime) := by
  obtain ⟨first, fresh, follows⟩ := reachable
  induction follows with
  | done => exact fresh_grounded fresh
  | step request rest permitted ih =>
    have here : ((runMachine runtime).Reachable Machine.anything _) := ⟨first, fresh, rest⟩
    apply (next_grounded moves ⟨here, .done _⟩ request ih).mono
    intro origin known
    exact ⟨known.1, .step request known.2 permitted⟩

end Reach

end ControlTower
