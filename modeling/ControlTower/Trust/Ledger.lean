import Mathlib.Order.Monotone.Defs
import ControlTower.Foundation.Exclusive
import ControlTower.Foundation.Growth
import ControlTower.Trust.Accounts

/-! The trust records as a ledger: decisions, human verdicts and consumptions are added
and never changed, an action has one verdict and one consumption, and a lease only runs
down. Where no action is submitted twice its payload stands too, and so does a decision
that leaves nothing to a human. -/

set_option autoImplicit false

namespace ControlTower

open Foundation
open Relation (ReflTransGen)

/-- A lease runs down: its terms stand, its totals do not shrink, and once it is over it
stays as it ended. -/
structure CapabilityLease.RunsDown (lease later : CapabilityLease) : Prop where
  continues : lease.Continues later
  seconds : lease.consumedRuntimeSeconds ≤ later.consumedRuntimeSeconds
  pullRequests : lease.consumedPullRequests ≤ later.consumedPullRequests
  retries : lease.consumedRetries ≤ later.consumedRetries
  final : lease.status ≠ .active → later.status = lease.status ∧ later.revokedAt = lease.revokedAt ∧
    later.revokedByUserId = lease.revokedByUserId ∧ later.revocationReason = lease.revocationReason

/-- What is on record stays on record. -/
structure Store.LedgerGrows (before after : Store) : Prop where
  decisions : before.policyDecisions.Grows after.policyDecisions
  authorizations : before.actionAuthorizations.Grows after.actionAuthorizations
  consumptions : before.actionConsumptions.Grows after.actionConsumptions
  actions : ∀ actionId ∈ before.proposedActions.keys, actionId ∈ after.proposedActions.keys
  leases : ∀ leaseId lease, before.capabilityLeases.get? leaseId = some lease →
    ∃ later, after.capabilityLeases.get? leaseId = some later ∧ lease.RunsDown later

section Grows

variable {runtime : Runtime} {permission : Permission} {before after : Store}

theorem CapabilityLease.runsDown_self (lease : CapabilityLease) : lease.RunsDown lease :=
  ⟨lease.continues_self, Nat.le_refl _, Nat.le_refl _, Nat.le_refl _, fun _ => ⟨rfl, rfl, rfl, rfl⟩⟩

theorem CapabilityLease.RunsDown.trans {first middle last : CapabilityLease} (start : first.RunsDown middle)
    (rest : middle.RunsDown last) : first.RunsDown last := by
  refine ⟨start.continues.trans rest.continues, start.seconds.trans rest.seconds,
    start.pullRequests.trans rest.pullRequests, start.retries.trans rest.retries, fun gone => ?_⟩
  obtain ⟨status, revokedAt, user, reason⟩ := start.final gone
  obtain ⟨status', revokedAt', user', reason'⟩ := rest.final (status ▸ gone)
  exact ⟨status'.trans status, revokedAt'.trans revokedAt, user'.trans user, reason'.trans reason⟩

theorem Store.ledgerGrows_self (store : Store) : store.LedgerGrows store :=
  ⟨.refl _, .refl _, .refl _, fun _ present => present, fun _ lease stored => ⟨lease, stored, lease.runsDown_self⟩⟩

theorem Store.LedgerGrows.trans {first middle last : Store} (start : first.LedgerGrows middle)
    (rest : middle.LedgerGrows last) : first.LedgerGrows last where
  decisions := start.decisions.trans rest.decisions
  authorizations := start.authorizations.trans rest.authorizations
  consumptions := start.consumptions.trans rest.consumptions
  actions actionId present := rest.actions actionId (start.actions actionId present)
  leases := by
    intro leaseId lease stored
    obtain ⟨kept, present, down⟩ := start.leases leaseId lease stored
    obtain ⟨later, found, further⟩ := rest.leases leaseId kept present
    exact ⟨later, found, down.trans further⟩

/-- The lease under one key changes, and only runs down. -/
theorem leases_adjust {leases : Table String CapabilityLease} {key : String} {lease : CapabilityLease}
    (stored : leases.get? key = some lease) {change : CapabilityLease → CapabilityLease} (down : lease.RunsDown (change lease)) :
    ∀ leaseId known, leases.get? leaseId = some known →
      ∃ later, (leases.adjust key change).get? leaseId = some later ∧ known.RunsDown later := by
  intro leaseId known present
  by_cases here : leaseId = key
  · subst here
    obtain rfl := Option.some.inj (stored.symm.trans present)
    exact ⟨change lease, adjust_here stored change, down⟩
  · exact ⟨known, by rw [adjust_elsewhere leases here, present], known.runsDown_self⟩

/-- Charging an active lease adds to its totals. -/
theorem charge_runsDown {lease : CapabilityLease} (active : lease.status = .active) (consumption : ActionConsumption)
    (now : Instant) : lease.RunsDown (lease.charge consumption now lease) :=
  ⟨⟨rfl, fun live => live⟩, Nat.le_add_right _ _, Nat.le_add_right _ _, Nat.le_add_right _ _,
    fun gone => absurd active gone⟩

theorem keys_set_more {α : Type} {table : Table String α} (key : String) (value : α) {other : String}
    (present : other ∈ table.keys) : other ∈ (table.set key value).keys := by
  obtain ⟨known, stored⟩ := Table.mem_keys.mp present
  rw [Table.mem_keys, Table.get?_set]
  split
  · exact ⟨value, rfl⟩
  · exact ⟨known, stored⟩

/-- Every effect adds to the ledger. -/
theorem TrustEffect.ledgerGrows (effect : TrustEffect runtime permission before after) : before.LedgerGrows after := by
  -- an effect that leaves the leases
  have leasesKept : after.capabilityLeases = before.capabilityLeases → ∀ leaseId lease,
      before.capabilityLeases.get? leaseId = some lease →
        ∃ later, after.capabilityLeases.get? leaseId = some later ∧ lease.RunsDown later := by
    intro same leaseId lease stored
    exact ⟨lease, by rw [same, stored], lease.runsDown_self⟩
  have actionsKept : after.proposedActions = before.proposedActions →
      ∀ actionId ∈ before.proposedActions.keys, actionId ∈ after.proposedActions.keys := by
    intro same actionId present
    rw [same]
    exact present
  cases effect with
  | elsewhere same =>
    exact ⟨.of_eq same.decisions, .of_eq same.authorizations, .of_eq same.consumptions, actionsKept same.actions,
      leasesKept same.leases⟩
  | issue payload approval lease valid admits grants fresh sole same =>
    refine ⟨.of_eq same.decisions, .of_eq same.authorizations, .of_eq same.consumptions, actionsKept same.actions, ?_⟩
    intro leaseId known stored
    have kept := Table.Grows.set (Table.get?_of_fresh fresh) lease leaseId known stored
    exact ⟨known, by rw [same.leases, kept], known.runsDown_self⟩
  | expire lease now updatedAt stored active read ended same =>
    refine ⟨.of_eq same.decisions, .of_eq same.authorizations, .of_eq same.consumptions, actionsKept same.actions, ?_⟩
    rw [same.leases]
    apply leases_adjust stored
    -- a lease that is over is not active again
    exact ⟨⟨rfl, fun impossible => by cases impossible⟩, Nat.le_refl _, Nat.le_refl _, Nat.le_refl _,
      fun gone => absurd active gone⟩
  | revoke lease user reason revokedAt updatedAt stored active same =>
    refine ⟨.of_eq same.decisions, .of_eq same.authorizations, .of_eq same.consumptions, actionsKept same.actions, ?_⟩
    rw [same.leases]
    apply leases_adjust stored
    exact ⟨⟨rfl, fun impossible => by cases impossible⟩, Nat.le_refl _, Nat.le_refl _, Nat.le_refl _,
      fun gone => absurd active gone⟩
  | consume action decision lease consumption now stored latest allowed first named held active pays same =>
    refine ⟨.of_eq same.decisions, .of_eq same.authorizations, ?_, actionsKept same.actions, ?_⟩
    · rw [same.consumptions]
      exact Table.Grows.set first consumption
    · rw [same.leases]
      exact leases_adjust held (charge_runsDown active consumption now)
  | evaluate action decision now permitted read records same =>
    refine ⟨?_, .of_eq same.authorizations, .of_eq same.consumptions, ?_, leasesKept same.leases⟩
    · rw [same.decisions]
      exact Table.Grows.set (Table.get?_of_fresh records.fresh) decision
    · rw [same.actions]
      exact fun actionId present => keys_set_more action.id action present
  | authorize action current decision authorization stored latest undecided first fresh about signed records same =>
    refine ⟨?_, ?_, .of_eq same.consumptions, actionsKept same.actions, leasesKept same.leases⟩
    · rw [same.decisions]
      exact Table.Grows.set (Table.get?_of_fresh records.fresh) decision
    · rw [same.authorizations]
      exact Table.Grows.set (Table.get?_of_fresh fresh) authorization

end Grows

section OneVerdict

variable {runtime : Runtime} {permission : Permission} {before after : Store}

/-- The authorization is a verdict on the action. -/
def ActionAuthorization.Settles (authorization : ActionAuthorization) (actionId : String) : Prop :=
  authorization.actionId = actionId

/-- An action has one human verdict, and verdicts and consumptions are about actions on record. -/
structure Store.Settled (store : Store) : Prop where
  sole : Exclusive ActionAuthorization.Settles store.actionAuthorizations
  judged : ∀ authorizationId authorization, store.actionAuthorizations.get? authorizationId = some authorization →
    authorization.actionId ∈ store.proposedActions.keys
  decided : ∀ decision ∈ store.policyDecisions.values, decision.proposedActionId ∈ store.proposedActions.keys
  consumed : ∀ actionId ∈ store.actionConsumptions.keys, actionId ∈ store.proposedActions.keys

theorem authorizationOf_none {store : Store} {actionId : String} (none_ : store.authorizationOf actionId = none) :
    Unclaimed ActionAuthorization.Settles store.actionAuthorizations actionId := by
  intro authorizationId authorization stored settles
  have missed := List.find?_eq_none.mp none_ authorization (Table.mem_values.mpr ⟨authorizationId, stored⟩)
  simp only [beq_iff_eq] at missed
  exact missed settles

theorem Store.Settled.of_same (settled : before.Settled) (authorizations : after.actionAuthorizations = before.actionAuthorizations)
    (decisions : after.policyDecisions = before.policyDecisions)
    (consumptions : ∀ actionId ∈ after.actionConsumptions.keys, actionId ∈ before.proposedActions.keys)
    (actions : ∀ actionId ∈ before.proposedActions.keys, actionId ∈ after.proposedActions.keys) : after.Settled where
  sole := by
    rw [authorizations]
    exact settled.sole
  judged := by
    rw [authorizations]
    exact fun authorizationId authorization stored => actions _ (settled.judged authorizationId authorization stored)
  decided := by
    rw [decisions]
    exact fun decision member => actions _ (settled.decided decision member)
  consumed actionId present := actions _ (consumptions actionId present)

theorem TrustEffect.keepsSettled (effect : TrustEffect runtime permission before after) (settled : before.Settled) :
    after.Settled := by
  have grows := effect.ledgerGrows.actions
  have consumedBefore : after.actionConsumptions = before.actionConsumptions →
      ∀ actionId ∈ after.actionConsumptions.keys, actionId ∈ before.proposedActions.keys := by
    intro same
    rw [same]
    exact settled.consumed
  cases effect with
  | elsewhere same => exact settled.of_same same.authorizations same.decisions (consumedBefore same.consumptions) grows
  | issue payload approval lease valid admits grants fresh sole same =>
    exact settled.of_same same.authorizations same.decisions (consumedBefore same.consumptions) grows
  | expire lease now updatedAt stored active read ended same =>
    exact settled.of_same same.authorizations same.decisions (consumedBefore same.consumptions) grows
  | revoke lease user reason revokedAt updatedAt stored active same =>
    exact settled.of_same same.authorizations same.decisions (consumedBefore same.consumptions) grows
  | consume action decision lease consumption now stored latest allowed first named held active pays same =>
    apply settled.of_same same.authorizations same.decisions _ grows
    intro actionId present
    -- the consumed action is on record
    rw [same.consumptions, Table.mem_keys, Table.get?_set] at present
    split at present
    · next here =>
      rw [here]
      exact Table.mem_keys.mpr ⟨action, stored⟩
    · exact settled.consumed actionId (Table.mem_keys.mpr present)
  | evaluate action decision now permitted read records same =>
    refine ⟨by rw [same.authorizations]; exact settled.sole, ?_, ?_, fun actionId present => grows _ ?_⟩
    · rw [same.authorizations]
      exact fun authorizationId authorization stored => grows _ (settled.judged authorizationId authorization stored)
    · rw [same.decisions, Table.values_set_fresh decision records.fresh]
      intro other member
      rcases List.mem_append.mp member with earlier | last
      · exact grows _ (settled.decided other earlier)
      · rw [List.mem_singleton.mp last, records.about, same.actions]
        exact Table.mem_keys.mpr ⟨action, Table.get?_set_self _ _ _⟩
    · exact consumedBefore same.consumptions actionId present
  | authorize action current decision authorization stored latest undecided first fresh about signed records same =>
    have present : action.id ∈ before.proposedActions.keys := Table.mem_keys.mpr ⟨action, stored⟩
    refine ⟨?_, ?_, ?_, fun actionId consumed => grows _ (consumedBefore same.consumptions actionId consumed)⟩
    · rw [same.authorizations]
      apply settled.sole.welcome authorization.id
      · intro other different value found
        rw [Table.get?_set_other _ _ different] at found
        exact ⟨value, found, fun _ settles => settles⟩
      · intro value found actionId settles
        rw [Table.get?_set_self] at found
        obtain rfl := Option.some.inj found
        obtain rfl : action.id = actionId := about.symm.trans settles
        exact authorizationOf_none first
    · rw [same.authorizations]
      intro authorizationId value found
      rw [Table.get?_set] at found
      split at found
      · obtain rfl := Option.some.inj found
        exact grows _ (about ▸ present)
      · exact grows _ (settled.judged authorizationId value found)
    · rw [same.decisions, Table.values_set_fresh decision records.fresh]
      intro other member
      rcases List.mem_append.mp member with earlier | last
      · exact grows _ (settled.decided other earlier)
      · rw [List.mem_singleton.mp last, records.about]
        exact grows _ present

end OneVerdict

/-- Only actions that are not on record yet are evaluated. -/
def Permission.novel : Permission where
  permits store action := action.id ∉ store.proposedActions.keys
  new _ _ fresh := fresh
  framed before after action actions _ _ permits := by
    rw [actions]
    exact permits

/-- A decision that left the action to a human has been answered by one, once, on this payload. -/
def Store.Answers (runtime : Runtime) (store : Store) (action : ProposedAction) (decision : PolicyDecision) : Prop :=
  decision.decision = .requireApproval ∧ ∃ authorization ruling,
    store.authorizationOf action.id = some authorization ∧
    verifyActionAuthorization runtime authorization action = true ∧
    store.latestPolicyDecision action.id = some ruling ∧
    ruling.decision = (effectiveVerdict authorization.decision decision.riskLevel).decision

/-- What is on record about an action stands: its payload, its human verdict, and its latest
decision unless that one waits for a human and has been answered. -/
structure Store.StandsFor (runtime : Runtime) (before after : Store) (action : ProposedAction) : Prop where
  payload : after.proposedActions.get? action.id = some action
  verdict : ∀ authorization, before.authorizationOf action.id = some authorization →
    after.authorizationOf action.id = some authorization
  latest : ∀ decision, before.latestPolicyDecision action.id = some decision →
    after.latestPolicyDecision action.id = some decision ∨ after.Answers runtime action decision

section Stands

variable {runtime : Runtime} {before after : Store} {action : ProposedAction}

theorem effectiveVerdict_settles (verdict : ActionAuthorizationDecision) (riskLevel : RiskLevel) :
    (effectiveVerdict verdict riskLevel).decision ≠ .requireApproval := by
  cases verdict <;> exact fun same => by cases same

theorem standsFor_same (stored : before.proposedActions.get? action.id = some action)
    (actions : after.proposedActions = before.proposedActions) (decisions : after.policyDecisions = before.policyDecisions)
    (authorizations : after.actionAuthorizations = before.actionAuthorizations) : before.StandsFor runtime after action where
  payload := by rw [actions, stored]
  verdict authorization found := by
    unfold Store.authorizationOf at found ⊢
    rw [authorizations]
    exact found
  latest decision found := .inl ((latest_congr before decisions action.id).trans found)

theorem Store.StandsFor.trans {middle last : Store} (start : before.StandsFor runtime middle action)
    (rest : middle.StandsFor runtime last action) : before.StandsFor runtime last action where
  payload := rest.payload
  verdict authorization found := rest.verdict authorization (start.verdict authorization found)
  latest := by
    intro decision found
    rcases start.latest decision found with same | ⟨waits, authorization, ruling, verdict, signed, latest, ruled⟩
    · exact rest.latest decision same
    · -- the ruling of a human leaves nothing to a human
      rcases rest.latest ruling latest with same | ⟨again, -⟩
      · exact .inr ⟨waits, authorization, ruling, rest.verdict authorization verdict, signed, same, ruled⟩
      · rw [ruled] at again
        exact absurd again (effectiveVerdict_settles _ _)

theorem authorizationOf_set {authorization found : ActionAuthorization} {actionId : String}
    (fresh : authorization.id ∉ before.actionAuthorizations.keys)
    (authorizations : after.actionAuthorizations = before.actionAuthorizations.set authorization.id authorization)
    (known : before.authorizationOf actionId = some found) : after.authorizationOf actionId = some found := by
  unfold Store.authorizationOf at known ⊢
  rw [authorizations, Table.values_set_fresh authorization fresh, List.find?_append, known]
  rfl

theorem authorizationOf_first {authorization : ActionAuthorization} {actionId : String}
    (fresh : authorization.id ∉ before.actionAuthorizations.keys)
    (authorizations : after.actionAuthorizations = before.actionAuthorizations.set authorization.id authorization)
    (about : authorization.actionId = actionId) (first : before.authorizationOf actionId = none) :
    after.authorizationOf actionId = some authorization := by
  unfold Store.authorizationOf at first ⊢
  rw [authorizations, Table.values_set_fresh authorization fresh, List.find?_append, first]
  simp [about]

/-- Decisions carry readings of the clock from before the present one. -/
theorem Store.Dated.of_same (dated : before.Dated runtime) (decisions : after.policyDecisions = before.policyDecisions)
    (time : before.ticks ≤ after.ticks) : after.Dated runtime := by
  intro decision member
  rw [decisions] at member
  obtain ⟨tick, past, same⟩ := dated decision member
  exact ⟨tick, Nat.lt_of_lt_of_le past time, same⟩

theorem Store.Dated.records {permission : Permission} {verdict : Verdict} {version : String} {decision : PolicyDecision}
    (dated : before.Dated runtime) (effect : TrustEffect runtime permission before after)
    (records : before.Records runtime after action verdict version decision)
    (decisions : after.policyDecisions = before.policyDecisions.set decision.id decision) : after.Dated runtime := by
  intro other member
  rw [decisions, Table.values_set_fresh decision records.fresh] at member
  rcases List.mem_append.mp member with earlier | last
  · obtain ⟨tick, past, same⟩ := dated other earlier
    exact ⟨tick, Nat.lt_of_lt_of_le past effect.time, same⟩
  · obtain ⟨tick, -, until_, same⟩ := records.dated
    rw [List.mem_singleton.mp last]
    exact ⟨tick, until_, same⟩

theorem TrustEffect.keepsDated {permission : Permission} (effect : TrustEffect runtime permission before after)
    (dated : before.Dated runtime) : after.Dated runtime := by
  have whole := effect
  cases effect with
  | elsewhere same => exact dated.of_same same.decisions same.time
  | issue _ _ _ _ _ _ _ _ same => exact dated.of_same same.decisions same.time
  | expire _ _ _ _ _ _ _ same => exact dated.of_same same.decisions same.time
  | revoke _ _ _ _ _ _ _ same => exact dated.of_same same.decisions same.time
  | consume _ _ _ _ _ _ _ _ _ _ _ _ _ same => exact dated.of_same same.decisions same.time
  | evaluate _ _ _ _ _ records same => exact dated.records whole records same.decisions
  | authorize _ _ _ _ _ _ _ _ _ _ _ records same => exact dated.records whole records same.decisions

/-- Under a clock that always moves on, a new decision is the latest one on its action. -/
theorem latest_recorded {verdict : Verdict} {version : String} {decision : PolicyDecision} (moves : StrictMono runtime.clock)
    (dated : before.Dated runtime) (records : before.Records runtime after action verdict version decision)
    (decisions : after.policyDecisions = before.policyDecisions.set decision.id decision) :
    after.latestPolicyDecision action.id = some decision := by
  have newest : ∀ earlier ∈ before.policyDecisions.values, earlier.evaluatedAt < decision.evaluatedAt := by
    intro earlier member
    obtain ⟨tick, past, same⟩ := dated earlier member
    obtain ⟨now, since, -, here⟩ := records.dated
    rw [same, here]
    exact moves (Nat.lt_of_lt_of_le past since)
  rw [latest_congr (before.withDecision decision) decisions, ← records.about]
  exact latest_new records.fresh newest

/-- Every effect leaves the record of an action standing, where no action is evaluated twice. -/
theorem TrustEffect.stands (effect : TrustEffect runtime .novel before after) (moves : StrictMono runtime.clock)
    (dated : before.Dated runtime) (stored : before.proposedActions.get? action.id = some action) :
    before.StandsFor runtime after action := by
  cases effect with
  | elsewhere same => exact standsFor_same stored same.actions same.decisions same.authorizations
  | issue _ _ _ _ _ _ _ _ same => exact standsFor_same stored same.actions same.decisions same.authorizations
  | expire _ _ _ _ _ _ _ same => exact standsFor_same stored same.actions same.decisions same.authorizations
  | revoke _ _ _ _ _ _ _ same => exact standsFor_same stored same.actions same.decisions same.authorizations
  | consume _ _ _ _ _ _ _ _ _ _ _ _ _ same =>
    exact standsFor_same stored same.actions same.decisions same.authorizations
  | evaluate evaluated decision now permitted read records same =>
    -- the evaluated action is new, so it is another one
    have other : action.id ≠ evaluated.id := by
      intro here
      have novel : evaluated.id ∉ before.proposedActions.keys := permitted
      exact novel (here ▸ Table.mem_keys.mpr ⟨action, stored⟩)
    refine ⟨?_, ?_, fun latest found => .inl ?_⟩
    · rw [same.actions, Table.get?_set_other _ _ other, stored]
    · intro authorization found
      unfold Store.authorizationOf at found ⊢
      rw [same.authorizations]
      exact found
    · rw [latest_congr (before.withDecision decision) same.decisions,
        latest_other records.fresh (by rw [records.about]; exact other.symm), found]
  | authorize judged current decision authorization known latest undecided first fresh about signed records same =>
    refine ⟨by rw [same.actions, stored], fun _ found => authorizationOf_set fresh same.authorizations found, ?_⟩
    intro earlier found
    by_cases here : action.id = judged.id
    · -- a verdict on the action itself: its latest decision, undecided so far, is replaced for good
      rw [here] at stored found
      obtain rfl : action = judged := Option.some.inj (stored.symm.trans known)
      obtain rfl : earlier = current := Option.some.inj (found.symm.trans latest)
      refine .inr ⟨undecided, authorization, decision, ?_, signed, ?_, records.decided⟩
      · exact authorizationOf_first fresh same.authorizations about first
      · exact latest_recorded moves dated records same.decisions
    · refine .inl ?_
      rw [latest_congr (before.withDecision decision) same.decisions,
        latest_other records.fresh (by rw [records.about]; exact Ne.symm here), found]

end Stands

end ControlTower
