import ControlTower.Run.Accounts
import ControlTower.Trust.Ledger

/-! The trust ledger over whole histories of the service. -/

set_option autoImplicit false

namespace ControlTower

open Foundation

/-- A request submits no action that is on record already. -/
def RunRequest.KeepsPayloads (store : Store) (request : RunRequest) : Prop := Permission.novel.Allows store request

section Reach

variable {runtime : Runtime} {allowed : Store → RunRequest → Prop} {first before after store : Store}

theorem Store.SameLedger.grows (same : before.SameLedger after) : before.LedgerGrows after where
  decisions := .of_eq same.decisions
  authorizations := .of_eq same.authorizations
  consumptions := .of_eq same.consumptions
  actions := by
    rw [same.actions]
    exact fun _ present => present
  leases := by
    rw [same.leases]
    exact fun _ lease stored => ⟨lease, stored, lease.runsDown_self⟩

theorem Store.SameLedger.settled (same : before.SameLedger after) (settled : before.Settled) : after.Settled := by
  apply settled.of_same same.authorizations same.decisions
  · rw [same.consumptions]
    exact settled.consumed
  · rw [same.actions]
    exact fun _ present => present

theorem fresh_settled (fresh : store.Fresh) : store.Settled where
  sole := by
    rw [fresh.actionAuthorizations]
    exact exclusive_empty
  judged := by
    rw [fresh.actionAuthorizations]
    exact fun _ _ stored => by cases stored
  decided := by
    rw [fresh.policyDecisions]
    exact fun _ member => by cases member
  consumed := by
    rw [fresh.actionConsumptions]
    exact fun _ present => by cases present

/-- The store is settled and keeps the ledger of an earlier one. -/
def Store.Outgrows (first store : Store) : Prop := first.LedgerGrows store ∧ store.Settled

theorem settled_reachable (reachable : (runMachine runtime).Reachable allowed store) : store.Filed ∧ store.Settled :=
  reachable_keeps (fun _ _ _ => allows_all _ _) (fun _ fresh => fresh_settled fresh)
    (fun _ _ effect _ settled => effect.keepsSettled settled) (fun _ _ same settled => same.settled settled) reachable

end Reach

section Verdicts

variable {runtime : Runtime} {first before after store : Store}

/-- Whatever was consumed is allowed. -/
def Store.ConsumedAllowed (store : Store) : Prop :=
  ∀ actionId ∈ store.actionConsumptions.keys,
    ∃ decision, store.latestPolicyDecision actionId = some decision ∧ decision.decision = .allow

/-- What the records of a store rest on, where no action is evaluated twice. -/
structure Store.Standing (runtime : Runtime) (store : Store) : Prop where
  dated : store.Dated runtime
  settled : store.Settled
  consumed : store.ConsumedAllowed

/-- A decision to allow stands. -/
theorem allowed_stands {action : ProposedAction} {decision : PolicyDecision} (stands : before.StandsFor runtime after action)
    (latest : before.latestPolicyDecision action.id = some decision) (allowed : decision.decision = .allow) :
    after.latestPolicyDecision action.id = some decision := by
  rcases stands.latest decision latest with same | ⟨waits, -⟩
  · exact same
  · rw [allowed] at waits
    cases waits

theorem keepsStanding (effect : TrustEffect runtime .novel before after) (moves : StrictMono runtime.clock)
    (filed : before.Filed) (standing : before.Standing runtime) : after.Standing runtime := by
  have older : ∀ actionId ∈ before.actionConsumptions.keys,
      ∃ decision, after.latestPolicyDecision actionId = some decision ∧ decision.decision = .allow := by
    intro actionId consumed
    obtain ⟨decision, latest, allowed⟩ := standing.consumed actionId consumed
    obtain ⟨action, stored⟩ := Table.mem_keys.mp (standing.settled.consumed actionId consumed)
    obtain rfl := filed.actions actionId action stored
    exact ⟨decision, allowed_stands (effect.stands moves standing.dated stored) latest allowed, allowed⟩
  refine ⟨effect.keepsDated standing.dated, effect.keepsSettled standing.settled, ?_⟩
  intro actionId consumed
  cases effect with
  | consume action decision lease consumption now stored latest allowed first named held active pays same =>
    rw [same.consumptions, Table.mem_keys, Table.get?_set] at consumed
    split at consumed
    · next here =>
      rw [latest_congr before same.decisions, here]
      exact ⟨decision, latest, allowed⟩
    · exact older actionId (Table.mem_keys.mpr consumed)
  | elsewhere same => exact older actionId (same.consumptions ▸ consumed)
  | issue _ _ _ _ _ _ _ _ same => exact older actionId (same.consumptions ▸ consumed)
  | expire _ _ _ _ _ _ _ same => exact older actionId (same.consumptions ▸ consumed)
  | revoke _ _ _ _ _ _ _ same => exact older actionId (same.consumptions ▸ consumed)
  | evaluate _ _ _ _ _ _ same => exact older actionId (same.consumptions ▸ consumed)
  | authorize _ _ _ _ _ _ _ _ _ _ _ _ same => exact older actionId (same.consumptions ▸ consumed)

theorem Store.SameLedger.standing (same : before.SameLedger after) (standing : before.Standing runtime) :
    after.Standing runtime := by
  refine ⟨standing.dated.of_same same.decisions same.time, same.settled standing.settled, ?_⟩
  intro actionId consumed
  rw [same.consumptions] at consumed
  rw [latest_congr before same.decisions]
  exact standing.consumed actionId consumed

theorem fresh_standing (fresh : store.Fresh) : store.Standing runtime := by
  refine ⟨?_, fresh_settled fresh, ?_⟩
  · intro decision member
    rw [fresh.policyDecisions] at member
    cases member
  · intro actionId consumed
    rw [fresh.actionConsumptions] at consumed
    cases consumed

/-- The store stands, and what an earlier one says about its actions stands in it. -/
def Store.Upholds (runtime : Runtime) (first store : Store) : Prop :=
  store.Standing runtime ∧ ∀ actionId action, first.proposedActions.get? actionId = some action →
    action.id = actionId ∧ first.StandsFor runtime store action

/-- Verdicts stand where no action is submitted twice. Under a clock that always moves on,
an action on record keeps its payload; its latest decision changes at most once, when a
human answers a decision that asked for one, by the one signed verdict on this payload;
and whatever was consumed is allowed. -/
theorem verdicts_stand (runtime : Runtime) (moves : StrictMono runtime.clock) (store later : Store)
    (reachable : (runMachine runtime).Reachable RunRequest.KeepsPayloads store)
    (follows : (runMachine runtime).Follows RunRequest.KeepsPayloads store later) :
    (∀ actionId action, store.proposedActions.get? actionId = some action →
      later.proposedActions.get? actionId = some action ∧
        ∀ decision, store.latestPolicyDecision actionId = some decision →
          later.latestPolicyDecision actionId = some decision ∨ later.Answers runtime action decision) ∧
      later.ConsumedAllowed := by
  have standing : store.Filed ∧ store.Standing runtime :=
    reachable_keeps (fun _ _ keeps => keeps) (fun _ fresh => fresh_standing fresh)
      (fun _ _ effect filed holds => keepsStanding effect moves filed holds) (fun _ _ same holds => same.standing holds)
      reachable
  have start : store.Upholds runtime store := by
    refine ⟨standing.2, fun actionId action stored => ?_⟩
    obtain rfl := standing.1.actions actionId action stored
    exact ⟨rfl, standsFor_same stored rfl rfl rfl⟩
  have kept : later.Filed ∧ store.Upholds runtime later := by
    apply follows_keeps (fun _ _ keeps => keeps) _ _ follows standing.1 start
    · intro before after effect filed holds
      refine ⟨keepsStanding effect moves filed holds.1, fun actionId action stored => ?_⟩
      obtain ⟨named, stands⟩ := holds.2 actionId action stored
      exact ⟨named, stands.trans (effect.stands moves holds.1.dated stands.payload)⟩
    · intro before after same holds
      refine ⟨same.standing holds.1, fun actionId action stored => ?_⟩
      obtain ⟨named, stands⟩ := holds.2 actionId action stored
      exact ⟨named, stands.trans (standsFor_same stands.payload same.actions same.decisions same.authorizations)⟩
  refine ⟨fun actionId action stored => ?_, kept.2.1.consumed⟩
  obtain ⟨rfl, stands⟩ := kept.2.2 actionId action stored
  exact ⟨stands.payload, stands.latest⟩

/-- An action that waits for a human under a strict lease. -/
def waitingRequests : List RunRequest :=
  [.issueLease (leaseRequest .strict) sampleOwner, .evaluateManual (commandAction (some "lease_")) sampleOwner]

/-- The verdict that answers it. -/
def allowRequest : RunRequest := .decide "action_1" ⟨.allow, "reviewed", by decide⟩ sampleOwner

/-- The action keeps its payload through the verdict that allows it. -/
theorem verdicts_stand_answered : ∃ action decision ruling,
    (storeAfter (.plain true) waitingRequests).proposedActions.get? "action_1" = some action ∧
    (storeAfter (.plain true) waitingRequests).latestPolicyDecision "action_1" = some decision ∧
    decision.decision = .requireApproval ∧
    ((runMachine (.plain true)).next (storeAfter (.plain true) waitingRequests) allowRequest).proposedActions.get? "action_1" =
      some action ∧
    ((runMachine (.plain true)).next (storeAfter (.plain true) waitingRequests) allowRequest).latestPolicyDecision "action_1" =
      some ruling ∧ ruling.decision = .allow := by
  have moves : StrictMono (Runtime.plain true).clock := by
    intro first second earlier
    exact Nat.mul_lt_mul_of_pos_right earlier (by decide)
  have permitted : Machine.AllowedAll (runMachine (.plain true)) RunRequest.KeepsPayloads (approvedStore (.plain true))
      waitingRequests := by
    refine ⟨fun _ submits => submits.elim, ?_, trivial⟩
    rintro action rfl
    show _ ∉ _
    decide +kernel
  have reachable : (runMachine (.plain true)).Reachable RunRequest.KeepsPayloads (storeAfter (.plain true) waitingRequests) :=
    ⟨_, approvedStore_fresh _, Machine.follows_runAll _ _ permitted⟩
  have stored : ((storeAfter (.plain true) waitingRequests).proposedActions.get? "action_1").isSome = true := by decide +kernel
  have waits : ((storeAfter (.plain true) waitingRequests).latestPolicyDecision "action_1").any
      (fun decision => decision.decision = .requireApproval) = true := by decide +kernel
  have allows : (((runMachine (.plain true)).next (storeAfter (.plain true) waitingRequests)
      allowRequest).latestPolicyDecision "action_1").any (fun ruling => ruling.decision = .allow) = true := by decide +kernel
  obtain ⟨action, found⟩ := Option.isSome_iff_exists.mp stored
  obtain ⟨decision, latest, undecided⟩ := (Option.any_eq_true _ _).mp waits
  obtain ⟨ruling, ruled, allowed⟩ := (Option.any_eq_true _ _).mp allows
  have stands := verdicts_stand (.plain true) moves _ _ reachable
    (.step allowRequest (.done (storeAfter (.plain true) waitingRequests)) fun _ submits => submits.elim)
  exact ⟨action, decision, ruling, found, latest, of_decide_eq_true undecided, (stands.1 "action_1" action found).1, ruled,
    of_decide_eq_true allowed⟩

end Verdicts

end ControlTower
