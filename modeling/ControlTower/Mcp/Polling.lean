import ControlTower.Mcp.Attempts

/-! Resolves that come before the decision. A resolve that meets a request which
is final or under a live lease changes nothing but the clock and the memory of
the gateway; one that meets a request it may take up settles it at once, decided
or not. -/

set_option autoImplicit false

namespace ControlTower

open Foundation
open Foundation.Procedure

variable {runtime : Runtime} {store after : McpStore} {approvalRequestId : String}

def undecidedApprovalStatuses : List ApprovalStatus := [.requested, .pendingReview, .revisionRequested]

/-- Nobody has decided on the approval yet. -/
def McpStore.Undecided (store : McpStore) (approvalRequestId : String) : Prop :=
  ∃ approval, store.approvalRequests.get? approvalRequestId = some approval ∧
    approval.status ∈ undecidedApprovalStatuses

/-- A resolve gets past the look at the project and at the pending request. -/
def McpStore.Ripe (runtime : Runtime) (store : McpStore) (approvalRequestId : String) : Prop :=
  (∃ approval, store.approvalRequests.get? approvalRequestId = some approval ∧ approval.projectId ∈ store.projects) ∧
    ∃ pending, store.pendingForApproval approvalRequestId = some pending ∧ store.Ready runtime pending

/-- What becomes of a request that a resolve takes up. -/
def settledStatus (runtime : Runtime) (approval : ApprovalRequest) : MCPPendingStatus :=
  if approval.status ≠ .approved then .blockedByDecision
  else if Text.present approval.approvedPayloadHash = true ∧
      some (computeApprovalPayloadHash runtime approval) = approval.approvedPayloadHash then .forwarding
  else .waitingForApproval

/-- Two stores that differ in the clock and in the memory of the gateways alone. -/
def Alike (first second : McpStore) : Prop :=
  ∃ ticks gateways, second = { first with ticks, gateways }

theorem Alike.refl (store : McpStore) : Alike store store := ⟨store.ticks, store.gateways, rfl⟩

theorem Alike.trans {first middle last : McpStore} (start : Alike first middle) (rest : Alike middle last) :
    Alike first last := by
  obtain ⟨_, _, rfl⟩ := start
  obtain ⟨ticks, gateways, rfl⟩ := rest
  exact ⟨ticks, gateways, rfl⟩

theorem Alike.tick {first second : McpStore} (alike : Alike (Clocked.tick first) second) : Alike first second := by
  obtain ⟨ticks, gateways, rfl⟩ := alike
  exact ⟨ticks, gateways, rfl⟩

section Unripe

theorem gatewayForProject_alike (projectId : String) :
    (gatewayForProject projectId).Ends store fun _ after => after.ticks = store.ticks ∧ Alike store after := by
  unfold gatewayForProject
  apply ends_read
  apply ends_guard
  · exact ⟨rfl, Alike.refl store⟩
  intro _
  rw [ends_onlyIf]
  constructor
  · intro _
    exact ⟨rfl, store.ticks, _, rfl⟩
  · intro _
    exact ⟨rfl, Alike.refl store⟩

/-- A live lease stays. -/
theorem releaseExpiredLease_live {pending : MCPPendingRequest} (forwarding : pending.status = .forwarding)
    (live : ¬ store.Lapsed runtime pending) :
    (releaseExpiredLease runtime pending).Ends store fun outcome after => outcome = .ok true ∧ Alike store after := by
  unfold releaseExpiredLease
  rw [if_pos forwarding]
  apply Ends.bind (leaseStillGood_ends pending.leaseExpiresAt)
  · rintro good middle ⟨other, same, lapse, moved⟩
    cases same
    cases good with
    | false => exact absurd ⟨forwarding, lapse.mp rfl⟩ live
    | true =>
      rcases moved with rfl | rfl
      · exact ⟨rfl, Alike.refl _⟩
      · exact ⟨rfl, (Alike.refl _).tick⟩
  · rintro error middle ⟨_, impossible, -⟩
    cases impossible

/-- A resolve of a request that it may not take up changes nothing that another request sees. -/
theorem resolveGatewayRequest_unripe {pending : MCPPendingRequest}
    (found : store.pendingForApproval approvalRequestId = some pending) (unripe : ¬ store.Ripe runtime approvalRequestId) :
    (resolveGatewayRequest runtime approvalRequestId).Ends store fun outcome after =>
      ResolveOutcome.forwards outcome = false ∧ Alike store after := by
  unfold resolveGatewayRequest
  apply ends_read
  cases stored : store.approvalRequests.get? approvalRequestId with
  | none => exact ⟨rfl, Alike.refl store⟩
  | some approval =>
    rw [ends_bind, ends_found_some, continue_ok]
    have made : (gatewayForProject approval.projectId).Ends store fun _ after =>
        after.ticks = store.ticks ∧ Alike store after := gatewayForProject_alike approval.projectId
    apply Ends.bind (made.and (gatewayForProject_known approval.projectId))
    · rintro _ middle ⟨⟨time, start⟩, known⟩
      -- were the request ready, it would be ripe: the project of its approval is known
      have unready : ¬ store.Ready runtime pending := fun ready =>
        unripe ⟨⟨approval, stored, known.mp rfl⟩, pending, found, ready⟩
      obtain ⟨_, gateways, rfl⟩ := start
      subst time
      unfold resolveAfterSideChannelDecision
      apply ends_read
      have still : McpStore.pendingForApproval { store with gateways } approvalRequestId = some pending := found
      rw [still]
      by_cases final : pending.status ∈ finalPendingStatuses
      · simp only [final, if_true, ends_bind, setPendingCalls, ends_modify, continue_ok, withheldDecision, ends_pure]
        exact ⟨rfl, store.ticks, _, rfl⟩
      · -- neither waiting nor final: it is forwarded, and its lease is good
        simp only [final, if_false]
        have forwarding : pending.status = .forwarding := by
          have notWaiting : pending.status ≠ .waitingForApproval := fun waits => unready (.inl waits)
          cases status : pending.status <;> simp_all [finalPendingStatuses]
        have live : ¬ McpStore.Lapsed runtime { store with gateways } pending := fun lapsed => unready (.inr lapsed)
        apply Ends.bind (releaseExpiredLease_live forwarding live)
        · rintro leased last ⟨same, rest⟩
          cases same
          refine ⟨rfl, ?_⟩
          have first : Alike store { store with gateways } := ⟨store.ticks, gateways, rfl⟩
          exact first.trans rest
        · rintro error last ⟨impossible, -⟩
          cases impossible
    · rintro error middle ⟨⟨-, alike⟩, -⟩
      exact ⟨rfl, alike⟩

end Unripe

section Ripe

/-- The request of an approval ends with this status. -/
def McpStore.Shows (store : McpStore) (approvalRequestId : String) (status : MCPPendingStatus) : Prop :=
  ∃ pending, store.pendingForApproval approvalRequestId = some pending ∧ pending.status = status

theorem Touches.shows {change : MCPPendingRequest → MCPPendingRequest → Prop}
    (touches : Touches approvalRequestId change store after) {pending : MCPPendingRequest}
    (found : store.pendingForApproval approvalRequestId = some pending) {status : MCPPendingStatus}
    (leaves : ∀ changed, change pending changed → changed.status = status) : after.Shows approvalRequestId status := by
  obtain ⟨changed, kept, -, moved⟩ := touches.present pending found
  exact ⟨changed, kept, leaves changed moved⟩

/-- The checks on a waiting request settle it. -/
theorem resolveUnleased_settles (sound : store.Sound) {approval : ApprovalRequest} {pending : MCPPendingRequest}
    (stored : store.approvalRequests.get? approvalRequestId = some approval)
    (found : store.pendingForApproval approvalRequestId = some pending) (waits : pending.status = .waitingForApproval)
    (projectId : String) :
    (resolveUnleased runtime projectId approvalRequestId).Ends store fun _ after =>
      after.Shows approvalRequestId (settledStatus runtime approval) := by
  have named : approval.id = approvalRequestId := sound.filed _ _ stored
  have waiting : ∀ other, store.pendingForApproval approvalRequestId = some other → other.status = .waitingForApproval := by
    intro other present
    rw [found] at present
    cases present
    exact waits
  unfold resolveUnleased settledStatus
  apply ends_read
  rw [stored]
  by_cases pass : approval.status = .approved
  · simp only [pass, ne_eq, not_true_eq_false, if_false]
    by_cases present : Text.present approval.approvedPayloadHash = false
    · simp only [present, if_true, Bool.false_eq_true, false_and, if_false]
      exact ⟨pending, found, waits⟩
    · by_cases hash : some (computeApprovalPayloadHash runtime approval) = approval.approvedPayloadHash
      · simp only [present, hash, if_false, not_true_eq_false, and_self, if_true]
        have spends : (forwardApproved runtime projectId approval).Ends store
            (Spends (∃ pending, store.pendingForApproval approvalRequestId = some pending) approvalRequestId store) :=
          forwardApproved_spends sound named projectId waiting
        have resolves := forwardApproved_ends sound named ⟨pass, hash.symm⟩ projectId waiting
        refine (spends.and resolves).mono ?_
        rintro outcome after ⟨⟨-, forwards, -⟩ | ⟨leaves, -⟩, resolved⟩
        · rcases outcome with error | ⟨decision⟩ | ⟨sent, call⟩
          · cases forwards
          · cases forwards
          · exact resolved.2.2.shows found fun changed moved => moved
        · exact absurd ⟨pending, found⟩ leaves
      · simp only [present, hash, if_false, not_false_eq_true, and_false, if_true]
        exact ⟨pending, found, waits⟩
  · simp only [pass, ne_eq, not_false_eq_true, if_true]
    rw [named]
    have marked : (markPendingStatus runtime approvalRequestId .blockedByDecision).Ends store fun _ after =>
        after.Shows approvalRequestId .blockedByDecision := by
      refine (markPendingStatus_ends sound .blockedByDecision).mono fun _ after touches => ?_
      apply touches.shows found
      intro changed marks
      rw [Marks, waits] at marks
      simpa [finalPendingStatuses] using marks
    apply Ends.bind marked
    · exact fun _ _ shows => shows
    · exact fun _ _ shows => shows

/-- A resolve settles every request that it may take up. -/
theorem resolveGatewayRequest_settles (sound : store.Sound) {approval : ApprovalRequest}
    (stored : store.approvalRequests.get? approvalRequestId = some approval) (ripe : store.Ripe runtime approvalRequestId) :
    (resolveGatewayRequest runtime approvalRequestId).Ends store fun _ after =>
      after.Shows approvalRequestId (settledStatus runtime approval) := by
  obtain ⟨⟨other, present, listed⟩, pending, found, ready⟩ := ripe
  rw [stored] at present
  cases present
  unfold resolveGatewayRequest
  apply ends_read
  rw [stored, ends_bind, ends_found_some, continue_ok]
  have made : (gatewayForProject approval.projectId).Ends store fun _ after => after.ticks = store.ticks ∧
      Touches approvalRequestId (fun pending changed => changed = pending) store after :=
    gatewayForProject_ends sound approval.projectId
  apply Ends.bind (made.and (gatewayForProject_known approval.projectId))
  · rintro _ middle ⟨⟨time, kept⟩, -⟩
    have still : middle.pendingForApproval approvalRequestId = some pending := (kept.unmoved.pending _).trans found
    have same : middle.approvalRequests.get? approvalRequestId = some approval := by
      rw [kept.approvals]
      exact stored
    -- a ripe request is not final
    have open_ : pending.status ∉ finalPendingStatuses := by
      rcases ready with waits | lapsed
      · rw [waits]
        decide
      · rw [lapsed.1]
        decide
    unfold resolveAfterSideChannelDecision
    apply ends_read
    rw [still]
    simp only [open_, if_false]
    apply Ends.bind (releaseExpiredLease_ends kept.sound still)
    · rintro leased last ⟨answer, agrees, held, released⟩
      cases agrees
      cases leased with
      | true =>
        -- the lease of a ripe request is not good
        obtain ⟨forwarding, live, -⟩ := held rfl
        rcases ready with waits | lapsed
        · rw [waits] at forwarding
          cases forwarding
        · refine absurd ⟨lapsed.1, ?_⟩ live
          rw [time]
          exact lapsed.2
      | false =>
        have release := released rfl
        obtain ⟨changed, left, -, change⟩ := release.present pending still
        have waits : changed.status = .waitingForApproval := by
          rcases change with ⟨idle, same⟩ | ⟨-, -, waits⟩
          · rcases ready with waits | lapsed
            · exact same.trans waits
            · exact absurd lapsed.1 idle
          · exact waits
        have unchanged : last.approvalRequests.get? approvalRequestId = some approval := by
          rw [release.approvals]
          exact same
        exact resolveUnleased_settles release.sound unchanged left waits approval.projectId
    · rintro error last ⟨_, impossible, -⟩
      cases impossible
  · rintro error middle ⟨-, known⟩
    exact absurd (known.mpr listed) (by simp [Except.isOk, Except.toBool])

end Ripe

/-- The statuses that a resolve finds and leaves on the request of an approval. -/
theorem resolve_shows (sound : store.Sound) {approval : ApprovalRequest} {pending : MCPPendingRequest}
    (stored : store.approvalRequests.get? approvalRequestId = some approval)
    (found : store.pendingForApproval approvalRequestId = some pending) :
    (resolveGatewayRequest runtime approvalRequestId).Ends store fun _ after =>
      (store.Ripe runtime approvalRequestId → after.Shows approvalRequestId (settledStatus runtime approval)) ∧
        (¬ store.Ripe runtime approvalRequestId → after.Shows approvalRequestId pending.status) := by
  by_cases ripe : store.Ripe runtime approvalRequestId
  · refine (resolveGatewayRequest_settles sound stored ripe).mono fun _ after shows => ?_
    exact ⟨fun _ => shows, fun unripe => absurd ripe unripe⟩
  · refine (resolveGatewayRequest_unripe found ripe).mono ?_
    rintro _ after ⟨-, _, _, rfl⟩
    exact ⟨fun ripe_ => absurd ripe_ ripe, fun _ => ⟨pending, found, rfl⟩⟩

theorem Ripe.of_alike {first second : McpStore} (alike : Alike first second) {clock : Nat → Instant}
    (time : clock first.ticks = runtime.clock second.ticks) :
    first.Ripe { runtime with clock } approvalRequestId ↔ second.Ripe runtime approvalRequestId := by
  obtain ⟨ticks, gateways, rfl⟩ := alike
  simp only [McpStore.Ripe, McpStore.Ready, McpStore.Lapsed, time, McpStore.pendingForApproval]

theorem TakesUp.of_alike {first second : McpStore} (alike : Alike first second) {clock : Nat → Instant}
    (time : clock first.ticks = runtime.clock second.ticks) {pending : MCPPendingRequest} :
    first.TakesUp { runtime with clock } approvalRequestId pending ↔ second.TakesUp runtime approvalRequestId pending := by
  obtain ⟨ticks, gateways, rfl⟩ := alike
  simp only [McpStore.TakesUp, McpStore.Ready, McpStore.Lapsed, time, McpStore.pendingForApproval]
  exact Iff.rfl

theorem McpStore.Shows.unique {first second : MCPPendingStatus} (one : store.Shows approvalRequestId first)
    (other : store.Shows approvalRequestId second) : first = second := by
  obtain ⟨pending, found, rfl⟩ := one
  obtain ⟨twin, present, rfl⟩ := other
  rw [found] at present
  cases present
  rfl

/-- Two resolves send the call to the child server or not, and leave the request in the same status. -/
structure SameEnd (approvalRequestId : String) (first second : Except Raised ResolveOutcome × McpStore) : Prop where
  forwards : ResolveOutcome.forwards first.1 = ResolveOutcome.forwards second.1
  status : ∀ status, first.2.Shows approvalRequestId status ↔ second.2.Shows approvalRequestId status

theorem Spends.forwards_iff {takes : Prop} {outcome : Except Raised ResolveOutcome}
    (spends : Spends takes approvalRequestId store outcome after) : ResolveOutcome.forwards outcome = true ↔ takes := by
  rcases spends with ⟨takes, forwards, -⟩ | ⟨leaves, withheld, -⟩
  · simp [takes, forwards]
  · simp [leaves, withheld]

/-- Alike stores give the same end to a resolve at the same time. -/
theorem Alike.sameEnd {first second : McpStore} (alike : Alike first second) (firstSound : first.Sound)
    (secondSound : second.Sound) {pending : MCPPendingRequest}
    (found : first.pendingForApproval approvalRequestId = some pending) {clock : Nat → Instant}
    (time : clock first.ticks = runtime.clock second.ticks) :
    SameEnd approvalRequestId ((resolveGatewayRequest { runtime with clock } approvalRequestId).run first)
      ((resolveGatewayRequest runtime approvalRequestId).run second) := by
  have present : second.pendingForApproval approvalRequestId = some pending := by
    obtain ⟨ticks, gateways, rfl⟩ := alike
    exact found
  have approvals : second.approvalRequests = first.approvalRequests := by
    obtain ⟨ticks, gateways, rfl⟩ := alike
    rfl
  have one : Spends (∃ pending, first.TakesUp { runtime with clock } approvalRequestId pending) approvalRequestId first _ _ :=
    resolveGatewayRequest_spends firstSound
  have two : Spends (∃ pending, second.TakesUp runtime approvalRequestId pending) approvalRequestId second _ _ :=
    resolveGatewayRequest_spends secondSound
  constructor
  · rw [Bool.eq_iff_iff, one.forwards_iff, two.forwards_iff]
    simp only [TakesUp.of_alike alike time]
  · intro status
    -- two stores that show equal statuses agree on every status
    have shows : ∀ left right : MCPPendingStatus, left = right →
        ∀ {a b : McpStore}, a.Shows approvalRequestId left → b.Shows approvalRequestId right →
          (a.Shows approvalRequestId status ↔ b.Shows approvalRequestId status) := by
      rintro left _ rfl a b here there
      constructor
      · intro other
        rw [← here.unique other]
        exact there
      · intro other
        rw [← there.unique other]
        exact here
    by_cases ripe : second.Ripe runtime approvalRequestId
    · obtain ⟨⟨approval, stored, -⟩, -⟩ := id ripe
      have early : first.approvalRequests.get? approvalRequestId = some approval := by
        rw [← approvals]
        exact stored
      exact shows _ _ rfl (resolveGatewayRequest_settles firstSound early ((Ripe.of_alike alike time).mpr ripe))
        (resolveGatewayRequest_settles secondSound stored ripe)
    · -- neither store is ripe: the resolves leave both requests as they were
      obtain ⟨-, _, _, before⟩ := resolveGatewayRequest_unripe found fun other => ripe ((Ripe.of_alike alike time).mp other)
      obtain ⟨-, _, _, later⟩ := resolveGatewayRequest_unripe present ripe
      apply shows pending.status pending.status rfl
      · rw [before]
        exact ⟨pending, found, rfl⟩
      · rw [later]
        exact ⟨pending, present, rfl⟩

/-- Two runs side by side: decisions come in both, and in the first one also
resolves of an approval that is undecided, while its request is not ripe. -/
inductive Polled (runtime : Runtime) (approvalRequestId : String) (start : McpSystem) : McpSystem → McpSystem → Prop where
  | start : Polled runtime approvalRequestId start start start
  | early {polled bare : McpSystem} : Polled runtime approvalRequestId start polled bare →
      polled.store.Undecided approvalRequestId → ¬ polled.store.Ripe runtime approvalRequestId →
        Polled runtime approvalRequestId start (mcpNext runtime polled (.resolve approvalRequestId)) bare
  | decide {polled bare : McpSystem} (change : McpOutsideChange) : Polled runtime approvalRequestId start polled bare →
      Polled runtime approvalRequestId start (mcpNext runtime polled (.outside change))
        (mcpNext runtime bare (.outside change))

theorem resolved_withheld (system : McpSystem) (approvalRequestId : String)
    {outcome : Except Raised ResolveOutcome × McpStore} (withheld : ResolveOutcome.forwards outcome.1 = false) :
    system.resolved approvalRequestId outcome = { system with store := outcome.2 } := by
  rcases outcome with ⟨error | ⟨decision⟩ | ⟨approval, call⟩, after⟩
  · rfl
  · rfl
  · cases withheld

/-- The early resolves of a run leave no trace in the other run's terms. -/
theorem Polled.alike {start polled bare : McpSystem} (polls : Polled runtime approvalRequestId start polled bare)
    {pending : MCPPendingRequest} (found : start.store.pendingForApproval approvalRequestId = some pending) :
    Alike bare.store polled.store ∧ bare.store.pendingForApproval approvalRequestId = some pending ∧
      polled.history = bare.history := by
  induction polls with
  | start => exact ⟨Alike.refl _, found, rfl⟩
  | @early polled bare _ _ unripe ih =>
    obtain ⟨alike, still, record⟩ := ih
    have present : polled.store.pendingForApproval approvalRequestId = some pending := by
      obtain ⟨ticks, gateways, same⟩ := alike
      rw [same]
      exact still
    obtain ⟨withheld, rest⟩ := resolveGatewayRequest_unripe present unripe
    have left := resolved_withheld polled approvalRequestId withheld
    refine ⟨?_, still, ?_⟩
    · show Alike bare.store (polled.resolved approvalRequestId _).store
      rw [left]
      exact alike.trans rest
    · show (polled.resolved approvalRequestId _).history = bare.history
      rw [left]
      exact record
  | decide change _ ih =>
    obtain ⟨⟨ticks, gateways, same⟩, still, record⟩ := ih
    refine ⟨⟨ticks, gateways, ?_⟩, still, record⟩
    simp only [mcpNext, applyMcpOutside, same]

theorem Polled.sound {start polled bare : McpSystem} (polls : Polled runtime approvalRequestId start polled bare)
    («sound» : start.store.Sound) : polled.store.Sound ∧ bare.store.Sound := by
  induction polls with
  | start => exact ⟨«sound», «sound»⟩
  | early _ _ _ ih => exact ⟨mcpNext_sound ih.1 _, ih.2⟩
  | decide change _ ih => exact ⟨mcpNext_sound ih.1 _, mcpNext_sound ih.2 _⟩

/-- An early resolve keeps the status of the request exactly where the request is
not ripe: it is final or its lease is good. After any number of such resolves,
in any order with the decisions, a resolve ends as it would without them. -/
theorem early_resolves_decide_nothing (runtime : Runtime) (system : McpSystem)
    (reachable : (mcpMachine runtime).Reachable Machine.anything system) (approvalRequestId : String)
    (pending : MCPPendingRequest) (found : system.store.pendingForApproval approvalRequestId = some pending)
    (undecided : system.store.Undecided approvalRequestId) :
    ((mcpNext runtime system (.resolve approvalRequestId)).store.Shows approvalRequestId pending.status ↔
      ¬ system.store.Ripe runtime approvalRequestId) ∧
    ∀ polled bare, Polled runtime approvalRequestId system polled bare →
      polled.store.Shows approvalRequestId pending.status ∧ polled.history = bare.history ∧
      ∀ clock : Nat → Instant, clock bare.store.ticks = runtime.clock polled.store.ticks →
        SameEnd approvalRequestId ((resolveGatewayRequest { runtime with clock } approvalRequestId).run bare.store)
          ((resolveGatewayRequest runtime approvalRequestId).run polled.store) := by
  have «sound» := sound_reachable reachable
  constructor
  · obtain ⟨approval, stored, status⟩ := undecided
    have ends : (resolveGatewayRequest runtime approvalRequestId).Ends system.store _ :=
      resolve_shows («sound») stored found
    obtain ⟨settles, keeps⟩ := ends
    show (system.resolved approvalRequestId _).store.Shows _ _ ↔ _
    rw [resolved_store]
    constructor
    · intro kept ripe
      -- an undecided approval blocks the request, which was open
      have blocked : settledStatus runtime approval = .blockedByDecision := by
        unfold settledStatus
        rw [if_pos]
        intro approved
        rw [approved] at status
        exact absurd status (by decide)
      have same : pending.status = .blockedByDecision := by
        rw [← blocked]
        exact kept.unique (settles ripe)
      obtain ⟨-, other, present, ready⟩ := ripe
      rw [found] at present
      cases present
      rcases ready with waits | lapsed
      · rw [waits] at same
        cases same
      · rw [lapsed.1] at same
        cases same
    · exact keeps
  · intro polled bare polls
    obtain ⟨alike, still, record⟩ := polls.alike found
    obtain ⟨polledSound, bareSound⟩ := polls.sound («sound»)
    refine ⟨?_, record, fun clock time => alike.sameEnd bareSound polledSound still time⟩
    obtain ⟨ticks, gateways, same⟩ := alike
    rw [same]
    exact ⟨pending, still, rfl⟩

section Sample

/-- The approver of a held call asks for another revision. -/
def reviseCall (runtime : Runtime) : McpStep :=
  let revised : ApprovalRequest := { approvedCall runtime with status := .revisionRequested }
  .outside {
    approvalRequests := Table.empty.set revised.id revised
    filed := by
      intro approvalId approval found
      rw [Table.get?_set] at found
      split at found
      · next same =>
        cases found
        exact same.symm
      · cases found
    mcpChildServers := registeredSystem.store.mcpChildServers
    projects := registeredSystem.store.projects }

/-- A request whose child call runs while its approval is taken up again. -/
def reconsidered : McpSystem :=
  (mcpMachine (.plain false)).runAll registeredSystem [.submitRequest "project_1" (writeCall none),
    approveCall (.plain false), .resolve heldApprovalId, reviseCall (.plain false)]

theorem reconsidered_reachable : (mcpMachine (.plain false)).Reachable Machine.anything reconsidered :=
  ⟨registeredSystem, registeredSystem_fresh, Machine.follows_anything _ _⟩

theorem reconsidered_undecided : reconsidered.store.Undecided heldApprovalId :=
  ⟨{ approvedCall (.plain false) with status := .revisionRequested }, rfl, by decide⟩

theorem early_resolves_decide_nothing_sample : ∃ pending,
    reconsidered.store.pendingForApproval heldApprovalId = some pending ∧ pending.status = .forwarding ∧
      ((mcpNext (.plain false) reconsidered (.resolve heldApprovalId)).store.Shows heldApprovalId pending.status ↔
        ¬ reconsidered.store.Ripe (.plain false) heldApprovalId) := by
  have runs : (reconsidered.store.pendingForApproval heldApprovalId).map (·.status) = some .forwarding := by
    decide +kernel
  obtain ⟨pending, found, forwarding⟩ := Option.map_eq_some_iff.mp runs
  refine ⟨pending, found, forwarding, ?_⟩
  exact (early_resolves_decide_nothing (.plain false) reconsidered reconsidered_reachable heldApprovalId pending found
    reconsidered_undecided).1

/-- A held call on which nobody has decided. -/
def heldSystem : McpSystem :=
  (mcpMachine (.plain false)).runAll registeredSystem [.submitRequest "project_1" (writeCall none)]

theorem early_resolve_blocks : ¬ ∀ (runtime : Runtime) (system : McpSystem),
    (mcpMachine runtime).Reachable Machine.anything system → ∀ approvalRequestId pending,
      system.store.pendingForApproval approvalRequestId = some pending → system.store.Undecided approvalRequestId →
        (mcpNext runtime system (.resolve approvalRequestId)).store.Shows approvalRequestId pending.status := by
  intro claim
  have waits : (heldSystem.store.pendingForApproval heldApprovalId).map (·.status) = some .waitingForApproval := by
    decide +kernel
  have blocked : ((mcpNext (.plain false) heldSystem (.resolve heldApprovalId)).store.pendingForApproval heldApprovalId).map
      (·.status) = some .blockedByDecision := by decide +kernel
  have undecided : (heldSystem.store.approvalRequests.get? heldApprovalId).map (·.status) = some .requested := by
    decide +kernel
  obtain ⟨pending, found, waiting⟩ := Option.map_eq_some_iff.mp waits
  obtain ⟨approval, stored, requested⟩ := Option.map_eq_some_iff.mp undecided
  obtain ⟨changed, present, kept⟩ := claim (.plain false) heldSystem
    ⟨registeredSystem, registeredSystem_fresh, Machine.follows_anything _ _⟩ heldApprovalId pending found
    ⟨approval, stored, by rw [requested]; decide⟩
  rw [present, Option.map_some, kept, waiting] at blocked
  cases blocked

end Sample

end ControlTower
