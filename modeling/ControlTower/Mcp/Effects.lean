import ControlTower.Mcp.System

/-! What each gateway operation does to the pending request of one approval,
and that it leaves the requests of all other approvals alone. -/

set_option autoImplicit false

namespace ControlTower

open Foundation
open Foundation.Procedure

variable {runtime : Runtime} {store after : McpStore}

/-- Two states of one pending request: nothing but its progress differs. -/
def MCPPendingRequest.SameCall (first second : MCPPendingRequest) : Prop :=
  second.id = first.id ∧ second.approvalRequestId = first.approvalRequestId ∧ second.serverName = first.serverName ∧
    second.toolName = first.toolName ∧ second.arguments = first.arguments

theorem MCPPendingRequest.SameCall.trans {first middle last : MCPPendingRequest} (start : first.SameCall middle)
    (rest : middle.SameCall last) : first.SameCall last := by
  simp only [MCPPendingRequest.SameCall] at *
  grind

/-- A call asks for what a pending request holds. -/
def MCPPendingRequest.Holds (pending : MCPPendingRequest) (call : MCPGatewayToolCall) : Prop :=
  call.serverName = pending.serverName ∧ call.toolName = pending.toolName ∧ call.arguments = pending.arguments

/-- Records stand under their identifiers, an approval has one pending request,
and the gateways remember only calls that a pending request holds. -/
structure McpStore.Sound (store : McpStore) : Prop where
  filed : Filed store.approvalRequests
  keyed : ∀ pendingId pending, store.mcpPendingRequests.get? pendingId = some pending → pending.id = pendingId
  single : ∀ pendingId other pending twin, store.mcpPendingRequests.get? pendingId = some pending →
    store.mcpPendingRequests.get? other = some twin → pending.approvalRequestId = twin.approvalRequestId →
      pendingId = other
  recalled : ∀ projectId approvalRequestId call, (store.pendingCalls projectId).get? approvalRequestId = some call →
    ∃ pending, store.pendingForApproval approvalRequestId = some pending ∧ pending.Holds call

theorem McpStore.Sound.pending_iff (sound : store.Sound) {approvalRequestId : String} {pending : MCPPendingRequest} :
    store.pendingForApproval approvalRequestId = some pending ↔
      store.mcpPendingRequests.get? pending.id = some pending ∧ pending.approvalRequestId = approvalRequestId := by
  constructor
  · intro found
    obtain ⟨named, pendingId, stored⟩ := Table.find?_values found
    rw [sound.keyed pendingId pending stored]
    exact ⟨stored, by simpa using named⟩
  · rintro ⟨stored, rfl⟩
    cases found : store.pendingForApproval pending.approvalRequestId with
    | none =>
      have absent := List.find?_eq_none.mp found pending (Table.mem_values.mpr ⟨_, stored⟩)
      simp at absent
    | some first =>
      obtain ⟨named, pendingId, present⟩ := Table.find?_values found
      have same := sound.single pendingId pending.id first pending present stored (by simpa using named)
      rw [same, stored] at present
      rw [Option.some.inj present]

/-- The pending request of one approval changes as described, and nothing else does. -/
structure Touches (approvalRequestId : String) (change : MCPPendingRequest → MCPPendingRequest → Prop)
    (before after : McpStore) : Prop where
  «sound» : after.Sound
  approvals : after.approvalRequests = before.approvalRequests
  servers : after.mcpChildServers = before.mcpChildServers
  others : ∀ other, other ≠ approvalRequestId → after.pendingForApproval other = before.pendingForApproval other
  absent : before.pendingForApproval approvalRequestId = none → after.pendingForApproval approvalRequestId = none
  present : ∀ pending, before.pendingForApproval approvalRequestId = some pending →
    ∃ changed, after.pendingForApproval approvalRequestId = some changed ∧ pending.SameCall changed ∧
      change pending changed

namespace Touches

variable {approvalRequestId : String} {first second third : MCPPendingRequest → MCPPendingRequest → Prop}
  {before middle : McpStore}

theorem mono (touches : Touches approvalRequestId first before after)
    (widen : ∀ pending changed, before.pendingForApproval approvalRequestId = some pending → first pending changed →
      second pending changed) : Touches approvalRequestId second before after where
  «sound» := touches.sound
  approvals := touches.approvals
  servers := touches.servers
  others := touches.others
  absent := touches.absent
  present pending found := by
    obtain ⟨changed, kept, same, change⟩ := touches.present pending found
    exact ⟨changed, kept, same, widen _ _ found change⟩

theorem trans (start : Touches approvalRequestId first before middle)
    (rest : Touches approvalRequestId second middle after)
    (compose : ∀ pending between changed, first pending between → second between changed → third pending changed) :
    Touches approvalRequestId third before after where
  «sound» := rest.sound
  approvals := rest.approvals.trans start.approvals
  servers := rest.servers.trans start.servers
  others other away := (rest.others other away).trans (start.others other away)
  absent none := rest.absent (start.absent none)
  present pending found := by
    obtain ⟨between, kept, same, change⟩ := start.present pending found
    obtain ⟨changed, left, still, more⟩ := rest.present between kept
    exact ⟨changed, left, same.trans still, compose _ _ _ change more⟩

theorem exists_before (touches : Touches approvalRequestId first before after) {changed : MCPPendingRequest}
    (found : after.pendingForApproval approvalRequestId = some changed) :
    ∃ pending, before.pendingForApproval approvalRequestId = some pending ∧ pending.SameCall changed ∧
      first pending changed := by
  cases stored : before.pendingForApproval approvalRequestId with
  | none =>
    rw [touches.absent stored] at found
    cases found
  | some pending =>
    obtain ⟨other, kept, same, change⟩ := touches.present pending stored
    rw [kept] at found
    cases found
    exact ⟨pending, rfl, same, change⟩

end Touches

theorem Touches.tick {approvalRequestId : String} {change : MCPPendingRequest → MCPPendingRequest → Prop}
    (touches : Touches approvalRequestId change (Clocked.tick store) after) :
    Touches approvalRequestId change store after :=
  ⟨touches.sound, touches.approvals, touches.servers, touches.others, touches.absent, touches.present⟩

theorem SameCall.refl (pending : MCPPendingRequest) : pending.SameCall pending := ⟨rfl, rfl, rfl, rfl, rfl⟩

theorem McpStore.Sound.touches_self (sound : store.Sound) (approvalRequestId : String) :
    Touches approvalRequestId (fun pending changed => changed = pending) store store where
  «sound» := sound
  approvals := rfl
  servers := rfl
  others _ _ := rfl
  absent := id
  present pending found := ⟨pending, found, SameCall.refl pending, rfl⟩

/-- A reading of the clock touches nothing. -/
theorem McpStore.Sound.tick (sound : store.Sound) : (Clocked.tick store : McpStore).Sound :=
  ⟨sound.filed, sound.keyed, sound.single, sound.recalled⟩

theorem McpStore.Sound.adjust (sound : store.Sound) {approvalRequestId : String} {pending : MCPPendingRequest}
    (found : store.pendingForApproval approvalRequestId = some pending)
    (change : MCPPendingRequest → MCPPendingRequest) (same : ∀ pending : MCPPendingRequest, pending.SameCall (change pending)) :
    Touches approvalRequestId (fun pending changed => changed = change pending) store
      { store with mcpPendingRequests := store.mcpPendingRequests.adjust pending.id change } := by
  obtain ⟨stored, named⟩ := sound.pending_iff.mp found
  -- each record comes from one before the change, and only the one under the identifier is changed
  have looked : ∀ pendingId changed, (store.mcpPendingRequests.adjust pending.id change).get? pendingId = some changed →
      ∃ original, store.mcpPendingRequests.get? pendingId = some original ∧ original.SameCall changed ∧
        (pendingId = pending.id → changed = change original) ∧ (pendingId ≠ pending.id → changed = original) := by
    intro pendingId changed present
    rw [Table.get?_adjust] at present
    by_cases here : pendingId = pending.id
    · rw [if_pos here] at present
      obtain ⟨original, held, rfl⟩ := Option.map_eq_some_iff.mp present
      exact ⟨original, held, same original, fun _ => rfl, fun away => absurd here away⟩
    · rw [if_neg here] at present
      exact ⟨changed, present, SameCall.refl changed, fun away => absurd away here, fun _ => rfl⟩
  -- the same holds of the record that a search by approval finds
  have bare : ∀ other : String, ∀ changed : MCPPendingRequest,
      (store.mcpPendingRequests.adjust pending.id change).values.find? (fun item => item.approvalRequestId == other) =
        some changed → ∃ original, store.pendingForApproval other = some original ∧ original.SameCall changed ∧
          (original.id = pending.id → changed = change original) ∧ (original.id ≠ pending.id → changed = original) := by
    intro other changed located
    obtain ⟨named, pendingId, present⟩ := Table.find?_values located
    obtain ⟨original, held, alike, here, away⟩ := looked pendingId changed present
    have keyed := sound.keyed pendingId original held
    subst keyed
    refine ⟨original, sound.pending_iff.mpr ⟨held, ?_⟩, alike, here, away⟩
    rw [← alike.2.1]
    simpa using named
  -- and a search that found a record still finds one
  have kept : ∀ other original, store.pendingForApproval other = some original →
      ∃ changed, (store.mcpPendingRequests.adjust pending.id change).values.find?
        (fun item => item.approvalRequestId == other) = some changed ∧ original.SameCall changed ∧
          (original.id = pending.id → changed = change original) ∧ (original.id ≠ pending.id → changed = original) := by
    intro other original located
    obtain ⟨held, label⟩ := sound.pending_iff.mp located
    cases search : (store.mcpPendingRequests.adjust pending.id change).values.find?
        (fun item => item.approvalRequestId == other) with
    | none =>
      have present : (store.mcpPendingRequests.adjust pending.id change).get? original.id =
          some (if original.id = pending.id then change original else original) := by
        rw [Table.get?_adjust]
        split <;> simp [held]
      have absent := List.find?_eq_none.mp search _ (Table.mem_values.mpr ⟨_, present⟩)
      split at absent
      · simp [(same original).2.1, label] at absent
      · simp [label] at absent
    | some changed =>
      obtain ⟨twin, found, alike, here, away⟩ := bare other changed search
      rw [located] at found
      cases found
      exact ⟨changed, rfl, alike, here, away⟩
  constructor
  · constructor
    · exact sound.filed
    · intro pendingId changed present
      obtain ⟨original, held, alike, -⟩ := looked pendingId changed present
      rw [alike.1]
      exact sound.keyed pendingId original held
    · intro pendingId other changed twin present second label
      obtain ⟨original, held, alike, -⟩ := looked pendingId changed present
      obtain ⟨source, stands, like, -⟩ := looked other twin second
      apply sound.single pendingId other original source held stands
      rw [← alike.2.1, ← like.2.1]
      exact label
    · intro projectId approvalId call remembered
      obtain ⟨original, located, holds⟩ := sound.recalled projectId approvalId call remembered
      obtain ⟨changed, search, alike, -⟩ := kept approvalId original located
      exact ⟨changed, search, by rw [alike.2.2.1]; exact holds.1, by rw [alike.2.2.2.1]; exact holds.2.1,
        by rw [alike.2.2.2.2]; exact holds.2.2⟩
  · rfl
  · rfl
  · intro other away
    show (store.mcpPendingRequests.adjust pending.id change).values.find? (fun item => item.approvalRequestId == other) = _
    cases search : (store.mcpPendingRequests.adjust pending.id change).values.find?
        (fun item => item.approvalRequestId == other) with
    | none =>
      cases located : store.pendingForApproval other with
      | none => rfl
      | some original =>
        obtain ⟨changed, present, -⟩ := kept other original located
        rw [search] at present
        cases present
    | some changed =>
      obtain ⟨original, located, -, -, elsewhere⟩ := bare other changed search
      rw [located, elsewhere]
      -- the changed record is one of this approval, so it is not the one found for another
      intro same
      have label := (sound.pending_iff.mp located).2
      have whole := (sound.pending_iff.mp located).1
      rw [same, stored] at whole
      rw [← Option.some.inj whole, named] at label
      exact away label.symm
  · intro none
    rw [found] at none
    cases none
  · intro original located
    rw [found] at located
    cases located
    obtain ⟨changed, search, alike, here, -⟩ := kept approvalRequestId pending found
    exact ⟨changed, search, alike, here rfl⟩

/-- A gateway remembers other calls. -/
theorem McpStore.Sound.remember (sound : store.Sound) (projectId approvalRequestId : String)
    (calls : Table String MCPGatewayToolCall)
    (recalled : ∀ approvalId call, calls.get? approvalId = some call →
      ∃ pending, store.pendingForApproval approvalId = some pending ∧ pending.Holds call) :
    Touches approvalRequestId (fun pending changed => changed = pending) store
      { store with gateways := store.gateways.set projectId calls } where
  «sound» := by
    refine ⟨sound.filed, sound.keyed, sound.single, ?_⟩
    intro other approvalId call remembered
    rw [McpStore.pendingCalls, Table.get?_set] at remembered
    by_cases same : other = projectId
    · rw [if_pos same] at remembered
      exact recalled approvalId call remembered
    · rw [if_neg same] at remembered
      exact sound.recalled other approvalId call remembered
  approvals := rfl
  servers := rfl
  others _ _ := rfl
  absent := id
  present pending found := ⟨pending, found, SameCall.refl pending, rfl⟩

theorem McpStore.Sound.forget (sound : store.Sound) (projectId approvalRequestId : String) :
    Touches approvalRequestId (fun pending changed => changed = pending) store
      { store with
        gateways := store.gateways.set projectId ((store.pendingCalls projectId).keep (· != approvalRequestId)) } := by
  apply sound.remember
  intro approvalId call remembered
  rw [Table.get?_keep] at remembered
  split at remembered
  · exact sound.recalled projectId approvalId call remembered
  · cases remembered

section Operations

variable {approvalRequestId : String}

/-- A pending request changes at a reading of the clock. -/
theorem readClock_changePending_ends (sound : store.Sound) {pending : MCPPendingRequest}
    (found : store.pendingForApproval approvalRequestId = some pending)
    (change : Instant → MCPPendingRequest → MCPPendingRequest)
    (same : ∀ updatedAt (pending : MCPPendingRequest), pending.SameCall (change updatedAt pending)) :
    (readClock runtime >>= fun updatedAt => changePending pending.id (change updatedAt)).Ends store fun outcome after =>
      outcome = .ok () ∧ Touches approvalRequestId
        (fun pending changed => changed = change (runtime.clock store.ticks) pending) store after :=
  ⟨rfl, (sound.tick.adjust found (change (runtime.clock store.ticks)) (same _)).tick⟩

/-- A status written to a request that is not final. -/
def Marks (status : MCPPendingStatus) (pending changed : MCPPendingRequest) : Prop :=
  changed.status = if pending.status ∈ finalPendingStatuses then pending.status else status

theorem markPendingStatus_ends (sound : store.Sound) (status : MCPPendingStatus) :
    (markPendingStatus runtime approvalRequestId status).Ends store fun _ after =>
      Touches approvalRequestId (Marks status) store after := by
  unfold markPendingStatus
  apply ends_read
  cases found : store.pendingForApproval approvalRequestId with
  | none =>
    apply (sound.touches_self approvalRequestId).mono
    intro pending changed stored
    rw [found] at stored
    cases stored
  | some pending =>
    rw [ends_onlyIf]
    constructor
    · intro open_
      refine (readClock_changePending_ends sound found (fun updatedAt pending => pending.marked updatedAt status)
        fun _ _ => ⟨rfl, rfl, rfl, rfl, rfl⟩).mono fun _ after touched => ?_
      apply touched.2.mono
      intro original changed stored same
      have twin : original = pending := Option.some.inj (stored.symm.trans found)
      subst same twin
      simp only [Marks, MCPPendingRequest.marked, open_, if_false]
    · intro final
      apply (sound.touches_self approvalRequestId).mono
      intro original changed stored same
      have twin : original = pending := Option.some.inj (stored.symm.trans found)
      subst same twin
      simp only [Marks, not_not.mp final, if_true]

/-- The lease of a forwarded request is over at the next reading of the clock. -/
def McpStore.Lapsed (runtime : Runtime) (store : McpStore) (pending : MCPPendingRequest) : Prop :=
  pending.status = .forwarding ∧
    ∀ expiresAt, pending.leaseExpiresAt = some expiresAt → expiresAt ≤ runtime.clock store.ticks

theorem leaseStillGood_ends (leaseExpiresAt : Option Instant) :
    (leaseStillGood runtime leaseExpiresAt).Ends store fun outcome after => ∃ good, outcome = .ok good ∧
      (good = false ↔ ∀ expiresAt, leaseExpiresAt = some expiresAt → expiresAt ≤ runtime.clock store.ticks) ∧
        (after = store ∨ after = Clocked.tick store) := by
  cases leaseExpiresAt with
  | none => exact ⟨false, rfl, by simp, .inl rfl⟩
  | some expiresAt =>
    refine ⟨decide (runtime.clock store.ticks < expiresAt), rfl, ?_, .inr rfl⟩
    simp

/-- What releasing a lease does: nothing to a request that is not forwarded, and
back to waiting where the lease is over. -/
def Releases (lapsed : Prop) (pending changed : MCPPendingRequest) : Prop :=
  (pending.status ≠ .forwarding ∧ changed.status = pending.status) ∨
    (pending.status = .forwarding ∧ lapsed ∧ changed.status = .waitingForApproval)

theorem releaseExpiredLease_ends (sound : store.Sound) {pending : MCPPendingRequest}
    (found : store.pendingForApproval approvalRequestId = some pending) :
    (releaseExpiredLease runtime pending).Ends store fun outcome after => ∃ leased, outcome = .ok leased ∧
      (leased = true → pending.status = .forwarding ∧ ¬ store.Lapsed runtime pending ∧
        Touches approvalRequestId (fun pending changed => changed = pending) store after) ∧
      (leased = false →
        Touches approvalRequestId (Releases (store.Lapsed runtime pending)) store after) := by
  unfold releaseExpiredLease
  by_cases forwarding : pending.status = .forwarding
  · rw [if_pos forwarding]
    refine Ends.bind (leaseStillGood_ends pending.leaseExpiresAt) ?_ (by simp)
    rintro good middle ⟨other, same, lapse, moved⟩
    cases same
    have kept : Touches approvalRequestId (fun pending changed => changed = pending) store middle := by
      rcases moved with rfl | rfl
      · exact sound.touches_self _
      · exact (sound.tick.touches_self approvalRequestId).tick
    cases good with
    | true =>
      refine ⟨true, rfl, fun _ => ⟨forwarding, ?_, kept⟩, by simp⟩
      intro lapsed
      exact absurd (lapse.mpr lapsed.2) (by simp)
    | false =>
      refine ⟨false, rfl, by simp, fun _ => ?_⟩
      have lapsed : store.Lapsed runtime pending := ⟨forwarding, lapse.mp rfl⟩
      -- the look at the lease may have moved the clock; the record is the same
      obtain ⟨between, present, -, rfl⟩ := kept.present pending found
      have released := (readClock_changePending_ends kept.sound present
        (fun updatedAt pending => pending.released updatedAt) fun _ _ => ⟨rfl, rfl, rfl, rfl, rfl⟩ :
        Ends (σ := McpStore) (ε := Raised) (readClock runtime >>= _) middle _).2
      have both : Touches approvalRequestId (fun _ changed => changed.status = .waitingForApproval) store _ :=
        kept.trans released fun _ _ _ _ rest => by rw [rest]; rfl
      apply both.mono
      intro original changed stored same
      have twin : original = between := Option.some.inj (stored.symm.trans found)
      subst twin
      exact .inr ⟨forwarding, lapsed, same⟩
  · rw [if_neg forwarding]
    refine ⟨false, rfl, by simp, fun _ => ?_⟩
    apply (sound.touches_self approvalRequestId).mono
    intro original changed stored same
    have twin : original = pending := Option.some.inj (stored.symm.trans found)
    subst same twin
    exact .inl ⟨forwarding, rfl⟩

theorem takePendingCall_ends (sound : store.Sound) (projectId : String) :
    (takePendingCall projectId approvalRequestId).Ends store fun outcome after => ∃ call, outcome = .ok call ∧
      Touches approvalRequestId (fun pending changed => changed = pending) store after ∧
        ∀ taken, call = some taken → ∃ pending, store.pendingForApproval approvalRequestId = some pending ∧
          pending.Holds taken := by
  unfold takePendingCall
  apply ends_read
  simp only [ends_bind, setPendingCalls, ends_modify, continue_ok]
  have forgotten := sound.forget projectId approvalRequestId
  cases remembered : (store.pendingCalls projectId).get? approvalRequestId with
  | some call =>
    refine ⟨some call, rfl, forgotten, ?_⟩
    rintro taken ⟨⟩
    exact sound.recalled projectId approvalRequestId call remembered
  | none =>
    refine ⟨_, rfl, forgotten, ?_⟩
    intro taken rebuilt
    obtain ⟨pending, waiting, rfl⟩ := Option.map_eq_some_iff.mp rebuilt
    exact ⟨pending, (Option.filter_eq_some_iff.mp waiting).1, rfl, rfl, rfl⟩

/-- A waiting request gets its lease. -/
theorem acquireLeaseOf_ends (sound : store.Sound)
    (waiting : ∀ pending, store.pendingForApproval approvalRequestId = some pending →
      pending.status = .waitingForApproval) :
    (acquireLeaseOf runtime approvalRequestId).Ends store fun outcome after => outcome = .ok none ∧
      Touches approvalRequestId (fun _ changed => changed.status = .forwarding) store after := by
  unfold acquireLeaseOf
  apply ends_read
  cases found : store.pendingForApproval approvalRequestId with
  | none =>
    refine ⟨rfl, ?_⟩
    apply (sound.touches_self approvalRequestId).mono
    intro pending changed stored
    rw [found] at stored
    cases stored
  | some pending =>
    have waits := waiting pending found
    simp only [acquirePendingLease, waits, reduceCtorEq, if_false, ends_bind, ends_pure, continue_ok, Bool.false_eq_true,
      ne_eq, not_true_eq_false, false_and, ends_readClock, changePending, ends_modify, if_true, true_and]
    have leased := sound.tick.tick.adjust found (fun pending => pending.leased
      (runtime.clock (Clocked.ticks (Clocked.tick store : McpStore))) (runtime.clock (Clocked.ticks store)))
      fun _ => ⟨rfl, rfl, rfl, rfl, rfl⟩
    apply leased.tick.tick.mono
    intro original changed _ same
    rw [same]
    rfl

/-- The approval has the status APPROVED and was sealed over its present content. -/
def ApprovalRequest.IsApproved (runtime : Runtime) (approval : ApprovalRequest) : Prop :=
  approval.status = .approved ∧ approval.approvedPayloadHash = some (computeApprovalPayloadHash runtime approval)

def Rests (_ changed : MCPPendingRequest) : Prop :=
  changed.status = .waitingForApproval ∨ changed.status = .orphaned ∨ changed.status = .blockedByDecision

/-- The outcome of the checks on a waiting request: the call of the pending
request goes out on an approved approval, or the request rests. -/
def ResolvesWaiting (runtime : Runtime) (approvalRequestId : String) (store : McpStore)
    (outcome : Except Raised ResolveOutcome) (after : McpStore) : Prop :=
  match outcome with
  | .ok (.forward approval call) =>
      approval.IsApproved runtime ∧ (∃ pending, store.pendingForApproval approvalRequestId = some pending ∧
        pending.Holds call) ∧ Touches approvalRequestId (fun _ changed => changed.status = .forwarding) store after
  | _ => Touches approvalRequestId Rests store after

theorem McpStore.Sound.rests (sound : store.Sound)
    (waiting : ∀ pending, store.pendingForApproval approvalRequestId = some pending →
      pending.status = .waitingForApproval) : Touches approvalRequestId Rests store store := by
  apply (sound.touches_self approvalRequestId).mono
  intro pending changed stored same
  rw [same]
  exact .inl (waiting pending stored)

theorem markPendingStatus_rests (sound : store.Sound)
    (waiting : ∀ pending, store.pendingForApproval approvalRequestId = some pending →
      pending.status = .waitingForApproval)
    {status : MCPPendingStatus} (resting : status = .orphaned ∨ status = .blockedByDecision) :
    (markPendingStatus runtime approvalRequestId status).Ends store fun _ after =>
      Touches approvalRequestId Rests store after := by
  refine (markPendingStatus_ends sound status).mono fun _ after marked => ?_
  apply marked.mono
  intro pending changed stored same
  have waits := waiting pending stored
  have open_ : pending.status ∉ finalPendingStatuses := by rw [waits]; decide
  rw [Marks, if_neg open_] at same
  rw [Rests, same]
  exact .inr resting

theorem forwardApproved_ends (sound : store.Sound) {approval : ApprovalRequest} (named : approval.id = approvalRequestId)
    (approved : approval.IsApproved runtime) (projectId : String)
    (waiting : ∀ pending, store.pendingForApproval approvalRequestId = some pending →
      pending.status = .waitingForApproval) :
    (forwardApproved runtime projectId approval).Ends store (ResolvesWaiting runtime approvalRequestId store) := by
  unfold forwardApproved
  rw [named]
  refine Ends.bind (takePendingCall_ends sound projectId) ?_ (by simp)
  rintro taken middle ⟨call, same, kept, holds⟩
  cases same
  have still : ∀ pending, middle.pendingForApproval approvalRequestId = some pending →
      pending.status = .waitingForApproval := by
    intro pending found
    obtain ⟨before, stored, -, rfl⟩ := kept.exists_before found
    exact waiting pending stored
  cases taken with
  | none =>
    refine Ends.bind (markPendingStatus_rests kept.sound still (.inl rfl)) ?_ ?_
    · intro _ after rests
      exact kept.trans rests fun _ _ _ _ rest => rest
    · intro _ after rests
      exact kept.trans rests fun _ _ _ _ rest => rest
  | some call =>
    refine Ends.bind (acquireLeaseOf_ends kept.sound still) ?_ (by simp)
    rintro _ after ⟨⟨⟩, leased⟩
    exact ⟨approved, holds call rfl, kept.trans leased fun _ _ _ _ rest => rest⟩

theorem resolveUnleased_ends (sound : store.Sound) (projectId : String)
    (waiting : ∀ pending, store.pendingForApproval approvalRequestId = some pending →
      pending.status = .waitingForApproval) :
    (resolveUnleased runtime projectId approvalRequestId).Ends store
      (ResolvesWaiting runtime approvalRequestId store) := by
  unfold resolveUnleased
  apply ends_read
  cases stored : store.approvalRequests.get? approvalRequestId with
  | none =>
    exact Ends.bind (markPendingStatus_rests sound waiting (.inl rfl)) (fun _ _ rests => rests) fun _ _ rests => rests
  | some approval =>
    have named : approval.id = approvalRequestId := sound.filed _ _ stored
    by_cases pass : approval.status = .approved
    · by_cases present : Text.present approval.approvedPayloadHash = false
      · simp only [pass, ne_eq, not_true_eq_false, if_false, present, if_true]
        exact sound.rests waiting
      · by_cases hash : some (computeApprovalPayloadHash runtime approval) = approval.approvedPayloadHash
        · simp only [pass, ne_eq, not_true_eq_false, if_false, present, hash]
          exact forwardApproved_ends sound named ⟨pass, hash.symm⟩ projectId waiting
        · simp only [pass, ne_eq, not_true_eq_false, if_false, present, hash, not_false_eq_true, if_true]
          exact sound.rests waiting
    · simp only [pass, ne_eq, not_false_eq_true, if_true, named]
      exact Ends.bind (markPendingStatus_rests sound waiting (.inr rfl)) (fun _ _ rests => rests) fun _ _ rests => rests

/-- A resolve may take a request up: it waits, or its lease is over. -/
def McpStore.Ready (runtime : Runtime) (store : McpStore) (pending : MCPPendingRequest) : Prop :=
  pending.status = .waitingForApproval ∨ store.Lapsed runtime pending

/-- The outcome of the checks of `resolve`. -/
def Resolves (runtime : Runtime) (approvalRequestId : String) (store : McpStore)
    (outcome : Except Raised ResolveOutcome) (after : McpStore) : Prop :=
  match outcome with
  | .ok (.forward approval call) =>
      approval.IsApproved runtime ∧ (∃ pending, store.pendingForApproval approvalRequestId = some pending ∧
        store.Ready runtime pending ∧ pending.Holds call) ∧
        Touches approvalRequestId (fun _ changed => changed.status = .forwarding) store after
  | _ => Touches approvalRequestId
      (fun pending changed => changed.status = pending.status ∨ store.Ready runtime pending ∧ Rests pending changed) store after

/-- The checks that follow a release of the lease. -/
theorem ResolvesWaiting.resolves {middle : McpStore} {change : MCPPendingRequest → MCPPendingRequest → Prop}
    {outcome : Except Raised ResolveOutcome} (start : Touches approvalRequestId change store middle)
    (ready : ∀ pending, store.pendingForApproval approvalRequestId = some pending → store.Ready runtime pending)
    (resolves : ResolvesWaiting runtime approvalRequestId middle outcome after) :
    Resolves runtime approvalRequestId store outcome after := by
  have resting : Touches approvalRequestId Rests middle after → Touches approvalRequestId
      (fun pending changed => changed.status = pending.status ∨ store.Ready runtime pending ∧ Rests pending changed)
      store after := by
    intro rests
    have both : Touches approvalRequestId Rests store after := start.trans rests fun _ _ _ _ rest => rest
    exact both.mono fun pending _ found rest => .inr ⟨ready pending found, rest⟩
  cases outcome with
  | error error => exact resting resolves
  | ok answer =>
    cases answer with
    | decided decision => exact resting resolves
    | forward approval call =>
      obtain ⟨approved, ⟨pending, found, holds⟩, forwards⟩ := resolves
      obtain ⟨original, stored, same, -⟩ := start.exists_before found
      refine ⟨approved, ⟨original, stored, ready original stored, ?_⟩, start.trans forwards fun _ _ _ _ rest => rest⟩
      exact ⟨holds.1.trans same.2.2.1, holds.2.1.trans same.2.2.2.1, holds.2.2.trans same.2.2.2.2⟩

theorem Touches.settles {change : MCPPendingRequest → MCPPendingRequest → Prop}
    (touches : Touches approvalRequestId change store after)
    (same : ∀ pending changed, change pending changed → changed = pending) : Touches approvalRequestId
      (fun pending changed => changed.status = pending.status ∨ store.Ready runtime pending ∧ Rests pending changed)
      store after :=
  touches.mono fun pending changed _ holds => .inl (by rw [same pending changed holds])

theorem resolveAfterSideChannelDecision_ends (sound : store.Sound) (projectId : String) :
    (resolveAfterSideChannelDecision runtime projectId approvalRequestId).Ends store
      (Resolves runtime approvalRequestId store) := by
  unfold resolveAfterSideChannelDecision
  apply ends_read
  cases found : store.pendingForApproval approvalRequestId with
  | none =>
    refine (resolveUnleased_ends sound projectId (by simp [found])).mono fun outcome after resolves => ?_
    exact resolves.resolves (sound.touches_self approvalRequestId) (by simp [found])
  | some pending =>
    by_cases final : pending.status ∈ finalPendingStatuses
    · -- a final request is answered, and its call is forgotten
      simp only [final, if_true, ends_bind, setPendingCalls, ends_modify, continue_ok, withheldDecision, ends_pure]
      exact (sound.forget projectId approvalRequestId).settles fun _ _ same => same
    · simp only [final, if_false]
      refine Ends.bind (releaseExpiredLease_ends sound found) ?_ (by simp)
      rintro leased middle ⟨other, same, held, released⟩
      cases same
      cases leased with
      | true => exact (held rfl).2.2.settles fun _ _ same => same
      | false =>
        have release := released rfl
        -- what the resolve goes on with was waiting, or was forwarded under a lease that lapsed
        have ready : ∀ pending, store.pendingForApproval approvalRequestId = some pending → store.Ready runtime pending := by
          intro original stored
          obtain ⟨changed, -, -, change⟩ := release.present original stored
          have twin : original = pending := Option.some.inj (stored.symm.trans found)
          subst twin
          rcases change with ⟨idle, -⟩ | ⟨_, lapsed, -⟩
          · left
            cases status : original.status <;> simp_all [finalPendingStatuses]
          · exact .inr lapsed
        -- either way it waits now
        have waiting : ∀ changed, middle.pendingForApproval approvalRequestId = some changed →
            changed.status = .waitingForApproval := by
          intro changed present
          obtain ⟨original, stored, -, change⟩ := release.exists_before present
          rcases change with ⟨idle, same⟩ | ⟨_, _, same⟩
          · rw [same]
            exact (ready original stored).resolve_right fun lapsed => idle lapsed.1
          · exact same
        refine (resolveUnleased_ends release.sound projectId waiting).mono fun outcome after resolves => ?_
        exact resolves.resolves release ready

theorem gatewayForProject_ends (sound : store.Sound) (projectId : String) :
    (gatewayForProject projectId).Ends store fun _ after => after.ticks = store.ticks ∧
      Touches approvalRequestId (fun pending changed => changed = pending) store after := by
  unfold gatewayForProject
  apply ends_read
  rw [ends_bind, ends_demand]
  constructor
  · intro _
    rw [continue_ok, ends_onlyIf]
    exact ⟨fun _ => ⟨rfl, sound.remember projectId approvalRequestId .empty (by simp)⟩,
      fun _ => ⟨rfl, sound.touches_self approvalRequestId⟩⟩
  · intro _
    exact ⟨rfl, sound.touches_self approvalRequestId⟩

theorem resolveGatewayRequest_ends (sound : store.Sound) :
    (resolveGatewayRequest runtime approvalRequestId).Ends store (Resolves runtime approvalRequestId store) := by
  unfold resolveGatewayRequest
  apply ends_read
  apply ends_lookup
  · exact (sound.touches_self approvalRequestId).settles fun _ _ same => same
  intro approval _
  have made : (gatewayForProject approval.projectId).Ends store fun _ after => after.ticks = store.ticks ∧
      Touches approvalRequestId (fun pending changed => changed = pending) store after :=
    gatewayForProject_ends sound approval.projectId
  refine Ends.bind made ?_ ?_
  · rintro _ middle ⟨time, kept⟩
    refine (resolveAfterSideChannelDecision_ends kept.sound approval.projectId).mono fun outcome after resolves => ?_
    -- making the gateway changes neither the clock nor the pending request
    have unchanged : ∀ pending, middle.Ready runtime pending ↔ store.Ready runtime pending := by
      intro pending
      simp only [McpStore.Ready, McpStore.Lapsed, time]
    have settled : Touches approvalRequestId
        (fun pending changed => changed.status = pending.status ∨ middle.Ready runtime pending ∧ Rests pending changed)
        middle after → Touches approvalRequestId
        (fun pending changed => changed.status = pending.status ∨ store.Ready runtime pending ∧ Rests pending changed)
        store after := by
      intro settles
      apply kept.trans settles
      intro pending between changed same rest
      rw [same, unchanged] at rest
      exact rest
    cases outcome with
    | error error => exact settled resolves
    | ok answer =>
      cases answer with
      | decided decision => exact settled resolves
      | forward approval call =>
        obtain ⟨approved, ⟨pending, found, ready, holds⟩, forwards⟩ := resolves
        obtain ⟨original, stored, -, rfl⟩ := kept.exists_before found
        exact ⟨approved, ⟨pending, stored, (unchanged pending).mp ready, holds⟩,
          kept.trans forwards fun _ _ _ _ rest => rest⟩
  · rintro error after ⟨-, kept⟩
    exact kept.settles fun _ _ same => same

/-- The record of an answer: success closes an open request, a failure writes
its status without a look at the present one. -/
def Records (result : Document) (pending changed : MCPPendingRequest) : Prop :=
  if forwardFailed result = true then changed.status = .waitingForApproval ∨ changed.status = .deadLetter
  else Marks .forwarded pending changed

theorem recordForwardResult_ends (sound : store.Sound) (result : Document) :
    (recordForwardResult runtime approvalRequestId result).Ends store fun _ after =>
      Touches approvalRequestId (Records result) store after := by
  unfold recordForwardResult
  by_cases failed : forwardFailed result = true
  · rw [if_pos failed]
    unfold handleForwardFailure
    apply ends_read
    cases found : store.pendingForApproval approvalRequestId with
    | none =>
      apply (sound.touches_self approvalRequestId).mono
      intro pending changed stored
      rw [found] at stored
      cases stored
    | some pending =>
      refine (readClock_changePending_ends sound found
        (fun updatedAt pending => pending.failed updatedAt (forwardError runtime result))
        fun _ _ => ⟨rfl, rfl, rfl, rfl, rfl⟩).mono fun _ after touched => ?_
      apply touched.2.mono
      intro original changed _ same
      rw [Records, if_pos failed, same, MCPPendingRequest.failed]
      by_cases given : original.maxAttempts ≤ original.attempts <;> simp [given]
  · rw [if_neg failed]
    refine (markPendingStatus_ends sound .forwarded).mono fun _ after marked => ?_
    apply marked.mono
    intro pending changed _ same
    rw [Records, if_neg failed]
    exact same

/-- A retry brings a request that is open and not leased back to waiting. -/
theorem retryPendingGatewayRequest_ends (sound : store.Sound) (pendingRequestId : String) (payload : PendingRetryRequest) :
    (retryPendingGatewayRequest runtime pendingRequestId payload).Ends store fun _ after =>
      (after.Sound ∧ after.approvalRequests = store.approvalRequests ∧ after.mcpChildServers = store.mcpChildServers ∧
        ∀ approvalRequestId, after.pendingForApproval approvalRequestId = store.pendingForApproval approvalRequestId) ∨
      ∃ pending, store.mcpPendingRequests.get? pendingRequestId = some pending ∧
        (store.Ready runtime pending ∨ pending.status = .deadLetter) ∧
        Touches pending.approvalRequestId (fun _ changed => changed.status = .waitingForApproval) store after := by
  unfold retryPendingGatewayRequest
  apply ends_read
  apply ends_lookup
  · exact .inl ⟨sound, rfl, rfl, fun _ => rfl⟩
  intro pending stored
  apply ends_guard
  · exact .inl ⟨sound, rfl, rfl, fun _ => rfl⟩
  intro open_
  have named : pending.id = pendingRequestId := sound.keyed _ _ stored
  subst named
  have found : store.pendingForApproval pending.approvalRequestId = some pending := sound.pending_iff.mpr ⟨stored, rfl⟩
  -- both ways into the retry end with this change, which is made under the record that the look at the lease left
  have retry : ∀ middle : McpStore, Touches pending.approvalRequestId (fun pending changed => changed = pending) store middle →
      (store.Ready runtime pending ∨ pending.status = .deadLetter) →
      (do
        let updatedAt ← readClock runtime
        changePending pending.id fun pending => pending.retried updatedAt payload.resetAttempts : McpProcedure Unit).Ends
          middle fun _ after => ∃ stored, store.mcpPendingRequests.get? pending.id = some stored ∧
            (store.Ready runtime stored ∨ stored.status = .deadLetter) ∧
            Touches stored.approvalRequestId (fun _ changed => changed.status = .waitingForApproval) store after := by
    intro middle kept ready
    obtain ⟨between, present, -, rfl⟩ := kept.present pending found
    refine (readClock_changePending_ends kept.sound present
      (fun updatedAt pending => pending.retried updatedAt payload.resetAttempts)
      fun _ _ => ⟨rfl, rfl, rfl, rfl, rfl⟩).mono fun _ after touched => ?_
    exact ⟨between, stored, ready, kept.trans touched.2 fun _ _ _ _ rest => by rw [rest]; rfl⟩
  by_cases forwarding : pending.status = .forwarding
  · rw [if_pos forwarding]
    refine Ends.bind (leaseStillGood_ends pending.leaseExpiresAt) ?_ (by simp)
    rintro good middle ⟨other, same, lapse, moved⟩
    cases same
    have kept : Touches pending.approvalRequestId (fun pending changed => changed = pending) store middle := by
      rcases moved with rfl | rfl
      · exact sound.touches_self _
      · exact (sound.tick.touches_self pending.approvalRequestId).tick
    apply ends_guard
    · refine .inl ⟨kept.sound, kept.approvals, kept.servers, fun approvalRequestId => ?_⟩
      rcases moved with rfl | rfl <;> rfl
    intro ended
    refine (retry middle kept (.inl (.inr ⟨forwarding, lapse.mp ended⟩))).mono fun _ after holds => .inr holds
  · rw [if_neg forwarding]
    simp only [ends_bind, ends_pure, continue_ok]
    rw [ends_demand]
    refine ⟨fun _ => ?_, fun impossible => absurd trivial impossible⟩
    rw [continue_ok]
    refine (retry store (sound.touches_self _) ?_).mono fun _ last holds => .inr holds
    cases status : pending.status <;> simp_all [closedPendingStatuses, McpStore.Ready]

/-- No pending request changes. -/
structure Unmoved (before after : McpStore) : Prop where
  «sound» : after.Sound
  servers : after.mcpChildServers = before.mcpChildServers
  pending : ∀ approvalRequestId, after.pendingForApproval approvalRequestId = before.pendingForApproval approvalRequestId

theorem Touches.unmoved (touches : Touches approvalRequestId (fun pending changed => changed = pending) store after) :
    Unmoved store after where
  «sound» := touches.sound
  servers := touches.servers
  pending other := by
    by_cases same : other = approvalRequestId
    · subst same
      cases found : store.pendingForApproval other with
      | none => exact touches.absent found
      | some pending =>
        obtain ⟨changed, kept, -, rfl⟩ := touches.present pending found
        exact kept
    · exact touches.others other same

/-- A new pending request stands beside the others. -/
structure Adds (approvalRequestId : String) (call : MCPGatewayToolCall) (before after : McpStore) : Prop where
  «sound» : after.Sound
  servers : after.mcpChildServers = before.mcpChildServers
  fresh : before.pendingForApproval approvalRequestId = none
  others : ∀ other, other ≠ approvalRequestId → after.pendingForApproval other = before.pendingForApproval other
  added : ∃ pending, after.pendingForApproval approvalRequestId = some pending ∧ pending.Holds call ∧
    pending.status = .waitingForApproval

theorem Adds.tick {call : MCPGatewayToolCall} (adds : Adds approvalRequestId call (Clocked.tick store) after) :
    Adds approvalRequestId call store after :=
  ⟨adds.sound, adds.servers, adds.fresh, adds.others, adds.added⟩

theorem McpStore.Sound.add (sound : store.Sound) {approval : ApprovalRequest} {pending : MCPPendingRequest}
    (freshApproval : approval.id ∉ store.approvalIds) (freshPending : pending.id ∉ store.mcpPendingRequests.keys)
    (linked : pending.approvalRequestId = approval.id) (waits : pending.status = .waitingForApproval)
    {call : MCPGatewayToolCall} (holds : pending.Holds call) :
    Adds approval.id call store { store with
      approvalRequests := store.approvalRequests.set approval.id approval
      mcpPendingRequests := store.mcpPendingRequests.set pending.id pending } := by
  -- no record names the new approval yet
  have unnamed : ∀ item ∈ store.mcpPendingRequests.values, item.approvalRequestId ≠ approval.id := by
    intro item member same
    apply freshApproval
    rw [McpStore.approvalIds, List.mem_append, List.mem_map]
    exact .inr ⟨item, member, same⟩
  have listed : (store.mcpPendingRequests.set pending.id pending).values = store.mcpPendingRequests.values ++ [pending] :=
    Table.values_set_fresh pending freshPending
  have absent : store.pendingForApproval approval.id = none := by
    apply List.find?_eq_none.mpr
    intro item member
    simpa using unnamed item member
  -- a search finds the new record under the new approval, and what it found before under the others
  have search : ∀ other, (store.mcpPendingRequests.set pending.id pending).values.find?
      (fun item => item.approvalRequestId == other) =
        if other = approval.id then some pending else store.pendingForApproval other := by
    intro other
    rw [listed, List.find?_append]
    by_cases same : other = approval.id
    · subst same
      have none : store.mcpPendingRequests.values.find? (fun item => item.approvalRequestId == approval.id) = none := absent
      simp [none, linked]
    · have away : ¬ approval.id = other := fun equal => same equal.symm
      simp [same, linked, away, McpStore.pendingForApproval]
  have looked : ∀ pendingId item, (store.mcpPendingRequests.set pending.id pending).get? pendingId = some item →
      (pendingId = pending.id ∧ item = pending) ∨
        (pendingId ≠ pending.id ∧ store.mcpPendingRequests.get? pendingId = some item) := by
    intro pendingId item present
    rw [Table.get?_set] at present
    by_cases here : pendingId = pending.id
    · rw [if_pos here] at present
      exact .inl ⟨here, (Option.some.inj present).symm⟩
    · rw [if_neg here] at present
      exact .inr ⟨here, present⟩
  have unlinked : ∀ pendingId item, store.mcpPendingRequests.get? pendingId = some item →
      item.approvalRequestId ≠ pending.approvalRequestId := by
    intro pendingId item present
    rw [linked]
    exact unnamed item (Table.mem_values.mpr ⟨pendingId, present⟩)
  constructor
  · constructor
    · intro approvalId stored found
      rw [Table.get?_set] at found
      split at found
      · rename_i same
        rw [← Option.some.inj found, same]
      · exact sound.filed approvalId stored found
    · intro pendingId item present
      rcases looked pendingId item present with ⟨rfl, rfl⟩ | ⟨-, held⟩
      · rfl
      · exact sound.keyed pendingId item held
    · -- two records of one approval: the new one shares its approval with no old one
      intro pendingId other item twin present second same
      rcases looked pendingId item present with ⟨rfl, rfl⟩ | ⟨-, held⟩ <;>
        rcases looked other twin second with ⟨rfl, rfl⟩ | ⟨-, stands⟩
      · rfl
      · exact absurd same.symm (unlinked other twin stands)
      · exact absurd same (unlinked pendingId item held)
      · exact sound.single pendingId other item twin held stands same
    · intro projectId approvalId remembered present
      obtain ⟨original, found, fits⟩ := sound.recalled projectId approvalId remembered present
      refine ⟨original, (search approvalId).trans ?_, fits⟩
      rw [if_neg]
      · exact found
      · rintro rfl
        rw [absent] at found
        cases found
  · rfl
  · exact absent
  · intro other away
    exact (search other).trans (if_neg away)
  · exact ⟨pending, (search approval.id).trans (if_pos rfl), holds, waits⟩

theorem createMcpApproval_ends (sound : store.Sound) (projectId : String) (call : MCPGatewayToolCall) :
    (createMcpApproval runtime projectId call).Ends store fun outcome after => ∃ approval, outcome = .ok approval ∧
      Adds approval.id call store after := by
  simp only [createMcpApproval, ends_bind, ends_readClock, continue_ok, ends_state, ends_modify, ends_pure]
  refine ⟨_, rfl, ?_⟩
  iterate 4 apply Adds.tick
  apply sound.tick.tick.tick.tick.add
  · exact runtime.newId_fresh "approval" _
  · exact runtime.newId_fresh "mcp_pending" _
  · rfl
  · rfl
  · exact ⟨rfl, rfl, rfl⟩

/-- What a submission does. -/
def Submits (call : MCPGatewayToolCall) (store : McpStore) (outcome : Except Raised SubmitOutcome) (after : McpStore) :
    Prop :=
  match outcome with
  | .ok (.forward sent) => sent = call ∧ call.isMutating = false ∧ Unmoved store after
  | .ok (.held approvalRequestId sent _) => sent = call ∧ call.isMutating = true ∧ Adds approvalRequestId call store after
  | .error _ => Unmoved store after

theorem submitGatewayRequest_ends (sound : store.Sound) (projectId : String) (call : MCPGatewayToolCall) :
    (submitGatewayRequest runtime projectId call).Ends store (Submits call store) := by
  unfold submitGatewayRequest
  have made : (gatewayForProject projectId).Ends store fun _ after => Unmoved store after :=
    (gatewayForProject_ends sound projectId).mono fun _ _ kept => (kept.2 : Touches "" _ _ _).unmoved
  refine Ends.bind made ?_ fun _ _ kept => kept
  intro _ middle kept
  unfold submitToolCall
  by_cases harmless : call.isMutating = false
  · rw [if_pos harmless]
    exact ⟨rfl, harmless, kept⟩
  · rw [if_neg harmless]
    refine Ends.bind (createMcpApproval_ends kept.sound projectId call) ?_ (by simp)
    rintro approval after ⟨other, same, adds⟩
    cases same
    apply ends_read
    simp only [ends_bind, setPendingCalls, ends_modify, continue_ok, ends_pure]
    refine ⟨rfl, by simpa using harmless, ?_⟩
    obtain ⟨pending, found, holds, waits⟩ := adds.added
    -- the call that the gateway remembers is the one on the record
    have remembered : Unmoved after _ := (adds.sound.remember projectId approval.id
      ((after.pendingCalls projectId).set approval.id call) (by
        intro approvalId taken present
        rw [Table.get?_set] at present
        split at present
        · rename_i same
          subst same
          cases present
          exact ⟨pending, found, holds⟩
        · exact adds.sound.recalled projectId approvalId taken present)).unmoved
    refine ⟨remembered.sound, remembered.servers.trans (adds.servers.trans kept.servers), ?_, ?_, ?_⟩
    · rw [← kept.pending]
      exact adds.fresh
    · intro other away
      rw [remembered.pending, adds.others other away, kept.pending]
    · exact ⟨pending, (remembered.pending approval.id).trans found, holds, waits⟩

end Operations

section Systems

variable {system : McpSystem}

theorem McpSystem.Fresh.sound (fresh : system.Fresh) : system.store.Sound := by
  refine ⟨fresh.filed, ?_, ?_, ?_⟩
  · simp [fresh.pending]
  · simp [fresh.pending]
  · intro projectId approvalId call present
    simp [McpStore.pendingCalls, fresh.gateways] at present

theorem submitted_sound («sound» : system.store.Sound) (projectId : String) (call : MCPGatewayToolCall) :
    (system.submitted ((submitGatewayRequest runtime projectId call).run system.store)).store.Sound := by
  have submits : (submitGatewayRequest runtime projectId call).Ends system.store (Submits call system.store) :=
    submitGatewayRequest_ends («sound») projectId call
  unfold Ends at submits
  generalize (submitGatewayRequest runtime projectId call).run system.store = outcome at submits ⊢
  rcases outcome with ⟨error | ⟨sent⟩ | ⟨heldId, sent, decision⟩, after⟩
  · exact submits.sound
  · exact submits.2.2.sound
  · exact submits.2.2.sound

theorem mcpNext_sound («sound» : system.store.Sound) (step : McpStep) : (mcpNext runtime system step).store.Sound := by
  cases step with
  | submitRequest projectId call => exact submitted_sound («sound») projectId call
  | toolsCall projectId params =>
    by_cases known : projectId ∈ system.store.projects
    · cases made : toolCallFromParams runtime system.store projectId params with
      | error message => simpa [mcpNext, handleToolsCall, run_bind, demand, known, made, McpSystem.submitted] using «sound»
      | ok call =>
        -- a call that passes the checks is a submission
        have same : (handleToolsCall runtime projectId params).run system.store =
            (submitGatewayRequest runtime projectId call).run system.store := by
          simp [handleToolsCall, run_bind, demand, known, made]
        rw [mcpNext, same]
        exact submitted_sound («sound») projectId call
    · simpa [mcpNext, handleToolsCall, run_bind, demand, known, McpSystem.submitted] using «sound»
  | resolve approvalRequestId =>
    have resolves : Resolves runtime approvalRequestId system.store _ _ := resolveGatewayRequest_ends «sound»
    rw [mcpNext]
    generalize (resolveGatewayRequest runtime approvalRequestId).run system.store = outcome at resolves ⊢
    rcases outcome with ⟨error | ⟨decision⟩ | ⟨approval, call⟩, after⟩
    · exact Touches.sound resolves
    · exact Touches.sound resolves
    · exact resolves.2.2.sound
  | finish flight answer =>
    show (system.finished runtime flight answer).store.Sound
    unfold McpSystem.finished
    split
    · cases answer with
      | none => exact «sound»
      | some result => exact Touches.sound (recordForwardResult_ends («sound») result)
    · exact «sound»
  | retry pendingRequestId payload =>
    have retried : (retryPendingGatewayRequest runtime pendingRequestId payload).Ends system.store _ :=
      retryPendingGatewayRequest_ends («sound») pendingRequestId payload
    rcases retried with ⟨kept, -⟩ | ⟨pending, -, -, touches⟩
    · exact kept
    · exact touches.sound
  | outside change => exact ⟨change.filed, «sound».keyed, «sound».single, «sound».recalled⟩

theorem sound_reachable {allowed : McpSystem → McpStep → Prop}
    (reachable : (mcpMachine runtime).Reachable allowed system) : system.store.Sound :=
  reachable.invariant (fun _ fresh => fresh.sound) fun _ step «sound» _ => mcpNext_sound («sound») step

end Systems

end ControlTower
