import ControlTower.Mcp.Delivery

/-! The forwarding attempts of a pending request. Only the lease of a resolve
spends one and only a retry gives them back, so the bound on the attempts holds
as long as no resolve takes up a request that has none left. -/

set_option autoImplicit false

namespace ControlTower

open Foundation
open Foundation.Procedure

variable {runtime : Runtime} {store after : McpStore} {approvalRequestId : String}

/-- The attempts of the request of an approval, with their bound. -/
def McpStore.attempts (store : McpStore) (approvalRequestId : String) : Option (Nat × Nat) :=
  (store.pendingForApproval approvalRequestId).map fun pending => (pending.attempts, pending.maxAttempts)

def SameAttempts (before after : McpStore) : Prop :=
  ∀ approvalRequestId, after.attempts approvalRequestId = before.attempts approvalRequestId

theorem SameAttempts.refl (store : McpStore) : SameAttempts store store := fun _ => rfl

theorem SameAttempts.trans (first middle last : McpStore) (start : SameAttempts first middle)
    (rest : SameAttempts middle last) : SameAttempts first last :=
  fun approvalRequestId => (rest approvalRequestId).trans (start approvalRequestId)

section Keeping

variable {α β : Type} {first : McpProcedure α} {next : α → McpProcedure β}

theorem sameAttempts_bind (start : Guarantees SameAttempts first) (rest : ∀ value, Guarantees SameAttempts (next value)) :
    Guarantees SameAttempts (first >>= next) :=
  guarantees_bind SameAttempts.trans start rest

theorem sameAttempts_pure (value : α) : Guarantees SameAttempts (pure value : McpProcedure α) :=
  guarantees_pure SameAttempts.refl value

theorem sameAttempts_state : Guarantees SameAttempts (Procedure.state : McpProcedure McpStore) :=
  guarantees_state SameAttempts.refl

theorem sameAttempts_readClock : Guarantees SameAttempts (readClock runtime : McpProcedure Instant) := fun _ _ => rfl

theorem sameAttempts_changePending (pendingId : String) {change : MCPPendingRequest → MCPPendingRequest}
    (linked : ∀ pending, (change pending).approvalRequestId = pending.approvalRequestId)
    (spent : ∀ pending, (change pending).attempts = pending.attempts)
    (bound : ∀ pending, (change pending).maxAttempts = pending.maxAttempts) :
    Guarantees SameAttempts (changePending pendingId change) := by
  apply guarantees_modify
  intro store approvalRequestId
  apply Table.find?_adjust
  · intro pending
    rw [linked]
  · intro pending
    rw [spent, bound]

theorem sameAttempts_setPendingCalls (projectId : String) (calls : Table String MCPGatewayToolCall) :
    Guarantees SameAttempts (setPendingCalls projectId calls) := fun _ _ => rfl

theorem sameAttempts_gatewayForProject (projectId : String) : Guarantees SameAttempts (gatewayForProject projectId) := by
  unfold gatewayForProject
  apply sameAttempts_bind sameAttempts_state
  intro store
  apply sameAttempts_bind (guarantees_demand SameAttempts.refl _)
  intro _
  exact guarantees_onlyIf SameAttempts.refl fun _ _ => rfl

theorem sameAttempts_markPendingStatus (approvalRequestId : String) (status : MCPPendingStatus) :
    Guarantees SameAttempts (markPendingStatus runtime approvalRequestId status) := by
  unfold markPendingStatus
  apply sameAttempts_bind sameAttempts_state
  intro store
  cases store.pendingForApproval approvalRequestId with
  | none => exact sameAttempts_pure ()
  | some pending =>
    apply guarantees_onlyIf SameAttempts.refl
    apply sameAttempts_bind sameAttempts_readClock
    intro updatedAt
    exact sameAttempts_changePending pending.id (fun _ => rfl) (fun _ => rfl) fun _ => rfl

theorem sameAttempts_leaseStillGood (leaseExpiresAt : Option Instant) :
    Guarantees SameAttempts (leaseStillGood runtime leaseExpiresAt : McpProcedure Bool) := by
  cases leaseExpiresAt with
  | none => exact sameAttempts_pure false
  | some expiresAt => exact sameAttempts_bind sameAttempts_readClock fun now => sameAttempts_pure (decide (now < expiresAt))

theorem sameAttempts_releaseExpiredLease (pending : MCPPendingRequest) :
    Guarantees SameAttempts (releaseExpiredLease runtime pending) := by
  unfold releaseExpiredLease
  apply guarantees_ite
  · apply sameAttempts_bind (sameAttempts_leaseStillGood pending.leaseExpiresAt)
    intro leased
    refine sameAttempts_bind ?_ fun _ => sameAttempts_pure leased
    apply guarantees_onlyIf SameAttempts.refl
    apply sameAttempts_bind sameAttempts_readClock
    intro updatedAt
    exact sameAttempts_changePending pending.id (fun _ => rfl) (fun _ => rfl) fun _ => rfl
  · exact sameAttempts_pure false

theorem sameAttempts_takePendingCall (projectId approvalRequestId : String) :
    Guarantees SameAttempts (takePendingCall projectId approvalRequestId) := by
  unfold takePendingCall
  apply sameAttempts_bind sameAttempts_state
  intro store
  apply sameAttempts_bind (sameAttempts_setPendingCalls _ _)
  intro _
  cases (store.pendingCalls projectId).get? approvalRequestId with
  | none => exact sameAttempts_pure _
  | some call => exact sameAttempts_pure _

/-- The record of an answer spends no attempt: the lease has spent it already. -/
theorem sameAttempts_recordForwardResult (approvalRequestId : String) (result : Document) :
    Guarantees SameAttempts (recordForwardResult runtime approvalRequestId result) := by
  unfold recordForwardResult
  apply guarantees_ite
  · unfold handleForwardFailure
    apply sameAttempts_bind sameAttempts_state
    intro store
    cases store.pendingForApproval approvalRequestId with
    | none => exact sameAttempts_pure ()
    | some pending =>
      apply sameAttempts_bind sameAttempts_readClock
      intro updatedAt
      exact sameAttempts_changePending pending.id (fun _ => rfl) (fun _ => rfl) fun _ => rfl
  · exact sameAttempts_markPendingStatus approvalRequestId .forwarded

end Keeping

/-- A resolve sends the call to the child server. -/
def ResolveOutcome.forwards : Except Raised ResolveOutcome → Bool
  | .ok (.forward _ _) => true
  | _ => false

/-- The stored approval is approved and sealed, with a hash that is not blank. -/
def McpStore.Sealed (runtime : Runtime) (store : McpStore) (approvalRequestId : String) : Prop :=
  ∃ approval, store.approvalRequests.get? approvalRequestId = some approval ∧ approval.IsApproved runtime ∧
    Text.present approval.approvedPayloadHash = true

/-- What a resolve needs to take a request up. -/
def McpStore.TakesUp (runtime : Runtime) (store : McpStore) (approvalRequestId : String) (pending : MCPPendingRequest) :
    Prop :=
  store.pendingForApproval approvalRequestId = some pending ∧ store.Ready runtime pending ∧
    store.Sealed runtime approvalRequestId ∧
      ∃ approval, store.approvalRequests.get? approvalRequestId = some approval ∧ approval.projectId ∈ store.projects

/-- One more attempt at the request of one approval. -/
structure SpendsAttempt (approvalRequestId : String) (before after : McpStore) : Prop where
  one : after.attempts approvalRequestId =
    (before.attempts approvalRequestId).map fun spent => (spent.1 + 1, spent.2)
  others : ∀ other, other ≠ approvalRequestId → after.attempts other = before.attempts other

/-- Whether a resolve takes a request up decides whether the call goes out and an attempt is spent. -/
def Spends (takes : Prop) (approvalRequestId : String) (store : McpStore) (outcome : Except Raised ResolveOutcome)
    (after : McpStore) : Prop :=
  (takes ∧ ResolveOutcome.forwards outcome = true ∧ SpendsAttempt approvalRequestId store after) ∨
    (¬ takes ∧ ResolveOutcome.forwards outcome = false ∧ SameAttempts store after)

theorem SpendsAttempt.later {first middle last : McpStore} (start : SameAttempts first middle)
    (spends : SpendsAttempt approvalRequestId middle last) : SpendsAttempt approvalRequestId first last where
  one := by rw [spends.one, start approvalRequestId]
  others other away := (spends.others other away).trans (start other)

theorem Spends.later {takes other : Prop} {middle : McpStore} {outcome : Except Raised ResolveOutcome}
    (start : SameAttempts store middle) (same : takes ↔ other) (spends : Spends takes approvalRequestId middle outcome after) :
    Spends other approvalRequestId store outcome after := by
  rcases spends with ⟨takes, forwards, spent⟩ | ⟨leaves, withheld, kept⟩
  · exact .inl ⟨same.mp takes, forwards, spent.later start⟩
  · exact .inr ⟨fun takes => leaves (same.mpr takes), withheld, start.trans _ _ _ kept⟩

section Resolving

/-- The lease of a waiting request spends one attempt. -/
theorem acquireLeaseOf_spends (sound : store.Sound) {pending : MCPPendingRequest}
    (found : store.pendingForApproval approvalRequestId = some pending) (waits : pending.status = .waitingForApproval) :
    (acquireLeaseOf runtime approvalRequestId).Ends store fun outcome after =>
      outcome = .ok none ∧ SpendsAttempt approvalRequestId store after := by
  unfold acquireLeaseOf
  apply ends_read
  rw [found]
  simp only [acquirePendingLease, waits, reduceCtorEq, if_false, ends_bind, ends_pure, continue_ok, Bool.false_eq_true,
    ne_eq, not_true_eq_false, false_and, ends_readClock, changePending, ends_modify, if_true, true_and]
  have leased := (sound.tick.tick.adjust found (fun pending => pending.leased
    (runtime.clock (Clocked.ticks (Clocked.tick store : McpStore))) (runtime.clock (Clocked.ticks store)))
    fun _ => ⟨rfl, rfl, rfl, rfl, rfl⟩).tick.tick
  constructor
  · obtain ⟨changed, kept, -, same⟩ := leased.present pending found
    unfold McpStore.attempts
    rw [kept, found, same]
    rfl
  · intro other away
    unfold McpStore.attempts
    rw [leased.others other away]

/-- A waiting request has its call in memory, or it is rebuilt. -/
theorem takePendingCall_takes (sound : store.Sound) (projectId : String) {pending : MCPPendingRequest}
    (found : store.pendingForApproval approvalRequestId = some pending) (waits : pending.status = .waitingForApproval) :
    (takePendingCall projectId approvalRequestId).Ends store fun outcome after =>
      (∃ call, outcome = .ok (some call)) ∧ Unmoved store after := by
  unfold takePendingCall
  apply ends_read
  simp only [ends_bind, setPendingCalls, ends_modify, continue_ok]
  have forgotten : Unmoved store _ := (sound.forget projectId approvalRequestId).unmoved
  cases (store.pendingCalls projectId).get? approvalRequestId with
  | some call => exact ⟨⟨call, rfl⟩, forgotten⟩
  | none =>
    refine ⟨?_, forgotten⟩
    rw [found, Option.filter_some_pos (by simp [waits])]
    exact ⟨_, rfl⟩

theorem takePendingCall_misses (sound : store.Sound) (projectId : String)
    (absent : store.pendingForApproval approvalRequestId = none) :
    (takePendingCall projectId approvalRequestId).Ends store fun outcome _ => outcome = .ok none := by
  refine (takePendingCall_ends sound projectId).mono ?_
  rintro outcome after ⟨taken, same, -, holds⟩
  cases taken with
  | none => exact same
  | some call =>
    obtain ⟨pending, found, -⟩ := holds call rfl
    rw [absent] at found
    cases found

/-- A resolve that closes the request instead of taking it up. -/
theorem markPendingStatus_withholds {takes : Prop} (leaves : ¬ takes) (approvalId : String) (status : MCPPendingStatus)
    (decision : Option String) (approval : Option ApprovalRequest) (reason : String) :
    (markPendingStatus runtime approvalId status >>= fun _ => pure (withheldDecision decision approval reason)).Ends store
      (Spends takes approvalRequestId store) := by
  have marked : Guarantees SameAttempts (markPendingStatus runtime approvalId status) :=
    sameAttempts_markPendingStatus approvalId status
  apply Ends.bind (marked.ends store)
  · intro _ after same
    exact .inr ⟨leaves, rfl, same⟩
  · intro _ after same
    exact .inr ⟨leaves, rfl, same⟩

theorem forwardApproved_spends (sound : store.Sound) {approval : ApprovalRequest} (named : approval.id = approvalRequestId)
    (projectId : String) (waiting : ∀ pending, store.pendingForApproval approvalRequestId = some pending →
      pending.status = .waitingForApproval) :
    (forwardApproved runtime projectId approval).Ends store
      (Spends (∃ pending, store.pendingForApproval approvalRequestId = some pending) approvalRequestId store) := by
  unfold forwardApproved
  rw [named]
  have spares := (sameAttempts_takePendingCall projectId approvalRequestId).ends store
  cases found : store.pendingForApproval approvalRequestId with
  | none =>
    apply Ends.bind ((takePendingCall_misses sound projectId found).and spares)
    · rintro taken middle ⟨missing, same⟩
      cases missing
      have leaves : ¬ ∃ pending, (none : Option MCPPendingRequest) = some pending := by simp
      exact (markPendingStatus_withholds leaves approvalRequestId .orphaned _ _ _).mono fun _ _ spends =>
        spends.later same Iff.rfl
    · rintro error middle ⟨impossible, -⟩
      cases impossible
  | some pending =>
    have waits := waiting pending found
    apply Ends.bind ((takePendingCall_takes sound projectId found waits).and spares)
    · rintro taken middle ⟨⟨⟨call, taken_⟩, kept⟩, same⟩
      cases taken_
      have still : middle.pendingForApproval approvalRequestId = some pending := (kept.pending _).trans found
      apply Ends.bind (acquireLeaseOf_spends kept.sound still waits)
      · rintro _ after ⟨⟨⟩, spends⟩
        exact .inl ⟨⟨pending, rfl⟩, rfl, spends.later same⟩
      · rintro error after ⟨impossible, -⟩
        cases impossible
    · rintro error middle ⟨⟨⟨_, impossible⟩, -⟩, -⟩
      cases impossible

theorem resolveUnleased_spends (sound : store.Sound) (projectId : String)
    (waiting : ∀ pending, store.pendingForApproval approvalRequestId = some pending →
      pending.status = .waitingForApproval) :
    (resolveUnleased runtime projectId approvalRequestId).Ends store
      (Spends (store.Sealed runtime approvalRequestId ∧ ∃ pending, store.pendingForApproval approvalRequestId = some pending)
        approvalRequestId store) := by
  unfold resolveUnleased
  apply ends_read
  cases stored : store.approvalRequests.get? approvalRequestId with
  | none =>
    apply markPendingStatus_withholds
    rintro ⟨⟨approval, found, -⟩, -⟩
    rw [stored] at found
    cases found
  | some approval =>
    have named : approval.id = approvalRequestId := sound.filed _ _ stored
    have only : ∀ {other}, store.approvalRequests.get? approvalRequestId = some other → other = approval :=
      fun found => Option.some.inj (found.symm.trans stored)
    by_cases pass : approval.status = .approved
    · by_cases present : Text.present approval.approvedPayloadHash = false
      · simp only [pass, ne_eq, not_true_eq_false, if_false, present, if_true]
        refine .inr ⟨?_, rfl, SameAttempts.refl store⟩
        -- without a hash in the approval nothing was sealed
        rintro ⟨⟨other, found, -, shown⟩, -⟩
        rw [only found, present] at shown
        cases shown
      · by_cases hash : some (computeApprovalPayloadHash runtime approval) = approval.approvedPayloadHash
        · simp only [pass, ne_eq, not_true_eq_false, if_false, present, hash]
          refine (forwardApproved_spends sound named projectId waiting).mono fun outcome after spends => ?_
          apply spends.later (SameAttempts.refl store)
          have sealed_ : store.Sealed runtime approvalRequestId :=
            ⟨approval, stored, ⟨pass, hash.symm⟩, by simpa using present⟩
          exact ⟨fun held => ⟨sealed_, held⟩, fun both => both.2⟩
        · simp only [pass, ne_eq, not_true_eq_false, if_false, present, hash, not_false_eq_true, if_true]
          refine .inr ⟨?_, rfl, SameAttempts.refl store⟩
          -- the payload was changed after the approval
          rintro ⟨⟨other, found, approved, -⟩, -⟩
          rw [only found] at approved
          exact hash approved.2.symm
    · simp only [pass, ne_eq, not_false_eq_true, if_true]
      apply markPendingStatus_withholds
      rintro ⟨⟨other, found, approved, -⟩, -⟩
      rw [only found] at approved
      exact pass approved.1

/-- A store whose approvals are the same seals the same approvals. -/
theorem McpStore.Sealed.congr {middle : McpStore} (same : middle.approvalRequests = store.approvalRequests) :
    middle.Sealed runtime approvalRequestId ↔ store.Sealed runtime approvalRequestId := by
  unfold McpStore.Sealed
  rw [same]

theorem resolveAfterSideChannelDecision_spends (sound : store.Sound) (projectId : String) :
    (resolveAfterSideChannelDecision runtime projectId approvalRequestId).Ends store
      (Spends (store.Sealed runtime approvalRequestId ∧ ∃ pending,
        store.pendingForApproval approvalRequestId = some pending ∧ store.Ready runtime pending) approvalRequestId store) := by
  unfold resolveAfterSideChannelDecision
  apply ends_read
  cases found : store.pendingForApproval approvalRequestId with
  | none =>
    refine (resolveUnleased_spends sound projectId (by simp [found])).mono fun outcome after spends => ?_
    apply spends.later (SameAttempts.refl store)
    simp [found]
  | some pending =>
    by_cases final : pending.status ∈ finalPendingStatuses
    · simp only [final, if_true, ends_bind, setPendingCalls, ends_modify, continue_ok, withheldDecision, ends_pure]
      refine .inr ⟨?_, rfl, fun _ => rfl⟩
      -- a final request is neither waiting nor forwarded
      rintro ⟨-, other, same, waiting | lapsed⟩
      · cases same
        rw [waiting] at final
        exact absurd final (by decide)
      · cases same
        rw [lapsed.1] at final
        exact absurd final (by decide)
    · simp only [final, if_false]
      have spares : Guarantees SameAttempts (releaseExpiredLease runtime pending) := sameAttempts_releaseExpiredLease pending
      apply Ends.bind ((releaseExpiredLease_ends sound found).and (spares.ends store))
      · rintro leased middle ⟨⟨other, same, held, released⟩, spared⟩
        cases same
        cases leased with
        | true =>
          obtain ⟨forwarding, live, -⟩ := held rfl
          refine .inr ⟨?_, rfl, spared⟩
          -- the lease is good, so there is nothing to take up
          rintro ⟨-, other, same, waiting | lapsed⟩
          · cases same
            rw [forwarding] at waiting
            cases waiting
          · cases same
            exact live lapsed
        | false =>
          have release := released rfl
          obtain ⟨changed, kept, -, change⟩ := release.present pending found
          -- the release leaves a waiting request, and there was one to take up
          have both : store.Ready runtime pending ∧ changed.status = .waitingForApproval := by
            rcases change with ⟨idle, same⟩ | ⟨_, lapsed, waits⟩
            · have waits : pending.status = .waitingForApproval := by
                cases status : pending.status <;> simp_all [finalPendingStatuses]
              exact ⟨.inl waits, same.trans waits⟩
            · exact ⟨.inr lapsed, waits⟩
          have waiting : ∀ other, middle.pendingForApproval approvalRequestId = some other →
              other.status = .waitingForApproval := by
            intro other present
            rw [kept] at present
            cases present
            exact both.2
          refine (resolveUnleased_spends release.sound projectId waiting).mono fun outcome after spends => ?_
          apply spends.later spared
          rw [McpStore.Sealed.congr release.approvals]
          simp [kept, both.1]
      · rintro error middle ⟨⟨_, impossible, -⟩, -⟩
        cases impossible

theorem gatewayForProject_known (projectId : String) :
    (gatewayForProject projectId).Ends store fun outcome _ => outcome.isOk = true ↔ projectId ∈ store.projects := by
  unfold gatewayForProject
  apply ends_read
  rw [ends_bind, ends_demand]
  constructor
  · intro listed
    simp [listed, Except.isOk, Except.toBool]
  · intro unlisted
    simp [unlisted, Except.isOk, Except.toBool]

/-- A resolve sends the call to the child server exactly where it takes the
request up, and then it spends one attempt. -/
theorem resolveGatewayRequest_spends (sound : store.Sound) :
    (resolveGatewayRequest runtime approvalRequestId).Ends store
      (Spends (∃ pending, store.TakesUp runtime approvalRequestId pending) approvalRequestId store) := by
  unfold resolveGatewayRequest
  apply ends_read
  cases stored : store.approvalRequests.get? approvalRequestId with
  | none =>
    refine .inr ⟨?_, rfl, SameAttempts.refl store⟩
    rintro ⟨_, -, -, -, approval, found, -⟩
    rw [stored] at found
    cases found
  | some approval =>
    rw [ends_bind, ends_found_some, continue_ok]
    have only : ∀ {other}, store.approvalRequests.get? approvalRequestId = some other → other = approval :=
      fun found => Option.some.inj (found.symm.trans stored)
    have spares := (sameAttempts_gatewayForProject approval.projectId).ends store
    have made : (gatewayForProject approval.projectId).Ends store fun _ after => after.ticks = store.ticks ∧
        Touches approvalRequestId (fun pending changed => changed = pending) store after :=
      gatewayForProject_ends sound approval.projectId
    apply Ends.bind ((made.and spares).and (gatewayForProject_known approval.projectId))
    · rintro _ middle ⟨⟨⟨time, kept⟩, spared⟩, known⟩
      refine (resolveAfterSideChannelDecision_spends kept.sound approval.projectId).mono fun outcome after spends => ?_
      apply spends.later spared
      -- making the gateway changes neither the clock nor what the checks read
      have unchanged : ∀ pending, middle.Ready runtime pending ↔ store.Ready runtime pending := by
        intro pending
        simp only [McpStore.Ready, McpStore.Lapsed, time]
      rw [McpStore.Sealed.congr kept.approvals]
      simp only [unchanged, kept.unmoved.pending]
      constructor
      · rintro ⟨sealed_, pending, found, ready⟩
        exact ⟨pending, found, ready, sealed_, approval, stored, known.mp rfl⟩
      · rintro ⟨pending, found, ready, sealed_, -⟩
        exact ⟨sealed_, pending, found, ready⟩
    · rintro error middle ⟨⟨-, spared⟩, known⟩
      refine .inr ⟨?_, rfl, spared⟩
      rintro ⟨_, -, -, -, other, found, listed⟩
      rw [only found] at listed
      exact absurd (known.mpr listed) (by simp [Except.isOk, Except.toBool])

end Resolving

/-- The attempts after a retry that brought a request back. -/
structure Retries (payload : PendingRetryRequest) (pending : MCPPendingRequest) (before after : McpStore) : Prop where
  held : before.attempts pending.approvalRequestId = some (pending.attempts, pending.maxAttempts)
  one : after.attempts pending.approvalRequestId =
    some (if payload.resetAttempts then 0 else pending.attempts, pending.maxAttempts)
  others : ∀ other, other ≠ pending.approvalRequestId → after.attempts other = before.attempts other

theorem retryPendingGatewayRequest_spends (sound : store.Sound) (pendingRequestId : String) (payload : PendingRetryRequest) :
    (retryPendingGatewayRequest runtime pendingRequestId payload).Ends store fun outcome after =>
      (outcome.isOk = false ∧ SameAttempts store after) ∨
        (outcome.isOk = true ∧ ∃ pending, store.mcpPendingRequests.get? pendingRequestId = some pending ∧
          Retries payload pending store after) := by
  unfold retryPendingGatewayRequest
  apply ends_read
  apply ends_lookup
  · exact .inl ⟨rfl, SameAttempts.refl store⟩
  intro pending stored
  apply ends_guard
  · exact .inl ⟨rfl, SameAttempts.refl store⟩
  intro _
  have named : pending.id = pendingRequestId := sound.keyed _ _ stored
  subst named
  have found : store.pendingForApproval pending.approvalRequestId = some pending := sound.pending_iff.mpr ⟨stored, rfl⟩
  -- what follows the look at the lease, in the state that the look leaves
  have rest : ∀ (good : Bool) (middle : McpStore), SameAttempts store middle →
      Touches pending.approvalRequestId (fun pending changed => changed = pending) store middle →
        (do
          demand (good = false) (.http 409 "MCP pending request has an active lease")
          let updatedAt ← readClock runtime
          changePending pending.id fun pending => pending.retried updatedAt payload.resetAttempts : McpProcedure Unit).Ends
            middle fun outcome after => (outcome.isOk = false ∧ SameAttempts store after) ∨
              (outcome.isOk = true ∧ ∃ other, store.mcpPendingRequests.get? pending.id = some other ∧
                Retries payload other store after) := by
    intro good middle spared kept
    apply ends_guard
    · exact .inl ⟨rfl, spared⟩
    intro _
    obtain ⟨between, present, -, rfl⟩ := kept.present pending found
    refine (readClock_changePending_ends kept.sound present
      (fun updatedAt pending => pending.retried updatedAt payload.resetAttempts)
      fun _ _ => ⟨rfl, rfl, rfl, rfl, rfl⟩).mono ?_
    rintro outcome after ⟨rfl, touches⟩
    refine .inr ⟨rfl, between, stored, ?_⟩
    constructor
    · rw [McpStore.attempts, found, Option.map_some]
    · obtain ⟨changed, left, -, same⟩ := touches.present between present
      rw [McpStore.attempts, left, same, Option.map_some]
      rfl
    · intro other away
      rw [← spared other, McpStore.attempts, McpStore.attempts, touches.others other away]
  by_cases forwarding : pending.status = .forwarding
  · rw [if_pos forwarding]
    apply Ends.bind (leaseStillGood_ends pending.leaseExpiresAt)
    · rintro good middle ⟨_, -, -, rfl | rfl⟩
      · exact rest good _ (SameAttempts.refl _) (sound.touches_self _)
      · exact rest good _ (fun _ => rfl) (sound.tick.touches_self pending.approvalRequestId).tick
    · rintro error middle ⟨_, impossible, -⟩
      cases impossible
  · rw [if_neg forwarding]
    exact rest false store (SameAttempts.refl _) (sound.touches_self _)

/-- The attempts after a call was held. -/
structure Holding (approvalRequestId : String) (before after : McpStore) : Prop where
  fresh : before.pendingForApproval approvalRequestId = none
  one : after.attempts approvalRequestId = some (0, 3)
  others : ∀ other, other ≠ approvalRequestId → after.attempts other = before.attempts other

theorem Holding.tick (holding : Holding approvalRequestId (Clocked.tick store) after) :
    Holding approvalRequestId store after :=
  ⟨holding.fresh, holding.one, holding.others⟩

theorem McpStore.Sound.hold (sound : store.Sound) {approval : ApprovalRequest} {pending : MCPPendingRequest}
    {call : MCPGatewayToolCall} (adds : Adds approval.id call store { store with
      approvalRequests := store.approvalRequests.set approval.id approval
      mcpPendingRequests := store.mcpPendingRequests.set pending.id pending })
    (unspent : (pending.attempts, pending.maxAttempts) = (0, 3)) : Holding approval.id store { store with
      approvalRequests := store.approvalRequests.set approval.id approval
      mcpPendingRequests := store.mcpPendingRequests.set pending.id pending } where
  fresh := adds.fresh
  one := by
    obtain ⟨added, found, -⟩ := adds.added
    have stored := (adds.sound.pending_iff.mp found).1
    rw [McpStore.attempts, found, Option.map_some]
    by_cases same : added.id = pending.id
    · simp only [Table.get?_set, same, if_true] at stored
      rw [← Option.some.inj stored, unspent]
    · -- an older request of this approval would not be fresh
      simp only [Table.get?_set, same, if_false] at stored
      have before := sound.pending_iff.mpr ⟨stored, (adds.sound.pending_iff.mp found).2⟩
      rw [adds.fresh] at before
      cases before
  others other away := by
    rw [McpStore.attempts, McpStore.attempts, adds.others other away]

theorem createMcpApproval_attempts (sound : store.Sound) (projectId : String) (call : MCPGatewayToolCall) :
    (createMcpApproval runtime projectId call).Ends store fun outcome after => ∃ approval, outcome = .ok approval ∧
      Holding approval.id store after := by
  simp only [createMcpApproval, ends_bind, ends_readClock, continue_ok, ends_state, ends_modify, ends_pure]
  refine ⟨_, rfl, ?_⟩
  iterate 4 apply Holding.tick
  refine sound.tick.tick.tick.tick.hold (?_ : Adds _ call _ _) rfl
  apply sound.tick.tick.tick.tick.add
  · exact runtime.newId_fresh "approval" _
  · exact runtime.newId_fresh "mcp_pending" _
  · rfl
  · rfl
  · exact ⟨rfl, rfl, rfl⟩

theorem submitGatewayRequest_attempts (sound : store.Sound) (projectId : String) (call : MCPGatewayToolCall) :
    (submitGatewayRequest runtime projectId call).Ends store fun _ after =>
      SameAttempts store after ∨ ∃ approvalRequestId, Holding approvalRequestId store after := by
  unfold submitGatewayRequest
  have made : (gatewayForProject projectId).Ends store fun _ after => after.ticks = store.ticks ∧
      Touches "" (fun pending changed => changed = pending) store after := gatewayForProject_ends sound projectId
  apply Ends.bind (made.and ((sameAttempts_gatewayForProject projectId).ends store))
  · rintro _ middle ⟨⟨-, kept⟩, spared⟩
    unfold submitToolCall
    by_cases harmless : call.isMutating = false
    · rw [if_pos harmless]
      exact .inl spared
    · rw [if_neg harmless]
      apply Ends.bind (createMcpApproval_attempts kept.sound projectId call)
      · rintro approval after ⟨other, same, holding⟩
        cases same
        refine .inr ⟨approval.id, ?_⟩
        constructor
        · rw [← kept.unmoved.pending]
          exact holding.fresh
        · exact holding.one
        · intro other away
          rw [← spared other]
          exact holding.others other away
      · rintro error after ⟨_, impossible, -⟩
        cases impossible
  · rintro _ middle ⟨-, spared⟩
    exact .inl spared

theorem handleToolsCall_attempts (sound : store.Sound) (projectId : String) (params : List (String × Document)) :
    (handleToolsCall runtime projectId params).Ends store fun _ after =>
      SameAttempts store after ∨ ∃ approvalRequestId, Holding approvalRequestId store after := by
  unfold handleToolsCall
  apply ends_read
  apply ends_guard
  · exact .inl (SameAttempts.refl store)
  intro _
  cases toolCallFromParams runtime store projectId params with
  | error message => exact .inl (SameAttempts.refl store)
  | ok call => exact submitGatewayRequest_attempts sound projectId call

theorem submitted_store (system : McpSystem) (outcome : Except Raised SubmitOutcome × McpStore) :
    (system.submitted outcome).store = outcome.2 := by
  rcases outcome with ⟨error | ⟨sent⟩ | ⟨heldId, sent, decision⟩, after⟩ <;> rfl

theorem resolved_store (system : McpSystem) (approvalRequestId : String)
    (outcome : Except Raised ResolveOutcome × McpStore) : (system.resolved approvalRequestId outcome).store = outcome.2 := by
  rcases outcome with ⟨error | ⟨decision⟩ | ⟨approval, call⟩, after⟩ <;> rfl

/-- A run of the gateway with the number of child calls for each approval since
the last retry that gave its attempts back. -/
structure Tally where
  system : McpSystem
  calls : String → Nat

namespace Tally

variable {tally : Tally}

def counted (runtime : Runtime) (tally : Tally) : McpStep → String → Nat
  | .resolve approvalRequestId =>
      if ResolveOutcome.forwards ((resolveGatewayRequest runtime approvalRequestId).run tally.system.store).1 = true then
        Function.update tally.calls approvalRequestId (tally.calls approvalRequestId + 1)
      else tally.calls
  | .retry pendingRequestId payload =>
      match tally.system.store.mcpPendingRequests.get? pendingRequestId with
      | none => tally.calls
      | some pending =>
          if payload.resetAttempts = true ∧
              ((retryPendingGatewayRequest runtime pendingRequestId payload).run tally.system.store).1.isOk = true then
            Function.update tally.calls pending.approvalRequestId 0
          else tally.calls
  | _ => tally.calls

def next (runtime : Runtime) (tally : Tally) (step : McpStep) : Tally where
  system := mcpNext runtime tally.system step
  calls := tally.counted runtime step

def machine (runtime : Runtime) : Machine Tally McpStep where
  initial tally := tally.system.Fresh ∧ tally.calls = fun _ => 0
  next := next runtime

/-- No resolve takes up a request that has spent its attempts. -/
def Measured (runtime : Runtime) (tally : Tally) : McpStep → Prop
  | .resolve approvalRequestId => ∀ pending, tally.system.store.TakesUp runtime approvalRequestId pending →
      pending.attempts < pending.maxAttempts
  | _ => True

/-- Every call since the last reset has spent an attempt, and no attempt is spent beyond the bound. -/
structure Bounded (tally : Tally) : Prop where
  «sound» : tally.system.store.Sound
  within : ∀ approvalRequestId spent bound, tally.system.store.attempts approvalRequestId = some (spent, bound) →
    tally.calls approvalRequestId ≤ spent ∧ spent ≤ bound
  absent : ∀ approvalRequestId, tally.system.store.attempts approvalRequestId = none → tally.calls approvalRequestId = 0

theorem Bounded.keep (bounded : tally.Bounded) {system : McpSystem} («sound» : system.store.Sound)
    (same : SameAttempts tally.system.store system.store) : (⟨system, tally.calls⟩ : Tally).Bounded where
  «sound» := «sound»
  within approvalRequestId spent bound found := bounded.within approvalRequestId spent bound ((same _).symm.trans found)
  absent approvalRequestId missing := bounded.absent approvalRequestId ((same _).symm.trans missing)

theorem Bounded.hold (bounded : tally.Bounded) {system : McpSystem} («sound» : system.store.Sound)
    (holding : Holding approvalRequestId tally.system.store system.store) : (⟨system, tally.calls⟩ : Tally).Bounded where
  «sound» := «sound»
  within other spent bound found := by
    by_cases same : other = approvalRequestId
    · subst same
      rw [holding.one] at found
      cases found
      have none_ : tally.system.store.attempts other = none := by
        rw [McpStore.attempts, holding.fresh, Option.map_none]
      exact ⟨(bounded.absent other none_).le, by decide⟩
    · rw [holding.others other same] at found
      exact bounded.within other spent bound found
  absent other missing := by
    by_cases same : other = approvalRequestId
    · subst same
      rw [holding.one] at missing
      cases missing
    · rw [holding.others other same] at missing
      exact bounded.absent other missing

/-- A call that spends an attempt below the bound. -/
theorem Bounded.spend (bounded : tally.Bounded) {system : McpSystem} («sound» : system.store.Sound)
    {pending : MCPPendingRequest} (found : tally.system.store.pendingForApproval approvalRequestId = some pending)
    (spare : pending.attempts < pending.maxAttempts)
    (spends : SpendsAttempt approvalRequestId tally.system.store system.store) :
    (⟨system, Function.update tally.calls approvalRequestId (tally.calls approvalRequestId + 1)⟩ : Tally).Bounded where
  «sound» := «sound»
  within other spent bound held := by
    by_cases same : other = approvalRequestId
    · subst same
      have before : tally.system.store.attempts other = some (pending.attempts, pending.maxAttempts) := by
        rw [McpStore.attempts, found, Option.map_some]
      rw [spends.one, before] at held
      cases held
      have bound := bounded.within other _ _ before
      simp only [Function.update_self]
      exact ⟨Nat.succ_le_succ bound.1, spare⟩
    · rw [spends.others other same] at held
      simp only [Function.update_of_ne same]
      exact bounded.within other spent bound held
  absent other missing := by
    by_cases same : other = approvalRequestId
    · subst same
      rw [spends.one, McpStore.attempts, found] at missing
      cases missing
    · rw [spends.others other same] at missing
      simp only [Function.update_of_ne same]
      exact bounded.absent other missing

theorem Bounded.retry (bounded : tally.Bounded) {system : McpSystem} («sound» : system.store.Sound)
    {pending : MCPPendingRequest} {payload : PendingRetryRequest}
    (retries : Retries payload pending tally.system.store system.store) :
    (⟨system, if payload.resetAttempts then Function.update tally.calls pending.approvalRequestId 0 else tally.calls⟩ :
      Tally).Bounded := by
  have bound := bounded.within _ _ _ retries.held
  constructor
  · exact «sound»
  · intro other spent most held
    by_cases same : other = pending.approvalRequestId
    · subst same
      rw [retries.one] at held
      cases held
      cases payload.resetAttempts with
      | true => simp
      | false => exact bound
    · rw [retries.others other same] at held
      cases payload.resetAttempts with
      | true => simpa [Function.update_of_ne same] using bounded.within other spent most held
      | false => exact bounded.within other spent most held
  · intro other missing
    by_cases same : other = pending.approvalRequestId
    · subst same
      rw [retries.one] at missing
      cases missing
    · rw [retries.others other same] at missing
      cases payload.resetAttempts with
      | true => simpa [Function.update_of_ne same] using bounded.absent other missing
      | false => exact bounded.absent other missing

/-- A submission holds a new call, or it leaves the attempts alone. -/
theorem Bounded.submit (bounded : tally.Bounded) {outcome : Except Raised SubmitOutcome × McpStore}
    («sound» : (tally.system.submitted outcome).store.Sound)
    (submits : SameAttempts tally.system.store outcome.2 ∨
      ∃ approvalRequestId, Holding approvalRequestId tally.system.store outcome.2) :
    (⟨tally.system.submitted outcome, tally.calls⟩ : Tally).Bounded := by
  rw [← submitted_store tally.system outcome] at submits
  rcases submits with same | ⟨approvalRequestId, holding⟩
  · exact bounded.keep («sound») same
  · exact bounded.hold («sound») holding

theorem Bounded.resolve (bounded : tally.Bounded) {outcome : Except Raised ResolveOutcome × McpStore}
    («sound» : (tally.system.resolved approvalRequestId outcome).store.Sound)
    (measured : Measured runtime tally (.resolve approvalRequestId))
    (spends : Spends (∃ pending, tally.system.store.TakesUp runtime approvalRequestId pending) approvalRequestId
      tally.system.store outcome.1 outcome.2) :
    (⟨tally.system.resolved approvalRequestId outcome, if ResolveOutcome.forwards outcome.1 = true then
        Function.update tally.calls approvalRequestId (tally.calls approvalRequestId + 1) else tally.calls⟩ :
      Tally).Bounded := by
  rw [← resolved_store tally.system approvalRequestId outcome] at spends
  rcases spends with ⟨⟨pending, takes⟩, forwards, spent⟩ | ⟨-, withheld, same⟩
  · rw [if_pos forwards]
    exact bounded.spend («sound») takes.1 (measured pending takes) spent
  · simp only [withheld, Bool.false_eq_true, if_false]
    exact bounded.keep («sound») same

theorem Bounded.next (bounded : tally.Bounded) (step : McpStep) (measured : Measured runtime tally step) :
    (next runtime tally step).Bounded := by
  have «sound» : (mcpNext runtime tally.system step).store.Sound := mcpNext_sound bounded.sound step
  cases step with
  | submitRequest projectId call =>
    exact bounded.submit («sound») (submitGatewayRequest_attempts bounded.sound projectId call)
  | toolsCall projectId params =>
    exact bounded.submit («sound») (handleToolsCall_attempts bounded.sound projectId params)
  | resolve approvalRequestId =>
    exact bounded.resolve («sound») measured (resolveGatewayRequest_spends bounded.sound)
  | finish flight answer =>
    apply bounded.keep («sound»)
    show SameAttempts tally.system.store (tally.system.finished runtime flight answer).store
    unfold McpSystem.finished
    split
    · cases answer with
      | none => exact SameAttempts.refl _
      | some result => exact sameAttempts_recordForwardResult flight.approvalRequestId result tally.system.store
    · exact SameAttempts.refl _
  | retry pendingRequestId payload =>
    have retried : (retryPendingGatewayRequest runtime pendingRequestId payload).Ends tally.system.store _ :=
      retryPendingGatewayRequest_spends bounded.sound pendingRequestId payload
    rcases retried with ⟨refused, same⟩ | ⟨done, pending, stored, retries⟩
    · have kept := bounded.keep («sound») same
      cases stored : tally.system.store.mcpPendingRequests.get? pendingRequestId <;>
        simpa [Tally.next, counted, stored, refused] using kept
    · have reset := bounded.retry («sound») retries
      cases given : payload.resetAttempts <;> simpa [Tally.next, counted, stored, done, given] using reset
  | outside change => exact bounded.keep («sound») (SameAttempts.refl _)

theorem bounded_reachable (reachable : (machine runtime).Reachable (Measured runtime) tally) : tally.Bounded := by
  apply reachable.invariant
  · rintro first ⟨fresh, uncounted⟩
    have nothing : ∀ approvalRequestId, first.system.store.attempts approvalRequestId = none := by
      intro approvalRequestId
      rw [McpStore.attempts, McpStore.pendingForApproval, fresh.pending]
      rfl
    constructor
    · exact fresh.sound
    · intro approvalRequestId spent bound found
      rw [nothing] at found
      cases found
    · intro approvalRequestId _
      rw [uncounted]
  · exact fun tally step bounded measured => bounded.next step measured

/-- As long as no resolve takes up a request that has spent its attempts, the
attempts of every request stay within their bound, and so do the child calls
since the last retry that gave them back. -/
theorem forwarding_attempts_bounded (runtime : Runtime) (tally : Tally)
    (reachable : (machine runtime).Reachable (Measured runtime) tally) (pendingId : String) (pending : MCPPendingRequest)
    (stored : tally.system.store.mcpPendingRequests.get? pendingId = some pending) :
    pending.attempts ≤ pending.maxAttempts ∧ tally.calls pending.approvalRequestId ≤ pending.maxAttempts := by
  have bounded := bounded_reachable reachable
  have named := bounded.sound.keyed pendingId pending stored
  have found : tally.system.store.attempts pending.approvalRequestId = some (pending.attempts, pending.maxAttempts) := by
    rw [McpStore.attempts, bounded.sound.pending_iff.mpr ⟨by rw [named]; exact stored, rfl⟩, Option.map_some]
  obtain ⟨called, within⟩ := bounded.within _ _ _ found
  exact ⟨within, called.trans within⟩

/-- A resolve that takes up a request without attempts left breaks the bound at once. -/
theorem unmeasured_exceeds (bounded : tally.Bounded) {pending : MCPPendingRequest}
    (takes : tally.system.store.TakesUp runtime approvalRequestId pending) (spent : pending.maxAttempts ≤ pending.attempts) :
    ∃ changed, (next runtime tally (.resolve approvalRequestId)).system.store.pendingForApproval approvalRequestId =
      some changed ∧ changed.maxAttempts < changed.attempts := by
  have spends : Spends (∃ pending, tally.system.store.TakesUp runtime approvalRequestId pending) approvalRequestId
      tally.system.store _ _ := resolveGatewayRequest_spends bounded.sound
  show ∃ changed, (tally.system.resolved approvalRequestId _).store.pendingForApproval _ = some changed ∧ _
  rw [resolved_store]
  rcases spends with ⟨-, -, one⟩ | ⟨leaves, -⟩
  · have counted := one.one
    simp only [McpStore.attempts, takes.1, Option.map_some] at counted
    obtain ⟨changed, found, same⟩ := Option.map_eq_some_iff.mp counted
    refine ⟨changed, found, ?_⟩
    obtain ⟨more, bound⟩ := Prod.mk.inj same
    omega
  · exact absurd ⟨pending, takes⟩ leaves

section Sample

def unspent : Tally := ⟨registeredSystem, fun _ => 0⟩

theorem unspent_initial (runtime : Runtime) : (machine runtime).initial unspent := ⟨registeredSystem_fresh, rfl⟩

/-- An approved call that goes out once. -/
def calledOnce : Tally :=
  (machine (.plain false)).runAll unspent
    [.submitRequest "project_1" (writeCall none), approveCall (.plain false), .resolve heldApprovalId]

/-- The identifier that the request of the first held call gets. -/
def heldPendingId : String := "mcp_pending_"

theorem forwarding_attempts_bounded_sample : calledOnce.calls heldApprovalId = 1 ∧
    ∀ pending, calledOnce.system.store.mcpPendingRequests.get? heldPendingId = some pending →
      pending.attempts ≤ pending.maxAttempts ∧ calledOnce.calls pending.approvalRequestId ≤ pending.maxAttempts := by
  constructor
  · decide +kernel
  · apply forwarding_attempts_bounded (.plain false) calledOnce
    refine ⟨unspent, unspent_initial _, Machine.follows_runAll _ _ ?_⟩
    refine ⟨trivial, trivial, ?_, trivial⟩
    rintro pending ⟨found, -⟩
    have unspent_ : ((machine (.plain false)).runAll unspent
        [.submitRequest "project_1" (writeCall none), approveCall (.plain false)]).system.store.attempts heldApprovalId =
          some (0, 3) := by decide +kernel
    simp only [McpStore.attempts] at unspent_
    have counts := (congrArg (Option.map fun pending => (pending.attempts, pending.maxAttempts)) found).symm.trans unspent_
    obtain ⟨none_, three⟩ := Prod.mk.inj (Option.some.inj counts)
    omega

/-- A child server that never answers: every call ends with an exception. -/
def exceptions : List McpStep :=
  [.resolve heldApprovalId, .finish ⟨heldApprovalId, writeCall none⟩ none,
    .resolve heldApprovalId, .finish ⟨heldApprovalId, writeCall (some true)⟩ none,
    .resolve heldApprovalId, .finish ⟨heldApprovalId, writeCall (some true)⟩ none,
    .resolve heldApprovalId]

/-- Every lease expires before the next resolve, and the fourth resolve finds three attempts. -/
def overspent : Tally :=
  (machine slowChildren).runAll unspent
    ([.submitRequest "project_1" (writeCall none), approveCall slowChildren] ++ exceptions)

theorem exceptions_exceed_attempts : ¬ ∀ (runtime : Runtime) (tally : Tally),
    (machine runtime).Reachable Machine.anything tally → ∀ pendingId pending,
      tally.system.store.mcpPendingRequests.get? pendingId = some pending →
        pending.attempts ≤ pending.maxAttempts ∧ tally.calls pending.approvalRequestId ≤ pending.maxAttempts := by
  intro claim
  have bounded := claim slowChildren overspent ⟨unspent, unspent_initial _, Machine.follows_anything _ _⟩ heldPendingId
  have spent : (overspent.system.store.mcpPendingRequests.get? heldPendingId).map (fun pending =>
      (pending.attempts, pending.maxAttempts)) = some (4, 3) := by decide +kernel
  obtain ⟨pending, stored, counts⟩ := Option.map_eq_some_iff.mp spent
  have within := (bounded pending stored).1
  obtain ⟨four, three⟩ := Prod.mk.inj counts
  omega

end Sample

end Tally

end ControlTower
