import ControlTower.Trust.Service

/-! The trust records, and the issue of capability leases: the gate in front of it, the scan for a live
lease, and the lease that a request gets. -/

set_option autoImplicit false

namespace ControlTower

open Foundation
open Foundation.Procedure

/-- The trust records and what they are judged by are as they were. -/
structure Store.SameTrust (before after : Store) : Prop where
  agents : after.externalAgents = before.externalAgents
  tasks : after.agentTasks = before.agentTasks
  approvals : after.approvalRequests = before.approvalRequests
  attestations : after.reviewerAttestations = before.reviewerAttestations
  leases : after.capabilityLeases = before.capabilityLeases
  actions : after.proposedActions = before.proposedActions
  decisions : after.policyDecisions = before.policyDecisions
  authorizations : after.actionAuthorizations = before.actionAuthorizations
  consumptions : after.actionConsumptions = before.actionConsumptions
  time : before.ticks ≤ after.ticks

theorem Store.sameTrust_self (store : Store) : store.SameTrust store :=
  ⟨rfl, rfl, rfl, rfl, rfl, rfl, rfl, rfl, rfl, Nat.le_refl _⟩

theorem Store.sameTrust_trans (first middle last : Store) (start : first.SameTrust middle)
    (rest : middle.SameTrust last) : first.SameTrust last where
  agents := rest.agents.trans start.agents
  tasks := rest.tasks.trans start.tasks
  approvals := rest.approvals.trans start.approvals
  attestations := rest.attestations.trans start.attestations
  leases := rest.leases.trans start.leases
  actions := rest.actions.trans start.actions
  decisions := rest.decisions.trans start.decisions
  authorizations := rest.authorizations.trans start.authorizations
  consumptions := rest.consumptions.trans start.consumptions
  time := start.time.trans rest.time

/-- A record written under its own identifier. -/
theorem set_named {α : Type} (name : α → String) {table : Table String α} {key : String} {value : α}
    (named : name value = key) : table.set key value = table.set (name value) value := by rw [named]

section Silent

variable {runtime : Runtime} {store : Store}

theorem persist_same : Guarantees Store.SameTrust persist :=
  fun _ => ⟨rfl, rfl, rfl, rfl, rfl, rfl, rfl, rfl, rfl, Nat.le_refl _⟩

theorem readClock_same (runtime : Runtime) :
    Guarantees Store.SameTrust (readClock runtime : StoreProcedure Instant) :=
  fun _ => ⟨rfl, rfl, rfl, rfl, rfl, rfl, rfl, rfl, rfl, Nat.le_succ _⟩

theorem appendTrustEvent_same {eventType : TrustEventType} {entityType entityId actor : String}
    {correlationId : Option String} {payload : Document} :
    Guarantees Store.SameTrust
      (appendTrustEvent runtime eventType entityType entityId actor correlationId payload) :=
  fun _ => ⟨rfl, rfl, rfl, rfl, rfl, rfl, rfl, rfl, rfl, Nat.le_succ _⟩

/-- An event and the write to the database at the end of a service. -/
theorem announce_ends {eventType : TrustEventType} {entityType entityId actor : String}
    {correlationId : Option String} {payload : Document} :
    (appendTrustEvent runtime eventType entityType entityId actor correlationId payload >>= fun _ => persist).Ends store
      fun outcome after => outcome = .ok () ∧ store.SameTrust after :=
  ⟨rfl, rfl, rfl, rfl, rfl, rfl, rfl, rfl, rfl, rfl, Nat.le_succ _⟩

end Silent

/-- The reading of the clock was taken between two states. -/
def Store.Reads (runtime : Runtime) (before after : Store) (now : Instant) : Prop :=
  ∃ tick, before.ticks ≤ tick ∧ tick < after.ticks ∧ now = runtime.clock tick

/-- A user stands behind the payload of an approval: as its approver, or by an
attestation of that payload. -/
def Store.Approves (store : Store) (approval : ApprovalRequest) (payloadHash user : String) : Prop :=
  (approval.approvedByUserId = some user ∧ user ≠ "") ∨
    ∃ attestation ∈ store.reviewerAttestations.values, attestation.approvalRequestId = approval.id ∧
      attestation.approvalPayloadHash = payloadHash ∧ attestation.decision = .approve ∧
      attestation.reviewerUserId = user

/-- A reviewer has denied the payload of an approval. -/
def Store.Denies (store : Store) (approvalRequestId payloadHash : String) : Prop :=
  ∃ attestation ∈ store.reviewerAttestations.values, attestation.approvalRequestId = approvalRequestId ∧
    attestation.approvalPayloadHash = payloadHash ∧ attestation.decision = .deny

/-- What the field validators leave of a scope. -/
structure CapabilityScope.Valid (scope : CapabilityScope) : Prop where
  branch : Text.strip scope.branch = scope.branch
  actions : ∀ action ∈ scope.allowedActions, action ∈ v1AllowedCapabilityActions
  paths : ∀ path ∈ scope.allowedPathPrefixes, Text.strip path = path ∧ path ≠ ""
  commands : ∀ command ∈ scope.allowedCommands, Text.strip command = command ∧ command ≠ ""
  domains : ∀ domain ∈ scope.allowedNetworkDomains, Text.strip domain = domain ∧ domain ≠ ""
  cost : 0 ≤ scope.maxCostUsd

section Valid

theorem mem_normalizeStrings {values : List String} {value : String} (member : value ∈ normalizeStrings values) :
    ∃ raw, value = Text.strip raw ∧ value ≠ "" := by
  have general : ∀ (rest kept : List String), (∀ text ∈ kept, ∃ raw, text = Text.strip raw ∧ text ≠ "") →
      ∀ text ∈ rest.foldl (fun normalized value =>
        let cleaned := Text.strip value
        if cleaned ≠ "" ∧ cleaned ∉ normalized then normalized ++ [cleaned] else normalized) kept,
        ∃ raw, text = Text.strip raw ∧ text ≠ "" := by
    intro rest
    induction rest with
    | nil => exact fun _ holds => holds
    | cons first rest ih =>
      intro kept holds
      apply ih
      dsimp only
      split
      · rename_i added
        intro text present
        rcases List.mem_append.mp present with earlier | new
        · exact holds text earlier
        · rw [List.mem_singleton] at new
          exact ⟨first, new, new ▸ added.1⟩
      · exact holds
  exact general values [] (by simp) value member

theorem CapabilityScope.valid_of_validate {raw scope : CapabilityScope} (validated : raw.validate = .ok scope) :
    scope.Valid := by
  simp only [CapabilityScope.validate] at validated
  iterate 10
    split at validated
    · cases validated
  rename_i actions _ _ _ _ cost _ _
  obtain rfl := Except.ok.inj validated
  have stripped : ∀ values : List String, ∀ value ∈ normalizeStrings values, Text.strip value = value ∧ value ≠ "" := by
    intro values value member
    obtain ⟨source, rfl, filled⟩ := mem_normalizeStrings member
    exact ⟨Text.strip_strip source, filled⟩
  refine ⟨Text.strip_strip _, fun action member => ?_, stripped _, stripped _, stripped _, ?_⟩
  · simp only [not_or, not_not] at actions
    exact List.contains_iff_mem.mp (List.all_eq_true.mp actions.2.2 action (mem_keepFirst.mp member))
  · simp only [not_or, not_lt] at cost
    exact cost.1

end Valid

/-- The scope of a lease request is part of what was approved. -/
structure CapabilityScope.Approved (scope : CapabilityScope) (approval : ApprovalRequest) (task : AgentTask) : Prop where
  repository : some scope.repository = task.repository
  targetBranch : scope.branch = approval.targetBranch
  taskBranch : some scope.branch = task.branchPreference
  paths : ∀ path ∈ scope.allowedPathPrefixes,
    Text.stripEnd '/' (normalizedPath path) ∈ approval.files.map fun item => normalizedPath item.path
  commands : ∀ command ∈ scope.allowedCommands,
    Text.strip command ∈ approval.testPlan.map Text.strip ∧ Text.strip command ≠ ""
  noAutoMerge : scope.allowAutoMerge = false

/-- The gate in front of a new lease. -/
structure Store.Admits (store : Store) (payload : CapabilityLeaseCreate) (approval : ApprovalRequest) : Prop where
  stored : store.approvalRequests.get? payload.approvalRequestId = some approval
  approved : approval.status = .approved
  frozen : Text.present approval.approvedPayloadHash = true
  known : Text.present payload.agentId = true → payload.agentId.getD "" ∈ store.externalAgents.keys
  undenied : ¬ store.Denies approval.id (approval.approvedPayloadHash.getD "")
  covered : ∃ task, store.linkedTaskForApproval approval.id = some task ∧ payload.scope.Approved approval task
  independent : payload.preventSelfApproval = true → ∀ creator, approval.createdByUserId = some creator →
    ¬ store.Approves approval (approval.approvedPayloadHash.getD "") creator
  reviewed : payload.requiredReviewerCount ≤
    (store.approvalReviewerIds approval (approval.approvedPayloadHash.getD "")).length

/-- The lease is of this approval and this agent. -/
def CapabilityLease.Concerns (lease : CapabilityLease) (approvalId : String) (agentId : Option String) : Prop :=
  lease.approvalRequestId = approvalId ∧ lease.agentId = agentId

/-- The lease is live at the time: active, and not yet at its end. -/
def CapabilityLease.LiveAt (lease : CapabilityLease) (now : Instant) : Prop :=
  lease.status = .active ∧ now < lease.expiresAt

/-- A new lease carries the terms of its request, under a signed receipt. -/
structure CapabilityLease.Grants (runtime : Runtime) (payload : CapabilityLeaseCreate) (approval : ApprovalRequest)
    (lease : CapabilityLease) : Prop where
  ofApproval : lease.approvalRequestId = approval.id
  payloadHash : approval.approvedPayloadHash = some lease.approvedPayloadHash
  agent : lease.agentId = payload.agentId
  provider : lease.provider = payload.provider
  mode : lease.mode = payload.mode
  scope : lease.scope = { payload.scope with
    metadata := Document.setField "request_fingerprint" (.text (runtime.sha256Hex payload.document))
      payload.scope.metadata }
  reviewers : lease.requiredReviewerCount = payload.requiredReviewerCount
  selfApproval : lease.preventSelfApproval = payload.preventSelfApproval
  active : lease.status = .active
  expires : lease.expiresAt = lease.issuedAt.plusSeconds payload.expiresInSeconds
  unused : lease.consumedRuntimeSeconds = 0 ∧ lease.consumedCostUsd = 0 ∧ lease.consumedPullRequests = 0 ∧
    lease.consumedRetries = 0
  signed : lease.receiptSignature = runtime.signPayload (leaseReceiptPayload lease)

section Gate

variable {store : Store} {approval : ApprovalRequest} {payloadHash user : String}

theorem mem_approvalReviewerIds :
    user ∈ store.approvalReviewerIds approval payloadHash ↔ store.Approves approval payloadHash user := by
  simp only [Store.approvalReviewerIds, mem_keepFirst, List.mem_append, List.mem_filter, Option.mem_toList,
    List.mem_map, Store.Approves, bne_iff_ne, Bool.and_eq_true, beq_iff_eq]
  refine or_congr Iff.rfl ⟨?_, ?_⟩
  · rintro ⟨attestation, ⟨member, ⟨about, hash⟩, approves⟩, reviewer⟩
    exact ⟨attestation, member, about, hash, approves, reviewer⟩
  · rintro ⟨attestation, member, about, hash, approves, reviewer⟩
    exact ⟨attestation, ⟨member, ⟨about, hash⟩, approves⟩, reviewer⟩

theorem hasDenial_iff {approvalRequestId : String} :
    store.hasDenial approvalRequestId payloadHash = true ↔ store.Denies approvalRequestId payloadHash := by
  simp only [Store.hasDenial, Store.Denies, List.any_eq_true, Bool.and_eq_true, beq_iff_eq, and_assoc]

/-- The number of reviewers is a number of different users. -/
theorem reviewers_distinct : (store.approvalReviewerIds approval payloadHash).Nodup := keepFirst_nodup _

end Gate

section Scope

variable {store : Store} {payload : CapabilityLeaseCreate} {approval : ApprovalRequest}

theorem outside_eq_nil {values : List String} {inside : String → Bool} :
    sortTexts (values.filter fun value => !inside value) = [] ↔ ∀ value ∈ values, inside value = true := by
  simp [sortTexts_eq_nil, List.filter_eq_nil_iff]

/-- The scope check passes exactly the approved scopes, and changes nothing. -/
def ScopeChecked (store : Store) (payload : CapabilityLeaseCreate) (approval : ApprovalRequest)
    (outcome : Except Raised Unit) (after : Store) : Prop :=
  after = store ∧
    ((outcome = .ok () ∧ ∃ task, store.linkedTaskForApproval approval.id = some task ∧
        payload.scope.Approved approval task) ∨
      ((∃ error, outcome = .error error) ∧ ∀ task, store.linkedTaskForApproval approval.id = some task →
        ¬ payload.scope.Approved approval task))

theorem validateScopeAgainstApproval_ends :
    (validateScopeAgainstApproval payload approval).Ends store (ScopeChecked store payload approval) := by
  refine ends_read ?_
  cases linked : store.linkedTaskForApproval approval.id with
  | none =>
    simp only [ends_bind, found, ends_raise, continue_error]
    exact ⟨rfl, .inr ⟨⟨_, rfl⟩, fun task same => by rw [linked] at same; cases same⟩⟩
  | some task =>
    -- every refusal leaves the store and says that the scope is not the approved one
    have refuses : ∀ error : Raised, ¬ payload.scope.Approved approval task →
        ScopeChecked store payload approval (.error error) store := by
      intro error refused
      refine ⟨rfl, .inr ⟨⟨error, rfl⟩, fun other same => ?_⟩⟩
      rw [linked] at same
      obtain rfl := Option.some.inj same
      exact refused
    rw [ends_bind, ends_found_some, continue_ok]
    -- the checks of the source, in their order
    refine ends_gate (fun bad => refuses _ fun approved => bad approved.repository) fun repository => ?_
    refine ends_gate (fun bad => refuses _ fun approved => bad ⟨approved.targetBranch, approved.taskBranch⟩)
      fun branches => ?_
    refine ends_gate (fun bad => refuses _ fun approved => bad ?_) fun paths => ?_
    · rw [outside_eq_nil]
      simpa [mem_keepFirst] using approved.paths
    refine ends_gate (fun bad => refuses _ fun approved => bad ?_) fun commands => ?_
    · rw [outside_eq_nil]
      simpa using approved.commands
    rw [ends_demand]
    rw [outside_eq_nil] at paths commands
    refine ⟨fun noAutoMerge => ⟨rfl, .inl ⟨rfl, task, linked, ?_⟩⟩, fun bad => refuses _ fun approved => bad approved.noAutoMerge⟩
    exact ⟨repository, branches.1, branches.2, by simpa [mem_keepFirst] using paths, by simpa using commands, noAutoMerge⟩

end Scope

section Scan

variable {runtime : Runtime} {store : Store}

theorem Store.Reads.wider {first before after last : Store} {now : Instant} (reads : before.Reads runtime after now)
    (start : first.ticks ≤ before.ticks) (rest : after.ticks ≤ last.ticks) : first.Reads runtime last now := by
  obtain ⟨tick, since, until_, same⟩ := reads
  exact ⟨tick, start.trans since, Nat.lt_of_lt_of_le until_ rest, same⟩

/-- The scan finds a lease that is live when it is looked at, or every active
lease of the approval and the agent is over when it is looked at. -/
theorem findActiveLease_ends (approvalId : String) (agentId : Option String) (leases : List CapabilityLease) :
    (findActiveLease runtime approvalId agentId leases).Ends store fun outcome after =>
      (∃ ticks, store.ticks ≤ ticks ∧ after = { store with ticks := ticks }) ∧
        ((outcome = .ok none ∧ ∀ other ∈ leases, other.Concerns approvalId agentId → other.status = .active →
            ∃ now, store.Reads runtime after now ∧ other.expiresAt ≤ now) ∨
          ∃ lease ∈ leases, outcome = .ok (some lease) ∧ lease.Concerns approvalId agentId ∧
            ∃ now, store.Reads runtime after now ∧ lease.LiveAt now) := by
  induction leases generalizing store with
  | nil => exact ⟨⟨store.ticks, Nat.le_refl _, rfl⟩, .inl ⟨rfl, by simp⟩⟩
  | cons lease rest ih =>
    simp only [findActiveLease, ends_ite, ends_bind, ends_readClock, continue_ok, ends_pure]
    -- the clock is read anew for each lease that fits
    have here : store.Reads runtime (Clocked.tick store) (runtime.clock (Clocked.ticks store)) :=
      ⟨store.ticks, Nat.le_refl _, Nat.lt_succ_self _, rfl⟩
    refine ⟨fun fits => ⟨fun live => ?_, fun past => ?_⟩, fun differs => ?_⟩
    · refine ⟨⟨store.ticks + 1, Nat.le_succ _, rfl⟩, .inr ⟨lease, List.mem_cons_self, rfl, ?_, _, here, ?_⟩⟩
      · exact ⟨fits.1, fits.2.1⟩
      · exact ⟨fits.2.2, live⟩
    · refine ih.mono fun outcome after ends => ?_
      obtain ⟨⟨ticks, onward, rfl⟩, result⟩ := ends
      have later : store.ticks ≤ (Clocked.tick store).ticks := Nat.le_succ _
      refine ⟨⟨ticks, later.trans onward, rfl⟩, ?_⟩
      rcases result with ⟨rfl, rest_over⟩ | ⟨found, member, rfl, concerns, now, read, live⟩
      · refine .inl ⟨rfl, fun other member concerns active => ?_⟩
        rcases List.mem_cons.mp member with rfl | behind
        · -- a lease passed over had ended when its turn came
          exact ⟨_, here.wider (Nat.le_refl _) onward, Nat.not_lt.mp past⟩
        · obtain ⟨now, read, ended⟩ := rest_over other behind concerns active
          exact ⟨now, read.wider later (Nat.le_refl _), ended⟩
      · exact .inr ⟨found, List.mem_cons_of_mem _ member, rfl, concerns, now, read.wider later (Nat.le_refl _), live⟩
    · refine ih.mono fun outcome after ends => ?_
      obtain ⟨moved, result⟩ := ends
      refine ⟨moved, ?_⟩
      rcases result with ⟨rfl, rest_over⟩ | ⟨found, member, rfl, concerns, now, read, live⟩
      · refine .inl ⟨rfl, fun other member concerns active => ?_⟩
        rcases List.mem_cons.mp member with rfl | behind
        · -- a lease that does not fit has another approval or agent, or is not active
          exact absurd ⟨concerns.1, concerns.2, active⟩ differs
        · exact rest_over other behind concerns active
      · exact .inr ⟨found, List.mem_cons_of_mem _ member, rfl, concerns, now, read, live⟩

end Scan

/-- How the issue of a lease ends. -/
inductive Issues (runtime : Runtime) (payload : CapabilityLeaseCreate) (store : Store) :
    Except Raised CapabilityLease → Store → Prop where
  /-- The gate is shut, and nothing happens. -/
  | refused (error : Raised) (shut : ∀ approval, ¬ store.Admits payload approval) :
      Issues runtime payload store (.error error) store
  /-- Another request got the live lease. -/
  | taken (error : Raised) (ticks : Nat) (approval : ApprovalRequest) (lease : CapabilityLease) (now : Instant)
      (onward : store.ticks ≤ ticks) (admits : store.Admits payload approval)
      (member : lease ∈ store.capabilityLeases.values) (concerns : lease.Concerns approval.id payload.agentId)
      (read : store.Reads runtime { store with ticks := ticks } now) (live : lease.LiveAt now)
      (differs : lease.scope.metadata.lookup "request_fingerprint" ≠
        some (.text (runtime.sha256Hex payload.document))) :
      Issues runtime payload store (.error error) { store with ticks := ticks }
  /-- The live lease answers the request. -/
  | returned (ticks : Nat) (approval : ApprovalRequest) (lease : CapabilityLease) (now : Instant)
      (onward : store.ticks ≤ ticks) (admits : store.Admits payload approval)
      (member : lease ∈ store.capabilityLeases.values) (concerns : lease.Concerns approval.id payload.agentId)
      (read : store.Reads runtime { store with ticks := ticks } now) (live : lease.LiveAt now)
      (same : lease.scope.metadata.lookup "request_fingerprint" =
        some (.text (runtime.sha256Hex payload.document))) :
      Issues runtime payload store (.ok lease) { store with ticks := ticks }
  /-- A new lease is stored; the event that follows may reject the correlation of the request. -/
  | granted (outcome : Except Raised CapabilityLease) (after : Store) (approval : ApprovalRequest)
      (lease : CapabilityLease) (admits : store.Admits payload approval)
      (grants : lease.Grants runtime payload approval) (fresh : lease.id ∉ store.capabilityLeases.keys)
      (sole : ∀ other ∈ store.capabilityLeases.values, other.Concerns approval.id payload.agentId →
        other.status = .active → ∃ now, store.Reads runtime after now ∧ other.expiresAt ≤ now)
      (stored : Store.SameTrust { store with
        capabilityLeases := store.capabilityLeases.set lease.id lease } after)
      (answer : outcome = .ok lease ∨ ∃ error, outcome = .error error) :
      Issues runtime payload store outcome after

section Issue

variable {runtime : Runtime} {store : Store} {payload : CapabilityLeaseCreate} {approval : ApprovalRequest}

theorem correlationIdOf_ends (metadata : List (String × Document)) :
    (correlationIdOf metadata).Ends store fun _ after => after = store := by
  unfold correlationIdOf
  split <;> rfl

theorem storeLease_ends (frozen : Text.present approval.approvedPayloadHash = true) (user : AuthUser) :
    (storeLease runtime payload approval user).Ends store fun outcome after =>
      ∃ lease, lease.Grants runtime payload approval ∧ lease.id ∉ store.capabilityLeases.keys ∧
        Store.SameTrust { store with capabilityLeases := store.capabilityLeases.set lease.id lease } after ∧
        (outcome = .ok lease ∨ ∃ error, outcome = .error error) := by
  have hashed : approval.approvedPayloadHash = some (approval.approvedPayloadHash.getD "") := by
    cases hash : approval.approvedPayloadHash with
    | none => simp [hash, Text.present] at frozen
    | some words => rfl
  simp only [storeLease, ends_bind, ends_readClock, ends_drawSecret, ends_state, ends_modify, continue_ok]
  refine (correlationIdOf_ends _).mono fun outcome middle same => ?_
  cases outcome with
  | error error =>
    subst same
    refine ⟨_, ?_, ?_, ⟨rfl, rfl, rfl, rfl, set_named CapabilityLease.id rfl, rfl, rfl, rfl, rfl, Nat.le_add_right _ 3⟩,
      .inr ⟨error, rfl⟩⟩
    · exact ⟨rfl, hashed, rfl, rfl, rfl, rfl, rfl, rfl, rfl, rfl, ⟨rfl, rfl, rfl, rfl⟩, rfl⟩
    · exact runtime.newId_fresh "lease" store.capabilityLeases.keys
  | ok correlationId =>
    subst same
    simp only [continue_ok, ends_bind, appendTrustEvent, ends_readClock, ends_modify, persist, ends_pure]
    refine ⟨_, ?_, ?_, ⟨rfl, rfl, rfl, rfl, set_named CapabilityLease.id rfl, rfl, rfl, rfl, rfl, Nat.le_add_right _ 4⟩,
      .inl rfl⟩
    · exact ⟨rfl, hashed, rfl, rfl, rfl, rfl, rfl, rfl, rfl, rfl, ⟨rfl, rfl, rfl, rfl⟩, rfl⟩
    · exact runtime.newId_fresh "lease" store.capabilityLeases.keys

/-- What the gate asks for, in the order of the checks. -/
theorem Store.admits_iff :
    store.Admits payload approval ↔ store.approvalRequests.get? payload.approvalRequestId = some approval ∧
      approval.status = .approved ∧ Text.present approval.approvedPayloadHash = true ∧
      (Text.present payload.agentId = true → payload.agentId.getD "" ∈ store.externalAgents.keys) ∧
      store.hasDenial approval.id (approval.approvedPayloadHash.getD "") = false ∧
      (∃ task, store.linkedTaskForApproval approval.id = some task ∧ payload.scope.Approved approval task) ∧
      (payload.preventSelfApproval = true → (approval.createdByUserId.all fun creator =>
        !(store.approvalReviewerIds approval (approval.approvedPayloadHash.getD "")).contains creator) = true) ∧
      payload.requiredReviewerCount ≤
        (store.approvalReviewerIds approval (approval.approvedPayloadHash.getD "")).length := by
  have undenied : ¬ store.Denies approval.id (approval.approvedPayloadHash.getD "") ↔
      store.hasDenial approval.id (approval.approvedPayloadHash.getD "") = false := by
    rw [← hasDenial_iff, Bool.not_eq_true]
  have independent : (∀ creator, approval.createdByUserId = some creator →
      ¬ store.Approves approval (approval.approvedPayloadHash.getD "") creator) ↔
      (approval.createdByUserId.all fun creator =>
        !(store.approvalReviewerIds approval (approval.approvedPayloadHash.getD "")).contains creator) = true := by
    cases approval.createdByUserId <;> simp [mem_approvalReviewerIds]
  constructor
  · intro admits
    exact ⟨admits.stored, admits.approved, admits.frozen, admits.known, undenied.mp admits.undenied, admits.covered,
      fun prevent => independent.mp (admits.independent prevent), admits.reviewed⟩
  · rintro ⟨stored, approved, frozen, known, silent, covered, apart, reviewed⟩
    exact ⟨stored, approved, frozen, known, undenied.mpr silent, covered,
      fun prevent => independent.mpr (apart prevent), reviewed⟩

theorem issueCapabilityLease_ends (payload : CapabilityLeaseCreate) (user : AuthUser) :
    (issueCapabilityLease runtime payload user).Ends store (Issues runtime payload store) := by
  refine ends_read ?_
  cases stored : store.approvalRequests.get? payload.approvalRequestId with
  | none =>
    refine .refused _ fun approval admits => ?_
    rw [admits.stored] at stored
    cases stored
  | some approval =>
    -- every refusal says that the approval does not admit the lease
    have shut : ∀ error, ¬ store.Admits payload approval → Issues runtime payload store (.error error) store := by
      refine fun error closed => .refused error fun other admits => closed ?_
      obtain rfl := Option.some.inj (stored.symm.trans admits.stored)
      exact admits
    rw [Store.admits_iff] at shut
    rw [ends_bind, ends_found_some, continue_ok]
    -- the checks of the source, in their order
    refine ends_gate (fun bad => shut _ fun admits => bad admits.2.1) fun approved => ?_
    refine ends_gate (fun bad => shut _ fun admits => bad admits.2.2.1) fun frozen => ?_
    refine ends_gate (fun bad => shut _ fun admits => bad admits.2.2.2.1) fun known => ?_
    refine ends_gate (fun bad => shut _ fun admits => bad admits.2.2.2.2.1) fun undenied => ?_
    refine Ends.bind validateScopeAgainstApproval_ends (fun _ after checked => ?_) fun error after checked => ?_
    · obtain ⟨rfl, ⟨-, covered⟩ | ⟨⟨error, impossible⟩, -⟩⟩ := checked
      · refine ends_gate (fun bad => shut _ fun admits => bad admits.2.2.2.2.2.2.1) fun independent => ?_
        refine ends_gate (fun bad => shut _ fun admits => bad admits.2.2.2.2.2.2.2) fun reviewed => ?_
        have admits : after.Admits payload approval :=
          Store.admits_iff.mpr ⟨stored, approved, frozen, known, undenied, covered, independent, reviewed⟩
        refine Ends.bind (findActiveLease_ends approval.id payload.agentId after.capabilityLeases.values)
          (fun answer scanned ends => ?_) fun error scanned ends => ?_
        · obtain ⟨⟨ticks, onward, rfl⟩, ⟨none_live, sole⟩ | ⟨lease, member, answered, concerns, now, read, live⟩⟩ := ends
          · -- no live lease was found, so a new one is granted
            obtain rfl : answer = none := by simpa using none_live
            refine (storeLease_ends frozen user).mono fun outcome last ends => ?_
            obtain ⟨lease, grants, fresh, same, answer⟩ := ends
            refine .granted outcome last approval lease admits grants fresh (fun other member concerns active => ?_)
              ⟨same.agents, same.tasks, same.approvals, same.attestations, same.leases, same.actions, same.decisions,
                same.authorizations, same.consumptions, onward.trans same.time⟩ answer
            obtain ⟨now, read, past⟩ := sole other member concerns active
            exact ⟨now, read.wider (Nat.le_refl _) same.time, past⟩
          · -- a live lease is given back if it is the same, and refused otherwise
            obtain rfl : answer = some lease := by simpa using answered
            refine ends_gate (fun differs => ?_) fun same => ?_
            · exact .taken _ ticks approval lease now onward admits member concerns read live differs
            · exact .returned ticks approval lease now onward admits member concerns read live same
        · obtain ⟨-, ⟨impossible, -⟩ | ⟨lease, -, impossible, -⟩⟩ := ends <;> cases impossible
      · cases impossible
    · obtain ⟨rfl, ⟨impossible, -⟩ | ⟨-, closed⟩⟩ := checked
      · cases impossible
      · exact shut _ fun admits => admits.2.2.2.2.2.1.elim fun task found => closed task found.1 found.2

end Issue

end ControlTower
