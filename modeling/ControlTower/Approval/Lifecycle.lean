import ControlTower.Foundation.Procedure
import ControlTower.Foundation.Table
import ControlTower.Foundation.Text
import ControlTower.Models

/-! The lifecycle of an approval: the table of its transitions, and the decision
route, which writes the status without the table. -/

set_option autoImplicit false

namespace ControlTower

open Foundation
open Foundation.Procedure

/-- The status that a legacy status stands for. -/
def canonicalStatus : ApprovalStatus → ApprovalStatus
  | .pendingReview => .requested
  | .rejected => .denied
  | .applied => .executing
  | .testsRunning => .executing
  | .testsFailed => .failed
  | .testsPassed => .merged
  | status => status

def validTransitions : ApprovalStatus → List ApprovalStatus
  | .requested => [.approved, .denied, .expired, .cancelled]
  | .approved => [.executing, .cancelled]
  | .executing => [.readyForPr, .failed]
  | .readyForPr => [.merged, .failed, .cancelled]
  | .failed => [.approved, .cancelled]
  | .denied | .expired | .merged | .cancelled => []
  | .blocked => [.cancelled]
  | .revisionRequested => [.requested, .cancelled]
  | .pendingReview => [.approved, .denied, .expired, .cancelled]
  | .rejected => []
  | .applied => [.readyForPr, .failed]
  | .testsRunning => [.readyForPr, .failed]
  | .testsPassed => [.merged]
  | .testsFailed => [.approved, .cancelled]

def canTransition (previous new : ApprovalStatus) : Bool :=
  (validTransitions (canonicalStatus previous)).contains (canonicalStatus new)

structure ApprovalStore where
  ticks : Nat
  approvalRequests : Table String ApprovalRequest

instance : Clocked ApprovalStore where
  ticks := ApprovalStore.ticks
  tick store := { store with ticks := store.ticks + 1 }

abbrev ApprovalProcedure := Procedure ApprovalStore Raised

structure DecisionCreate where
  decision : String
  reason : String

/-- What a decision word asks for. -/
inductive Decision where
  | approve | deny | revise
  deriving DecidableEq

def DecisionCreate.verdict (runtime : Runtime) (payload : DecisionCreate) : Option Decision :=
  let decision := Text.strip (runtime.lower payload.decision)
  if decision = "approve" then some .approve
  else if decision ∈ ["reject", "deny", "denied"] then some .deny
  else if decision ∈ ["revise", "request_revision", "revision"] then some .revise
  else none

namespace ApprovalRequest

/-- The approver's mark: the digest of the present payload, the time and the user. -/
def approvedBy (runtime : Runtime) (approval : ApprovalRequest) (user : AuthUser) (approvedAt : Instant) : ApprovalRequest :=
  { approval with
    approvedPayloadHash := some (computeApprovalPayloadHash runtime approval)
    approvedAt := some approvedAt
    approvedByUserId := some user.id
    status := .approved }

end ApprovalRequest

/-- The branch of the decision word. -/
def applyDecision (runtime : Runtime) (request : ApprovalRequest) (user : AuthUser) :
    Option Decision → ApprovalProcedure ApprovalRequest
  | some .approve => do
      demand (request.risk.requiredActions = [])
        (.http 409 (runtime.render (.object [
          ("message", .text "Request cannot be approved until required actions are satisfied."),
          ("required_actions", .ofTexts request.risk.requiredActions)])))
      let approvedAt ← readClock runtime
      return request.approvedBy runtime user approvedAt
  | some .deny => pure { request with status := .denied }
  | some .revise => pure { request with status := .revisionRequested }
  | none => .raise (.http 400 "Decision must be approve, deny, reject, or revise")

/-- `POST /approvals/{id}/decision`. -/
def decideApproval (runtime : Runtime) (approvalId : String) (payload : DecisionCreate) (user : AuthUser) :
    ApprovalProcedure ApprovalRequest := do
  let store ← Procedure.state
  let request ← found (store.approvalRequests.get? approvalId) (.http 404 "Approval request not found")
  demand (request.status ≠ .blocked) (.http 409 "Blocked requests cannot be approved from mobile")
  let decided ← applyDecision runtime request user (payload.verdict runtime)
  let updatedAt ← readClock runtime
  let changed := { decided with updatedAt }
  .modify fun store => { store with approvalRequests := store.approvalRequests.set approvalId changed }
  return changed

/-- A change of one approval that the table allows: the status moves along it, and
the approver's mark changes only with a move to APPROVED. -/
structure LawfulChange (before after : ApprovalRequest) : Prop where
  status : after.status = before.status ∨ canTransition before.status after.status = true
  mark : (after.approvedPayloadHash = before.approvedPayloadHash ∧ after.approvedAt = before.approvedAt ∧
      after.approvedByUserId = before.approvedByUserId) ∨
    (after.status = .approved ∧ canTransition before.status .approved = true)

def absorbingStatuses : List ApprovalStatus := [.denied, .expired, .cancelled, .merged]

/-- The statuses in which a decision follows the table. A revision follows it nowhere,
so it must find the approval in revision already. -/
def Decision.openStatuses : Decision → List ApprovalStatus
  | .approve => [.requested, .pendingReview, .failed, .testsFailed]
  | .deny => [.requested, .pendingReview, .denied]
  | .revise => [.revisionRequested]

/-- A decision that comes to a write finds its approval in one of these statuses. -/
def OrderlyDecision (runtime : Runtime) (store : ApprovalStore) (approvalId : String) (payload : DecisionCreate) : Prop :=
  ∀ request decision, store.approvalRequests.get? approvalId = some request → payload.verdict runtime = some decision →
    request.status = .blocked ∨ (decision = .approve ∧ request.risk.requiredActions ≠ []) ∨
      request.status ∈ decision.openStatuses

theorem LawfulChange.refl (approval : ApprovalRequest) : LawfulChange approval approval :=
  ⟨.inl rfl, .inl ⟨rfl, rfl, rfl⟩⟩

theorem LawfulChange.of_status {before after : ApprovalRequest} (status : canTransition before.status after.status = true)
    (mark : after.approvedPayloadHash = before.approvedPayloadHash ∧ after.approvedAt = before.approvedAt ∧
      after.approvedByUserId = before.approvedByUserId) : LawfulChange before after :=
  ⟨.inr status, .inl mark⟩

/-- No transition leaves an absorbing status. -/
theorem canTransition_absorbing {status : ApprovalStatus} (absorbing : status ∈ absorbingStatuses) (new : ApprovalStatus) :
    canTransition status new = false := by
  simp only [absorbingStatuses, List.mem_cons, List.not_mem_nil, or_false] at absorbing
  rcases absorbing with rfl | rfl | rfl | rfl <;> rfl

/-- A lawful change of an approval in an absorbing status leaves status and mark. -/
theorem LawfulChange.absorbed {before after : ApprovalRequest} (lawful : LawfulChange before after)
    (absorbing : before.status ∈ absorbingStatuses) :
    after.status = before.status ∧ after.approvedPayloadHash = before.approvedPayloadHash ∧
      after.approvedAt = before.approvedAt ∧ after.approvedByUserId = before.approvedByUserId := by
  constructor
  · rcases lawful.status with same | moves
    · exact same
    · rw [canTransition_absorbing absorbing] at moves
      cases moves
  · rcases lawful.mark with same | ⟨-, moves⟩
    · exact same
    · rw [canTransition_absorbing absorbing] at moves
      cases moves

/-- The status that a decision writes. -/
def Decision.status : Decision → ApprovalStatus
  | .approve => .approved
  | .deny => .denied
  | .revise => .revisionRequested

/-- Outside the open statuses a decision that is written leaves the table, or it
approves what is approved. -/
theorem Decision.open_iff (decision : Decision) (status : ApprovalStatus) :
    status ∈ decision.openStatuses ↔
      canTransition status decision.status = true ∨ (status = decision.status ∧ decision ≠ .approve) := by
  cases decision <;> cases status <;> decide

theorem Decision.executing_closed (decision : Decision) : .executing ∉ decision.openStatuses := by
  cases decision <;> decide

section Deciding

variable {runtime : Runtime} {store : ApprovalStore} {approvalId : String} {payload : DecisionCreate} {user : AuthUser}

/-- What a decision makes of an approval. -/
def DecidedAs (decision : Decision) (before after : ApprovalRequest) : Prop :=
  after.status = decision.status ∧ (decision = .approve → before.risk.requiredActions = []) ∧
    (decision ≠ .approve → after.approvedPayloadHash = before.approvedPayloadHash ∧
      after.approvedAt = before.approvedAt ∧ after.approvedByUserId = before.approvedByUserId)

theorem DecidedAs.lawful {decision : Decision} {before after : ApprovalRequest} (decided : DecidedAs decision before after)
    (opened : before.status ∈ decision.openStatuses) : LawfulChange before after := by
  obtain ⟨written, -, marked⟩ := decided
  rw [decision.open_iff] at opened
  constructor
  · rw [written]
    rcases opened with moves | ⟨same, -⟩
    · exact .inr moves
    · exact .inl same.symm
  · by_cases approves : decision = .approve
    · subst approves
      rcases opened with moves | ⟨-, other⟩
      · exact .inr ⟨written, moves⟩
      · exact absurd rfl other
    · exact .inl (marked approves)

theorem applyDecision_ends (request : ApprovalRequest) (verdict : Option Decision) :
    (applyDecision runtime request user verdict).Ends store fun outcome after =>
      after.approvalRequests = store.approvalRequests ∧
        ∀ decided, outcome = .ok decided → ∃ decision, verdict = some decision ∧ DecidedAs decision request decided := by
  unfold applyDecision
  cases verdict with
  | none =>
    refine ⟨rfl, ?_⟩
    rintro decided impossible
    cases impossible
  | some decision =>
    cases decision with
    | approve =>
      dsimp only
      apply ends_gate
      · intro _
        refine ⟨rfl, ?_⟩
        rintro decided impossible
        cases impossible
      · intro satisfied
        -- no actions are required, so the approval seals the payload
        simp only [ends_bind, ends_readClock, continue_ok, ends_pure]
        refine ⟨rfl, ?_⟩
        rintro decided ⟨⟩
        exact ⟨.approve, rfl, rfl, fun _ => satisfied, fun other => absurd rfl other⟩
    | deny =>
      refine ⟨rfl, ?_⟩
      rintro decided ⟨⟩
      refine ⟨.deny, rfl, rfl, ?_, fun _ => ⟨rfl, rfl, rfl⟩⟩
      intro approves
      cases approves
    | revise =>
      refine ⟨rfl, ?_⟩
      rintro decided ⟨⟩
      refine ⟨.revise, rfl, rfl, ?_, fun _ => ⟨rfl, rfl, rfl⟩⟩
      intro approves
      cases approves

/-- A decision is refused, or it replaces the approval by the decided one. -/
theorem decideApproval_ends :
    (decideApproval runtime approvalId payload user).Ends store fun _ after =>
      after.approvalRequests = store.approvalRequests ∨
        ∃ request decision changed, store.approvalRequests.get? approvalId = some request ∧
          payload.verdict runtime = some decision ∧ request.status ≠ .blocked ∧ DecidedAs decision request changed ∧
          after.approvalRequests = store.approvalRequests.set approvalId changed := by
  unfold decideApproval
  apply ends_read
  apply ends_lookup
  · exact .inl rfl
  intro request found
  apply ends_guard
  · exact .inl rfl
  intro notBlocked
  apply Ends.bind (applyDecision_ends request (payload.verdict runtime))
  · rintro decided middle ⟨same, decides⟩
    obtain ⟨decision, verdict, made⟩ := decides decided rfl
    simp only [ends_bind, ends_readClock, continue_ok, ends_modify, ends_pure]
    refine .inr ⟨request, decision, { decided with updatedAt := runtime.clock (Clocked.ticks middle) }, found, verdict,
      notBlocked, made, ?_⟩
    rw [show (Clocked.tick middle).approvalRequests = store.approvalRequests from same]
  · rintro error middle ⟨same, -⟩
    exact .inl same

/-- An orderly decision changes every approval lawfully, and no executing one at all. -/
theorem decideApproval_lawful (user : AuthUser) (orderly : OrderlyDecision runtime store approvalId payload) :
    (decideApproval runtime approvalId payload user).Ends store fun _ after =>
      ∀ other before, store.approvalRequests.get? other = some before →
        ∃ approval, after.approvalRequests.get? other = some approval ∧ LawfulChange before approval ∧
          (before.status = .executing → approval = before) := by
  refine Ends.mono decideApproval_ends ?_
  rintro _ after (same | ⟨request, decision, changed, found, verdict, notBlocked, decided, written⟩) other before present
  · exact ⟨before, by rw [same]; exact present, .refl before, fun _ => rfl⟩
  · by_cases here : other = approvalId
    · subst here
      have same := Option.some.inj (found.symm.trans present)
      subst same
      have opened : request.status ∈ decision.openStatuses := by
        rcases orderly request decision found verdict with blocked | ⟨approves, required⟩ | opened
        · exact absurd blocked notBlocked
        · exact absurd (decided.2.1 approves) required
        · exact opened
      refine ⟨changed, by rw [written, Table.get?_set_self], decided.lawful opened, ?_⟩
      intro executing
      rw [executing] at opened
      exact absurd opened decision.executing_closed
    · exact ⟨before, by rw [written, Table.get?_set_other _ _ here]; exact present, .refl before, fun _ => rfl⟩

end Deciding

end ControlTower
