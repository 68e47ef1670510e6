import ControlTower.Approval.Runner
import ControlTower.Foundation.Machine

/-! Approvals under decisions and executions. A decision is one step; an
execution is one step for each answer that it waits for. -/

set_option autoImplicit false

namespace ControlTower

open Foundation
open Foundation.Procedure

/-- An execution that waits for an answer of the GitHub API. -/
structure Execution where
  payload : ExecuteGitHubRequest
  approvalId : String
  rest : GitHubProgram (Option Document × List String × Document)

structure ApprovalSystem where
  store : ApprovalStore
  executions : List Execution

inductive ApprovalStep where
  | decide (approvalId : String) (payload : DecisionCreate) (user : AuthUser)
  | execute (payload : ExecuteGitHubRequest)
  /-- An answer or a failure for one of the executions. -/
  | answer (index : Nat) (reply : Except GitHubFailure Document)

/-- The calls that are answered at once: the approval is read where it is stored. -/
def ApprovalStore.reads (store : ApprovalStore) (approvalRequestId : String) : (call : GitHubCall) → Option call.Answer
  | .approval => store.approvalRequests.get? approvalRequestId
  | .send _ => none

/-- The answer of the GitHub API to the request that is waited for. -/
def gitHubAnswers (reply : Except GitHubFailure Document) : (call : GitHubCall) → Option call.Answer
  | .approval => none
  | .send _ => some reply

/-- What is left of an execution after an answer. -/
def Execution.after (execution : Execution) (store : ApprovalStore) (reply : Except GitHubFailure Document) :
    GitHubProgram (Option Document × List String × Document) :=
  (execution.rest.answered (gitHubAnswers reply)).advance (store.reads execution.payload.approvalRequestId)

namespace ApprovalSystem

variable (runtime : Runtime) (system : ApprovalSystem)

def executed (payload : ExecuteGitHubRequest) : ApprovalSystem :=
  let outcome := (beginGitHubExecution runtime payload).run system.store
  match outcome.1 with
  | .ok approvalId =>
      { store := outcome.2, executions := system.executions ++ [⟨payload, approvalId, executionCalls payload⟩] }
  | .error _ => { system with store := outcome.2 }

def answered (index : Nat) (reply : Except GitHubFailure Document) : ApprovalSystem :=
  match system.executions[index]? with
  | none => system
  | some execution =>
      let rest := execution.after system.store reply
      match rest.outcome with
      | none => { system with executions := system.executions.set index { execution with rest } }
      | some result =>
          { store := ((endGitHubExecution runtime execution.payload execution.approvalId result).run system.store).2
            executions := system.executions.eraseIdx index }

def next : ApprovalStep → ApprovalSystem
  | .decide approvalId payload user =>
      { system with store := ((decideApproval runtime approvalId payload user).run system.store).2 }
  | .execute payload => system.executed runtime payload
  | .answer index reply => system.answered runtime index reply

/-- Any approvals, and no execution under way. -/
def machine : Machine ApprovalSystem ApprovalStep where
  initial system := system.executions = []
  next system step := system.next runtime step

/-- Every decision that comes to a write meets an approval that is open to it. -/
def Orderly : ApprovalStep → Prop
  | .decide approvalId payload _ => OrderlyDecision runtime system.store approvalId payload
  | _ => True

/-- Each execution under way is the only one of its approval, and the approval is EXECUTING. -/
structure Attended (system : ApprovalSystem) : Prop where
  single : (system.executions.map (·.payload.approvalRequestId)).Nodup
  executing : ∀ execution ∈ system.executions, ∃ approval,
    system.store.approvalRequests.get? execution.payload.approvalRequestId = some approval ∧ approval.status = .executing

/-- What a step may do to the approvals. -/
def Lawful (before after : ApprovalSystem) : Prop :=
  ∀ approvalId approval, before.store.approvalRequests.get? approvalId = some approval →
    ∃ changed, after.store.approvalRequests.get? approvalId = some changed ∧ LawfulChange approval changed

variable {runtime system}

theorem Lawful.refl : Lawful system system := fun _ approval present => ⟨approval, present, .refl approval⟩

theorem decide_step (attended : system.Attended) {approvalId : String} {payload : DecisionCreate} {user : AuthUser}
    (orderly : OrderlyDecision runtime system.store approvalId payload) :
    (system.next runtime (.decide approvalId payload user)).Attended ∧
      Lawful system (system.next runtime (.decide approvalId payload user)) := by
  have changes := decideApproval_lawful user orderly
  constructor
  · refine ⟨attended.single, ?_⟩
    intro execution member
    obtain ⟨approval, present, executing⟩ := attended.executing execution member
    obtain ⟨same, stored, -, unchanged⟩ := changes _ approval present
    refine ⟨same, stored, ?_⟩
    rw [unchanged executing]
    exact executing
  · intro other approval present
    obtain ⟨changed, stored, lawful, -⟩ := changes other approval present
    exact ⟨changed, stored, lawful⟩

/-- A write of one status, as a change that the table allows. -/
theorem StatusWritten.lawful {approvalId : String} {status : ApprovalStatus} {after : ApprovalSystem}
    (written : StatusWritten approvalId status system.store after.store) {approval : ApprovalRequest}
    (present : system.store.approvalRequests.get? approvalId = some approval)
    (moves : canTransition approval.status status = true) : Lawful system after := by
  intro other before stored
  by_cases here : other = approvalId
  · subst here
    have same := Option.some.inj (stored.symm.trans present)
    subst same
    obtain ⟨updatedAt, changed⟩ := written.here present
    exact ⟨_, changed, .of_status moves ⟨rfl, rfl, rfl⟩⟩
  · exact ⟨before, (written.elsewhere here).trans stored, .refl before⟩

theorem execute_step (attended : system.Attended) (payload : ExecuteGitHubRequest) :
    (system.executed runtime payload).Attended ∧ Lawful system (system.executed runtime payload) := by
  have begins : (beginGitHubExecution runtime payload).Ends system.store _ := beginGitHubExecution_ends payload
  unfold executed
  rcases ran : (beginGitHubExecution runtime payload).run system.store with ⟨outcome, after⟩
  rcases begins.of_run ran with ⟨same, error, rfl⟩ | ⟨approval, present, ready, rfl, written⟩
  · dsimp only
    constructor
    · refine ⟨attended.single, ?_⟩
      intro execution member
      rw [same]
      exact attended.executing execution member
    · intro approvalId approval present
      exact ⟨approval, by rw [same]; exact present, .refl approval⟩
  · dsimp only
    -- an approval that is APPROVED has no execution under way
    have absent : ∀ execution ∈ system.executions,
        execution.payload.approvalRequestId ≠ payload.approvalRequestId := by
      intro execution member same
      obtain ⟨other, stored, executing⟩ := attended.executing execution member
      rw [same, present] at stored
      cases stored
      rw [ready.approved] at executing
      cases executing
    constructor
    · constructor
      · rw [List.map_append]
        refine List.nodup_append.mpr ⟨attended.single, List.nodup_singleton _, ?_⟩
        intro left member right single same
        obtain ⟨execution, listed, rfl⟩ := List.mem_map.mp member
        rw [List.map_singleton, List.mem_singleton] at single
        exact absent execution listed (same.trans single)
      · intro execution member
        rcases List.mem_append.mp member with earlier | fresh
        · obtain ⟨other, stored, executing⟩ := attended.executing execution earlier
          exact ⟨other, (written.elsewhere (absent execution earlier)).trans stored, executing⟩
        · rw [List.mem_singleton] at fresh
          subst fresh
          obtain ⟨updatedAt, stored⟩ := written.here present
          exact ⟨_, stored, rfl⟩
    · apply StatusWritten.lawful written present
      rw [ready.approved]
      decide

/-- A status after which an execution is over. -/
theorem final_transition {final : ApprovalStatus} (listed : final ∈ [ApprovalStatus.readyForPr, .failed]) :
    canTransition .executing final = true := by
  simp only [List.mem_cons, List.not_mem_nil, or_false] at listed
  rcases listed with rfl | rfl <;> decide

theorem answer_step (attended : system.Attended) (index : Nat) (reply : Except GitHubFailure Document) :
    (system.answered runtime index reply).Attended ∧ Lawful system (system.answered runtime index reply) := by
  unfold answered
  cases waiting : system.executions[index]? with
  | none => exact ⟨attended, .refl⟩
  | some execution =>
    dsimp only
    cases finished : (execution.after system.store reply).outcome with
    | none =>
      -- the execution goes on under the same request
      dsimp only
      refine ⟨⟨?_, ?_⟩, .refl⟩
      · have same : (system.executions.set index { execution with rest := execution.after system.store reply }).map
            (·.payload.approvalRequestId) = system.executions.map (·.payload.approvalRequestId) :=
          map_set_same waiting rfl
        rw [same]
        exact attended.single
      · intro other member
        rcases List.mem_or_eq_of_mem_set member with earlier | rfl
        · exact attended.executing other earlier
        · exact attended.executing execution (List.mem_of_getElem? waiting)
    | some result =>
      dsimp only
      have ends : (endGitHubExecution runtime execution.payload execution.approvalId result).Ends system.store _ :=
        endGitHubExecution_ends execution.payload result
      obtain ⟨final, listed, written⟩ := ends
      obtain ⟨approval, present, executing⟩ := attended.executing execution (List.mem_of_getElem? waiting)
      constructor
      · constructor
        · exact attended.single.sublist ((List.eraseIdx_sublist _ _).map _)
        · intro other left
          obtain ⟨held, stored, status⟩ := attended.executing other (List.mem_of_mem_eraseIdx left)
          have elsewhere := ne_of_mem_eraseIdx attended.single waiting left
          exact ⟨held, (written.elsewhere elsewhere).trans stored, status⟩
      · apply StatusWritten.lawful written present
        rw [executing]
        exact final_transition listed

/-- What every orderly step keeps and does. -/
theorem orderly_step (attended : system.Attended) (step : ApprovalStep) (orderly : system.Orderly runtime step) :
    (system.next runtime step).Attended ∧ Lawful system (system.next runtime step) := by
  cases step with
  | decide approvalId payload user => exact decide_step attended orderly
  | execute payload => exact execute_step attended payload
  | answer index reply => exact answer_step attended index reply

theorem reachable_attended (reachable : (machine runtime).Reachable (Orderly runtime) system) : system.Attended := by
  apply reachable.invariant
  · intro first idle
    constructor
    · rw [show first.executions = [] from idle]
      exact List.nodup_nil
    · intro execution member
      rw [show first.executions = [] from idle] at member
      cases member
  · intro state step attended orderly
    exact (orderly_step attended step orderly).1

/-- The approvals of a status that absorbs, with their marks. -/
def Absorbs (before after : ApprovalSystem) : Prop :=
  ∀ approvalId approval, before.store.approvalRequests.get? approvalId = some approval →
    approval.status ∈ absorbingStatuses → ∃ changed, after.store.approvalRequests.get? approvalId = some changed ∧
      changed.status = approval.status ∧ changed.approvedPayloadHash = approval.approvedPayloadHash ∧
      changed.approvedAt = approval.approvedAt ∧ changed.approvedByUserId = approval.approvedByUserId

theorem Absorbs.step {first last : ApprovalSystem} (absorbs : Absorbs system first) (lawful : Lawful first last) :
    Absorbs system last := by
  intro approvalId approval present absorbing
  obtain ⟨middle, stored, status, hash, time, user⟩ := absorbs approvalId approval present absorbing
  obtain ⟨changed, found, change⟩ := lawful approvalId middle stored
  obtain ⟨sameStatus, sameHash, sameTime, sameUser⟩ := change.absorbed (status ▸ absorbing)
  exact ⟨changed, found, sameStatus.trans status, sameHash.trans hash, sameTime.trans time, sameUser.trans user⟩

end ApprovalSystem

/-- As long as decisions meet approvals that are open to them, every change follows
the table, the absorbing statuses stay, and marks change only with a lawful approval. -/
theorem approval_lifecycle_respected (runtime : Runtime) (system : ApprovalSystem)
    (reachable : (ApprovalSystem.machine runtime).Reachable (ApprovalSystem.Orderly runtime) system) :
    (∀ step, system.Orderly runtime step → ApprovalSystem.Lawful system (system.next runtime step)) ∧
      ∀ last, (ApprovalSystem.machine runtime).Follows (ApprovalSystem.Orderly runtime) system last →
        ApprovalSystem.Absorbs system last := by
  constructor
  · intro step orderly
    exact (ApprovalSystem.orderly_step (ApprovalSystem.reachable_attended reachable) step orderly).2
  · intro last follows
    have both : last.Attended ∧ ApprovalSystem.Absorbs system last := by
      apply follows.keeps
      · refine ⟨ApprovalSystem.reachable_attended reachable, ?_⟩
        intro approvalId approval present _
        exact ⟨approval, present, rfl, rfl, rfl, rfl⟩
      · rintro state step ⟨attended, absorbs⟩ orderly
        obtain ⟨kept, lawful⟩ := ApprovalSystem.orderly_step attended step orderly
        exact ⟨kept, absorbs.step lawful⟩
    exact both.2

section Sample

def requestedFix : ApprovalRequest where
  id := "approval_1"
  projectId := "project_1"
  workOrderId := none
  title := "Fix the parser"
  summary := "One line."
  agentName := "manual-agent"
  targetBranch := "fix/parser"
  files := [⟨"app/parser.py", "update", "+x = 1", some "x = 1"⟩]
  testPlan := []
  rollbackPlan := ""
  status := .requested
  risk := ⟨.low, [], false, []⟩
  sourceProvider := .manual
  sourceAgentId := none
  sourceAgentName := none
  sourceSessionId := none
  sourceTaskUrl := none
  createdByUserId := none
  approvedPayloadHash := none
  approvedAt := none
  approvedByUserId := none
  createdAt := 0
  updatedAt := 0

def undecided : ApprovalSystem := ⟨⟨0, Table.empty.set "approval_1" requestedFix⟩, []⟩

def reviewer : AuthUser := ⟨"reviewer", "reviewer@example.com", .reviewer⟩

def parserExecution : ExecuteGitHubRequest where
  approvalRequestId := "approval_1"
  repositoryFullName := "example/app"
  baseBranch := "main"
  featureBranch := "fix/parser"
  commitMessage := "Apply approved Aixion Control Tower change"
  prTitle := none
  prBody := none
  runTests := false

/-- Approved and sent to the runner, which waits for the base branch. -/
def underExecution : ApprovalSystem :=
  (ApprovalSystem.machine (.plain false)).runAll undecided
    [.decide "approval_1" ⟨"approve", ""⟩ reviewer, .execute parserExecution]

theorem approval_lifecycle_respected_sample :
    ApprovalSystem.Lawful underExecution
        (underExecution.next (.plain false) (.answer 0 (.error (.http 500 "unavailable")))) ∧
      (underExecution.store.approvalRequests.get? "approval_1").map (·.status) = some .executing ∧
      underExecution.executions.length = 1 := by
  refine ⟨(approval_lifecycle_respected (.plain false) underExecution ?_).1 _ trivial, by decide +kernel, by decide +kernel⟩
  refine ⟨undecided, rfl, Machine.follows_runAll _ _ ⟨?_, trivial, trivial⟩⟩
  intro request decision found verdict
  have approves : (⟨"approve", ""⟩ : DecisionCreate).verdict (.plain false) = some .approve := by decide +kernel
  have same := Option.some.inj (approves.symm.trans verdict)
  subst same
  have stored : undecided.store.approvalRequests.get? "approval_1" = some requestedFix := by decide +kernel
  have held := Option.some.inj (stored.symm.trans found)
  subst held
  exact .inr (.inr (by decide))

/-- Denied, and nothing under way. -/
def deniedFix : ApprovalSystem :=
  (ApprovalSystem.machine (.plain false)).runAll undecided [.decide "approval_1" ⟨"deny", ""⟩ reviewer]

theorem denied_approval_approved : ¬ ∀ (runtime : Runtime) (system : ApprovalSystem),
    (ApprovalSystem.machine runtime).Reachable Machine.anything system →
      ∀ step, ApprovalSystem.Lawful system (system.next runtime step) := by
  intro claim
  have lawful := claim (.plain false) deniedFix ⟨undecided, rfl, Machine.follows_anything _ _⟩
    (.decide "approval_1" ⟨"approve", ""⟩ reviewer)
  have before : (deniedFix.store.approvalRequests.get? "approval_1").map (·.status) = some .denied := by decide +kernel
  have after : ((deniedFix.next (.plain false) (.decide "approval_1" ⟨"approve", ""⟩ reviewer)).store.approvalRequests.get?
      "approval_1").map (·.status) = some .approved := by decide +kernel
  obtain ⟨approval, present, denied⟩ := Option.map_eq_some_iff.mp before
  obtain ⟨changed, stored, change⟩ := lawful "approval_1" approval present
  rw [stored, Option.map_some] at after
  have absorbed := (change.absorbed (by rw [denied]; decide)).1
  rw [denied, Option.some.inj after] at absorbed
  cases absorbed

end Sample

end ControlTower
