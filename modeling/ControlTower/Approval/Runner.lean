import ControlTower.Approval.Lifecycle
import ControlTower.Foundation.Dialogue

/-! The GitHub runner. It checks an execute request against its approval, marks
the approval EXECUTING, and then calls the GitHub API one request after another;
while it waits for an answer the other routes go on. -/

set_option autoImplicit false

namespace ControlTower

open Foundation
open Foundation.Procedure

def runnerProtectedBranches : List String := ["main", "master", "production", "release"]

structure PatchPlanRequest where
  approvalRequestId : String
  repositoryFullName : String
  baseBranch : String
  featureBranch : String
  deriving DecidableEq

structure PatchPlanResponse where
  ready : Bool
  approvalRequestId : String
  repositoryFullName : String
  baseBranch : String
  featureBranch : String
  files : List String
  blockers : List String
  nextSteps : List String
  deriving DecidableEq

structure ExecuteGitHubRequest extends PatchPlanRequest where
  commitMessage : String
  prTitle : Option String
  prBody : Option String
  runTests : Bool
  deriving DecidableEq

structure ExecuteGitHubResponse where
  approvalRequestId : String
  repositoryFullName : String
  branch : String
  commitSha : Document
  pullRequestUrl : Document
  changedFiles : List String
  testStatus : String
  deriving DecidableEq

/-- One line of a list of blockers. -/
def blocker (condition : Prop) [Decidable condition] (text : String) : List String :=
  if condition then [text] else []

def FileChange.lacksContent (file : FileChange) : Prop := Text.present file.newContent = false

instance (file : FileChange) : Decidable file.lacksContent := inferInstanceAs (Decidable (_ = _))

/-- The blockers of `_validate_execution`, in their order. -/
def executionBlockers (runtime : Runtime) (approval : ApprovalRequest) (payload : PatchPlanRequest) : List String :=
  blocker (approval.status ≠ .approved) "Approval request must be APPROVED before GitHub execution." ++
  blocker (approval.risk.blocked = true) "Blocked approval requests cannot be sent to GitHub runner." ++
  (if Text.present approval.approvedPayloadHash = false then
    ["Approval request is missing approved payload hash; re-approval is required."]
  else
    blocker (some (computeApprovalPayloadHash runtime approval) ≠ approval.approvedPayloadHash)
      "Approval payload changed after approval; re-approval is required before execution.") ++
  blocker (runtime.lower payload.baseBranch ∈ runnerProtectedBranches ∧ payload.featureBranch = "")
    "A feature branch is required; direct protected branch patching is not allowed." ++
  blocker (runtime.lower payload.featureBranch ∈ runnerProtectedBranches) "Feature branch cannot be a protected branch." ++
  blocker (payload.featureBranch = payload.baseBranch) "Feature branch must be different from base branch." ++
  blocker (approval.files = []) "Approval request has no file changes." ++
  blocker (∃ file ∈ approval.files, file.lacksContent)
    "Every file change must include new_content for deterministic GitHub execution."

/-- `_validate_execution` past the search for the approval. -/
def planFor (runtime : Runtime) (approval : ApprovalRequest) (payload : PatchPlanRequest) : PatchPlanResponse where
  ready := (executionBlockers runtime approval payload).isEmpty
  approvalRequestId := approval.id
  repositoryFullName := payload.repositoryFullName
  baseBranch := payload.baseBranch
  featureBranch := payload.featureBranch
  files := approval.files.map (·.path)
  blockers := executionBlockers runtime approval payload
  nextSteps := [
    "Create feature branch from base branch.",
    "Apply approved full-file content only to listed files.",
    "Commit with approval id in message.",
    "Optionally record test command status back to /test-runs.",
    "Open pull request; never auto-merge in MVP."]

def validateExecution (runtime : Runtime) (payload : PatchPlanRequest) :
    ApprovalProcedure (ApprovalRequest × PatchPlanResponse) := do
  let store ← Procedure.state
  let approval ← found (store.approvalRequests.get? payload.approvalRequestId)
    (.http 404 "Approval request not found")
  return (approval, planFor runtime approval payload)

/-- What `_github` raises: an HTTP error of the API or of a missing token, or any other exception. -/
inductive GitHubFailure where
  | http (statusCode : Nat) (detail : String)
  | exception
  deriving DecidableEq

/-- The requests of the runner, with the fields of their paths and bodies. -/
inductive GitHubRequest where
  | getRef (repo branch : String)
  | createRef (repo ref : String) (sha : Document)
  | getContents (repo path ref : String)
  | putContents (repo path message content branch : String) (sha : Option Document)
  | createPull (repo title body head base : String)

/-- The runner reads the approval, which is shared, or it sends a request. -/
inductive GitHubCall where
  | approval
  | send (request : GitHubRequest)

def GitHubCall.Answer : GitHubCall → Type
  | .approval => ApprovalRequest
  | .send _ => Except GitHubFailure Document

abbrev GitHubProgram := Dialogue GitHubCall.Answer GitHubFailure

namespace GitHubProgram

def approval : GitHubProgram ApprovalRequest := .ask .approval .done

/-- The answer to a request, or its failure. -/
def attempt (request : GitHubRequest) : GitHubProgram (Except GitHubFailure Document) := .ask (.send request) .done

def ofExcept {α : Type} : Except GitHubFailure α → GitHubProgram α
  | .ok value => .done value
  | .error failure => .raise failure

def github (request : GitHubRequest) : GitHubProgram Document := do
  ofExcept (← attempt request)

/-- `try … except HTTPException` that lets only a 404 pass. -/
def unlessMissing : Except GitHubFailure Document → GitHubProgram (Option Document)
  | .ok value => .done (some value)
  | .error (.http 404 _) => .done none
  | .error failure => .raise failure

/-- `value[name]`. -/
def item (name : String) (value : Document) : GitHubProgram Document :=
  match value.field name with
  | some member => .done member
  | none => .raise .exception

/-- `value.get(name)`, with null for an absent member; another value than an object has no `get`. -/
def getItem (name : String) : Document → GitHubProgram Document
  | .object fields => .done ((fields.lookup name).getD .null)
  | _ => .raise .exception

end GitHubProgram

open GitHubProgram

/-- The PUT request for one file. -/
def putRequest (payload : ExecuteGitHubRequest) (approvalId : String) (file : FileChange) (existingSha : Document) :
    GitHubRequest :=
  .putContents payload.repositoryFullName file.path (payload.commitMessage ++ "\n\nApproval: " ++ approvalId)
    (file.newContent.getD "") payload.featureBranch
    (if existingSha.truthy = true then some existingSha else none)

/-- `existing.get("sha")`, where there is a file. -/
def existingSha : Option Document → GitHubProgram Document
  | some existing => getItem "sha" existing
  | none => .done .null

/-- One round of the loop over the files. -/
def applyFile (payload : ExecuteGitHubRequest) (approvalId : String) (file : FileChange) : GitHubProgram Document := do
  let contents ← attempt (.getContents payload.repositoryFullName file.path payload.featureBranch)
  let existing ← unlessMissing contents
  let sha ← existingSha existing
  github (putRequest payload approvalId file sha)

/-- The loop, with the last commit response and the changed files so far. -/
def applyFiles (payload : ExecuteGitHubRequest) (approvalId : String) :
    List FileChange → Option Document → List String → GitHubProgram (Option Document × List String)
  | [], commit, changed => .done (commit, changed)
  | file :: rest, _, changed => do
      let commit ← applyFile payload approvalId file
      applyFiles payload approvalId rest (some commit) (changed ++ [file.path])

/-- Create the feature branch where the search for it found none. -/
def createMissingBranch (payload : ExecuteGitHubRequest) (baseSha : Document) : Option Document → GitHubProgram Unit
  | some _ => .done ()
  | none => do
      let _ ← github (.createRef payload.repositoryFullName ("refs/heads/" ++ payload.featureBranch) baseSha)

def orDefault (value : Option String) (default : String) : String :=
  if Text.present value = true then value.getD "" else default

def pullTitle (payload : ExecuteGitHubRequest) (approval : ApprovalRequest) : String :=
  orDefault payload.prTitle approval.title

def pullBody (payload : ExecuteGitHubRequest) (approval : ApprovalRequest) : String :=
  orDefault payload.prBody
    ("Aixion approved change.\n\nApproval: `" ++ approval.id ++ "`\nApproved Payload: `" ++
      approval.approvedPayloadHash.getD "None" ++ "`\nRisk: `" ++ approval.risk.level.value ++
      "`\n\nNo auto-merge. Review required.")

/-- The calls of one execution: the last commit response, the changed files and the pull request. -/
def executionCalls (payload : ExecuteGitHubRequest) : GitHubProgram (Option Document × List String × Document) := do
  let baseRef ← github (.getRef payload.repositoryFullName payload.baseBranch)
  let object ← item "object" baseRef
  let baseSha ← item "sha" object
  let branch ← attempt (.getRef payload.repositoryFullName payload.featureBranch)
  let known ← unlessMissing branch
  createMissingBranch payload baseSha known
  let approval ← GitHubProgram.approval
  let (commit, changed) ← applyFiles payload approval.id approval.files none []
  let approval ← GitHubProgram.approval
  let pull ← github (.createPull payload.repositoryFullName (pullTitle payload approval) (pullBody payload approval)
    payload.featureBranch payload.baseBranch)
  return (commit, changed, pull)

namespace ApprovalRequest

/-- A new status, and the time of the change. -/
def moved (approval : ApprovalRequest) (status : ApprovalStatus) (updatedAt : Instant) : ApprovalRequest :=
  { approval with status, updatedAt }

end ApprovalRequest

def setApprovalStatus (runtime : Runtime) (approvalId : String) (status : ApprovalStatus) : ApprovalProcedure Unit := do
  let updatedAt ← readClock runtime
  .modify fun store => { store with
    approvalRequests := store.approvalRequests.adjust approvalId fun approval => approval.moved status updatedAt }

/-- `execute_github_change` up to its first call; the identifier of the approval is kept. -/
def beginGitHubExecution (runtime : Runtime) (payload : ExecuteGitHubRequest) : ApprovalProcedure String := do
  let (approval, plan) ← validateExecution runtime payload.toPatchPlanRequest
  demand (plan.ready = true) (.http 409 (runtime.render (.object [("blockers", .ofTexts plan.blockers)])))
  setApprovalStatus runtime payload.approvalRequestId .executing
  return approval.id

def testStatus (payload : ExecuteGitHubRequest) : String :=
  if payload.runTests = true then "PENDING_EXTERNAL_CI" else "NOT_RUN"

/-- The response, read from the last commit and the pull request. -/
def executionResponse (payload : ExecuteGitHubRequest) (approvalId : String) (commit : Option Document)
    (changed : List String) (pull : Document) : Except GitHubFailure ExecuteGitHubResponse :=
  match commit with
  | none => .error (.http 500 "No commit was created during GitHub execution")
  | some commit =>
      match (commit.field "commit").bind (Document.field "sha"), pull.field "html_url" with
      | some commitSha, some pullRequestUrl =>
          .ok { approvalRequestId := approvalId
                repositoryFullName := payload.repositoryFullName
                branch := payload.featureBranch
                commitSha
                pullRequestUrl
                changedFiles := changed
                testStatus := testStatus payload }
      | _, _ => .error .exception

/-- `execute_github_change` from the end of its calls on: the final status comes
before the response is put together. -/
def endGitHubExecution (runtime : Runtime) (payload : ExecuteGitHubRequest) (approvalId : String) :
    Except GitHubFailure (Option Document × List String × Document) →
      ApprovalProcedure (Except GitHubFailure ExecuteGitHubResponse)
  | .error failure => do
      setApprovalStatus runtime payload.approvalRequestId .failed
      return .error failure
  | .ok (commit, changed, pull) => do
      setApprovalStatus runtime payload.approvalRequestId .readyForPr
      return executionResponse payload approvalId commit changed pull

/-- What a ready plan says about the approval and the request. -/
structure ExecutionReady (runtime : Runtime) (approval : ApprovalRequest) (payload : PatchPlanRequest) : Prop where
  approved : approval.status = .approved
  unblocked : approval.risk.blocked = false
  hash : approval.approvedPayloadHash = some (computeApprovalPayloadHash runtime approval)
  unprotected : runtime.lower payload.featureBranch ∉ runnerProtectedBranches
  differs : payload.featureBranch ≠ payload.baseBranch
  files : approval.files ≠ []
  contents : ∀ file ∈ approval.files, Text.present file.newContent = true

theorem blocker_eq_nil {condition : Prop} [Decidable condition] {text : String} :
    blocker condition text = [] ↔ ¬ condition := by
  unfold blocker
  split
  · next holds => simp [holds]
  · next fails => simp [fails]

theorem planFor_ready {runtime : Runtime} {approval : ApprovalRequest} {payload : PatchPlanRequest}
    (ready : (planFor runtime approval payload).ready = true) : ExecutionReady runtime approval payload := by
  have none_ : executionBlockers runtime approval payload = [] := List.isEmpty_iff.mp ready
  simp only [executionBlockers, List.append_eq_nil_iff, blocker_eq_nil] at none_
  obtain ⟨⟨⟨⟨⟨⟨⟨approved, unblocked⟩, hash⟩, -⟩, unprotected⟩, differs⟩, files⟩, contents⟩ := none_
  have sealed_ : approval.approvedPayloadHash = some (computeApprovalPayloadHash runtime approval) := by
    split at hash
    · cases hash
    · rw [blocker_eq_nil, not_not] at hash
      exact hash.symm
  refine ⟨not_not.mp approved, by simpa using unblocked, sealed_, unprotected, differs, files, ?_⟩
  intro file member
  by_contra lacking
  exact contents ⟨file, member, by simpa [FileChange.lacksContent] using lacking⟩

section Statuses

variable {runtime : Runtime} {store : ApprovalStore} {approvalId : String} {status : ApprovalStatus}

/-- One approval has a new status, and nothing else has changed. -/
def StatusWritten (approvalId : String) (status : ApprovalStatus) (before after : ApprovalStore) : Prop :=
  ∃ updatedAt, after.approvalRequests = before.approvalRequests.adjust approvalId fun approval =>
    approval.moved status updatedAt

theorem setApprovalStatus_ends :
    (setApprovalStatus runtime approvalId status).Ends store fun outcome after =>
      outcome = .ok () ∧ StatusWritten approvalId status store after := by
  unfold setApprovalStatus
  simp only [ends_bind, ends_readClock, continue_ok, ends_modify]
  exact ⟨trivial, _, rfl⟩

theorem StatusWritten.here {before after : ApprovalStore} (written : StatusWritten approvalId status before after)
    {approval : ApprovalRequest} (present : before.approvalRequests.get? approvalId = some approval) :
    ∃ updatedAt, after.approvalRequests.get? approvalId = some (approval.moved status updatedAt) := by
  obtain ⟨updatedAt, same⟩ := written
  exact ⟨updatedAt, by rw [same, Table.get?_adjust, if_pos rfl, present]; rfl⟩

theorem StatusWritten.elsewhere {before after : ApprovalStore} (written : StatusWritten approvalId status before after)
    {other : String} (different : other ≠ approvalId) :
    after.approvalRequests.get? other = before.approvalRequests.get? other := by
  obtain ⟨updatedAt, same⟩ := written
  rw [same, Table.get?_adjust, if_neg different]

/-- An execution starts on an approved approval, and marks it. -/
theorem beginGitHubExecution_ends (payload : ExecuteGitHubRequest) :
    (beginGitHubExecution runtime payload).Ends store fun outcome after =>
      (after.approvalRequests = store.approvalRequests ∧ ∃ error, outcome = .error error) ∨
        ∃ approval, store.approvalRequests.get? payload.approvalRequestId = some approval ∧
          ExecutionReady runtime approval payload.toPatchPlanRequest ∧ outcome = .ok approval.id ∧
          StatusWritten payload.approvalRequestId .executing store after := by
  unfold beginGitHubExecution validateExecution
  rw [← ends_assoc]
  apply ends_read
  rw [← ends_assoc]
  apply ends_lookup
  · exact .inl ⟨rfl, _, rfl⟩
  intro approval present
  apply ends_guard
  · exact .inl ⟨rfl, _, rfl⟩
  intro ready
  apply Ends.bind setApprovalStatus_ends
  · rintro _ after ⟨-, written⟩
    exact .inr ⟨approval, present, planFor_ready ready, rfl, written⟩
  · rintro error after ⟨impossible, -⟩
    cases impossible

theorem endGitHubExecution_ends (payload : ExecuteGitHubRequest)
    (result : Except GitHubFailure (Option Document × List String × Document)) :
    (endGitHubExecution runtime payload approvalId result).Ends store fun _ after =>
      ∃ final ∈ [ApprovalStatus.readyForPr, .failed], StatusWritten payload.approvalRequestId final store after := by
  unfold endGitHubExecution
  cases result with
  | error failure =>
    apply Ends.bind setApprovalStatus_ends
    · rintro _ after ⟨-, written⟩
      exact ⟨.failed, by simp, written⟩
    · rintro error after ⟨impossible, -⟩
      cases impossible
  | ok result =>
    apply Ends.bind setApprovalStatus_ends
    · rintro _ after ⟨-, written⟩
      exact ⟨.readyForPr, by simp, written⟩
    · rintro error after ⟨impossible, -⟩
      cases impossible

end Statuses

end ControlTower
