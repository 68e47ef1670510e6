import ControlTower.Foundation.Dialogue
import ControlTower.Task.World

/-! The worker operations and the task routes as programs. A program changes the
shared memory in atomic actions, of which `persist` is one, and calls a GitHub
client or runs a command; between two of these it lets others go on. -/

set_option autoImplicit false

namespace ControlTower

open Foundation
open Foundation.Procedure

structure GitHubBranchCreateResult where
  repository : String
  branch : String
  sourceBranch : String
  sourceSha : String
  htmlUrl : Option String

structure GitHubFileApplyItem where
  path : String
  changeType : String
  commitSha : String

structure GitHubFileApplyResult where
  repository : String
  branch : String
  filesWritten : Nat
  filesDeleted : Nat
  items : List GitHubFileApplyItem

structure GitHubPullRequestCreateResult where
  repository : String
  number : Int
  title : String
  headBranch : String
  baseBranch : String
  htmlUrl : String

structure CommandExecutionResult where
  command : String
  exitCode : Int
  timedOut : Bool
  outputSummary : String
  durationMs : Int
  outputTruncated : Bool
  outputChars : Int
  allowedPrefix : String

def CommandExecutionResult.passed (result : CommandExecutionResult) : Bool := result.exitCode == 0 && !result.timedOut

/-- The calls of the injected clients and of the command executor. -/
inductive ClientCall where
  | branchExists (repository branch : String)
  | getBranchSha (repository branch : String)
  | createBranch (repository branch sourceSha : String)
  | getFileSha (repository path branch : String)
  | createOrUpdateFile (repository path branch content message : String) (sha : Option String)
  | deleteFile (repository path branch message sha : String)
  | openPullRequestExists (repository headBranch baseBranch : String)
  | createPullRequest (repository title body headBranch baseBranch : String)
  | runCommand (command : String)

def ClientCall.Reply : ClientCall → Type
  | .branchExists _ _ | .openPullRequestExists _ _ _ => Bool
  | .getBranchSha _ _ => String
  | .createBranch _ _ _ => GitHubBranchCreateResult
  | .getFileSha _ _ _ => Option String
  | .createOrUpdateFile _ _ _ _ _ _ | .deleteFile _ _ _ _ _ => String
  | .createPullRequest _ _ _ _ _ => GitHubPullRequestCreateResult
  | .runCommand _ => CommandExecutionResult

inductive TaskFailure where
  | raised (error : Raised)
  | exception (message : String)
  /-- An exception that `except Exception` lets pass. -/
  | interrupt
  deriving DecidableEq

/-- `str(error)`. -/
def TaskFailure.message : TaskFailure → String
  | .raised error => error.message
  | .exception message => message
  | .interrupt => ""

/-- The atomic actions on the shared memory. -/
inductive TaskAction where
  | claim (request : WorkerRequest)
  /-- Read a task object and the approval it is linked to. -/
  | look (task : TaskRef)
  | append (task : TaskRef) (status : Option AgentTaskStatus) (text : TaskEventText) (actor : String)
  | release (task : TaskRef) (leaseToken : String)
  | cancel (taskId : String) (user : AuthUser)
  | retry (taskId : String) (maxRetries : Nat) (user : AuthUser)
  | decide (approvalId : String) (payload : DecisionCreate) (user : AuthUser)
  | persist

def TaskAction.Outcome : TaskAction → Type
  | .claim _ => ClaimResult
  | .look _ => AgentTask × Option ApprovalRequest
  | _ => Unit

/-- `_linked_approval`. -/
def TaskWorld.linkedApproval (world : TaskWorld) (task : AgentTask) : Option ApprovalRequest :=
  if Text.present task.approvalRequestId = true then
    world.store.approvalRequests.get? (task.approvalRequestId.getD "")
  else none

def lookAtTask (task : TaskRef) : TaskProcedure (AgentTask × Option ApprovalRequest) := do
  let world ← Procedure.state
  return (world.objects task, world.linkedApproval (world.objects task))

def TaskAction.perform (runtime : Runtime) : (action : TaskAction) → TaskProcedure action.Outcome
  | .claim request => claimFor runtime request
  | .look task => lookAtTask task
  | .append task status text actor => appendTaskEvent runtime task status text actor
  | .release task leaseToken => releaseTask runtime task leaseToken
  | .cancel taskId user => cancelAgentTask runtime taskId user
  | .retry taskId maxRetries user => retryAgentTask runtime taskId maxRetries user
  | .decide approvalId payload user => decideWithTask runtime approvalId payload user
  | .persist => persistTasks

inductive TaskCall where
  | memory (action : TaskAction)
  | client (call : ClientCall)

def TaskCall.Answer : TaskCall → Type
  | .memory action => Except Raised action.Outcome
  | .client call => Except TaskFailure call.Reply

abbrev TaskProgram := Dialogue TaskCall.Answer TaskFailure

namespace TaskProgram

def memory (action : TaskAction) : TaskProgram action.Outcome :=
  .ask (.memory action) fun answer =>
    match answer with
    | .ok value => .done value
    | .error error => .raise (.raised error)

def client (call : ClientCall) : TaskProgram call.Reply :=
  .ask (.client call) fun answer =>
    match answer with
    | .ok value => .done value
    | .error failure => .raise failure

def runtimeError {α : Type} (message : String) : TaskProgram α := .raise (.exception message)

/-- `try … except Exception`. -/
def attempt {α : Type} (body : TaskProgram α) : TaskProgram (Except String α) :=
  (body >>= fun value => .done (.ok value)).rescue fun failure =>
    if failure = .interrupt then .raise failure else .done (.error failure.message)

end TaskProgram

open TaskProgram

structure WorkerResult (α : Type) where
  success : Bool
  taskId : Option String
  workerId : String
  leaseToken : Option String
  finalStatus : Option AgentTaskStatus
  /-- What the operation brought about, where it did. -/
  made : Option α
  reason : String

/-- What the GitHub operations differ in. -/
structure GitHubOperation (α : Type) where
  /-- The reason of a refusal before the first call. -/
  check : AgentTask → Option ApprovalRequest → Option String
  missingToken : String
  calls : AgentTask → Option ApprovalRequest → TaskProgram α
  /-- The status that the last event writes. -/
  status : Option AgentTaskStatus
  event : TaskEventText
  reason : String

/-- `_release_task` and `persist`, and the result of an operation that did not succeed. -/
def giveBack {α : Type} (request : WorkerRequest) (task : TaskRef) (taskId leaseToken reason : String) :
    TaskProgram (WorkerResult α) := do
  memory (.release task leaseToken)
  memory .persist
  let (held, _) ← memory (.look task)
  return ⟨false, some taskId, request.workerId, some leaseToken, some held.status, none, reason⟩

/-- A GitHub operation on a task that it has claimed. -/
def workOn {α : Type} (operation : GitHubOperation α) (clientReady : Bool) (request : WorkerRequest) (task : TaskRef)
    (taskId leaseToken : String) : TaskProgram (WorkerResult α) := do
  let (record, approval) ← memory (.look task)
  match operation.check record approval with
  | some refusal => giveBack request task taskId leaseToken refusal
  | none =>
      if clientReady = false then runtimeError operation.missingToken
      else do
        match ← attempt (operation.calls record approval) with
        | .error reason => giveBack request task taskId leaseToken reason
        | .ok made => do
            memory (.append task operation.status operation.event request.workerId)
            memory (.release task leaseToken)
            memory .persist
            let (held, _) ← memory (.look task)
            return ⟨true, some taskId, request.workerId, some leaseToken, some held.status, some made, operation.reason⟩

/-- Claim a task and go on with it, or tell why there is none. -/
def withClaim {α : Type} (request : WorkerRequest) (work : TaskRef → String → String → TaskProgram (WorkerResult α)) :
    TaskProgram (WorkerResult α) :=
  if Text.present request.taskId = false ∧ request.firstApproved = false then
    .done ⟨false, none, request.workerId, none, none, none, "Provide task_id or set first_approved=true."⟩
  else do
    match ← memory (.claim request) with
    | .refused task taskId reason =>
        return ⟨false, taskId, request.workerId, none, task.map (·.status), none, reason⟩
    | .claimed task taskId leaseToken _ => work task taskId leaseToken

def runGitHubOperation {α : Type} (operation : GitHubOperation α) (clientReady : Bool) (request : WorkerRequest) :
    TaskProgram (WorkerResult α) :=
  withClaim request (workOn operation clientReady request)

section Branch

def branchCalls (runtime : Runtime) (sourceBranch : String) (task : AgentTask) : TaskProgram GitHubBranchCreateResult := do
  let repository := task.repository.getD ""
  let branch := plannedBranchForTask runtime task
  let known : Bool ← client (.branchExists repository branch)
  if known = true then runtimeError ("Target branch already exists: " ++ branch)
  else do
    let sourceSha : String ← client (.getBranchSha repository sourceBranch)
    let created : GitHubBranchCreateResult ← client (.createBranch repository branch sourceSha)
    return { created with sourceBranch }

def githubBranchCreation (runtime : Runtime) (sourceBranch : String) : GitHubOperation GitHubBranchCreateResult where
  check task _ := validateBranchPlan runtime task
  missingToken := "GITHUB_TOKEN is required for GitHub branch creation"
  calls task _ := branchCalls runtime sourceBranch task
  status := none
  event := ⟨.note, "Worker created a safe GitHub feature branch. No files, commits, or pull requests were created.",
    some "github_branch_creation", []⟩
  reason := "GitHub feature branch created. No files, commits, or pull requests created."

def runAgentWorkerGithubBranchCreation (runtime : Runtime) (sourceBranch : String) :
    Bool → WorkerRequest → TaskProgram (WorkerResult GitHubBranchCreateResult) :=
  runGitHubOperation (githubBranchCreation runtime sourceBranch)

end Branch

section Files

def commitMessage (runtime : Runtime) (change : FileChange) (task : AgentTask) : String :=
  "Apply approved AgentTask change: " ++ change.kind runtime ++ " " ++ Text.strip change.path ++ " (" ++ task.id ++ ")"

/-- One round of `_apply_file_changes`. -/
def applyFileChange (runtime : Runtime) (task : AgentTask) (branch : String) (change : FileChange) :
    TaskProgram GitHubFileApplyItem := do
  let repository := task.repository.getD ""
  let path := Text.strip change.path
  let kind := change.kind runtime
  let currentSha : Option String ← client (.getFileSha repository path branch)
  if kind = "create" ∧ currentSha ≠ none then runtimeError ("Create refused because file already exists: " ++ path)
  else if kind = "update" ∧ currentSha = none then
    runtimeError ("Update refused because file does not exist: " ++ path)
  else if kind = "delete" ∧ currentSha = none then
    runtimeError ("Delete refused because file does not exist: " ++ path)
  else if kind = "create" ∨ kind = "update" then
    match change.newContent with
    | none => runtimeError ""
    | some content => do
        let commitSha : String ←
          client (.createOrUpdateFile repository path branch content (commitMessage runtime change task) currentSha)
        return ⟨path, kind, commitSha⟩
  else
    match currentSha with
    | none => runtimeError ""
    | some sha => do
        let commitSha : String ← client (.deleteFile repository path branch (commitMessage runtime change task) sha)
        return ⟨path, kind, commitSha⟩

def applyEach (runtime : Runtime) (task : AgentTask) (branch : String) :
    List FileChange → List GitHubFileApplyItem → TaskProgram (List GitHubFileApplyItem)
  | [], items => .done items
  | change :: rest, items => do
      let item ← applyFileChange runtime task branch change
      applyEach runtime task branch rest (items ++ [item])

/-- `_apply_file_changes`. -/
def fileCalls (runtime : Runtime) (task : AgentTask) (approval : Option ApprovalRequest) :
    TaskProgram GitHubFileApplyResult := do
  let repository := task.repository.getD ""
  let branch := plannedBranchForTask runtime task
  let known : Bool ← client (.branchExists repository branch)
  if known = false then runtimeError ("Target branch does not exist: " ++ branch)
  else do
    let items ← applyEach runtime task branch ((approval.map (·.files)).getD []) []
    let written := items.filter fun item => item.changeType == "create" || item.changeType == "update"
    return ⟨repository, branch, written.length, items.length - written.length, items⟩

def githubFileApplication (runtime : Runtime) : GitHubOperation GitHubFileApplyResult where
  check task approval := (validateBranchPlan runtime task).or (validateFilePatchPlan runtime approval)
  missingToken := "GITHUB_TOKEN is required for GitHub file application"
  calls task approval := fileCalls runtime task approval
  status := none
  event := ⟨.note, "Worker applied approved file changes to the safe feature branch. No pull request was opened.",
    some "github_file_application", []⟩
  reason := "Approved file changes applied to feature branch. No pull request opened."

def runAgentWorkerGithubFileApplication (runtime : Runtime) :
    Bool → WorkerRequest → TaskProgram (WorkerResult GitHubFileApplyResult) :=
  runGitHubOperation (githubFileApplication runtime)

end Files

section PullRequest

def pullRequestTitle (task : AgentTask) (approval : Option ApprovalRequest) : String :=
  match approval with
  | some approval =>
      if Text.strip approval.title ≠ "" then Text.strip approval.title else "AgentTask: " ++ task.title
  | none => "AgentTask: " ++ task.title

def pullRequestBody (task : AgentTask) (approval : Option ApprovalRequest) : String :=
  Text.join "\n" [
    "## Aixion worker PR",
    "",
    "AgentTask: `" ++ task.id ++ "`",
    "ApprovalRequest: `" ++ ((approval.map (·.id)).or task.approvalRequestId).getD "None" ++ "`",
    "Provider: `" ++ task.provider.value ++ "`",
    "",
    "This PR was opened by the Aixion worker after mobile/operator approval.",
    "",
    "Scope:",
    "- Opens review PR only",
    "- Does not merge",
    "- Does not approve its own work",
    "- Keeps audit evidence in the AgentTask timeline"]

def pullRequestCalls (runtime : Runtime) (baseBranch : String) (task : AgentTask) (approval : Option ApprovalRequest) :
    TaskProgram GitHubPullRequestCreateResult := do
  let repository := task.repository.getD ""
  let headBranch := plannedBranchForTask runtime task
  let known : Bool ← client (.branchExists repository headBranch)
  if known = false then runtimeError ("Head branch does not exist: " ++ headBranch)
  else do
    let opened : Bool ← client (.openPullRequestExists repository headBranch baseBranch)
    if opened = true then
      runtimeError ("Open pull request already exists for " ++ headBranch ++ " -> " ++ baseBranch)
    else
      client (.createPullRequest repository (pullRequestTitle task approval) (pullRequestBody task approval) headBranch
        baseBranch)

def githubPrCreation (runtime : Runtime) (baseBranch : String) : GitHubOperation GitHubPullRequestCreateResult where
  check task _ := validateBranchPlan runtime task
  missingToken := "GITHUB_TOKEN is required for GitHub PR creation"
  calls task approval := pullRequestCalls runtime baseBranch task approval
  status := some .readyForPr
  event := ⟨.prCreated, "Worker opened a GitHub pull request for human review.", some "github_pull_request_creation", []⟩
  reason := "GitHub pull request opened for human review. No merge performed."

def runAgentWorkerGithubPrCreation (runtime : Runtime) (baseBranch : String) :
    Bool → WorkerRequest → TaskProgram (WorkerResult GitHubPullRequestCreateResult) :=
  runGitHubOperation (githubPrCreation runtime baseBranch)

end PullRequest

section Validation

def maxOutputChars : Nat := 4000

/-- `text[-count:]`. -/
def lastChars (count : Nat) (text : String) : String := String.ofList (text.toList.drop (text.toList.length - count))

def CommandExecutionResult.withPrefix (result : CommandExecutionResult) : CommandExecutionResult :=
  if result.allowedPrefix = "" ∨ result.allowedPrefix = "UNKNOWN" then
    { result with allowedPrefix := allowedPrefixForCommand result.command }
  else result

def CommandExecutionResult.withOutputChars (result : CommandExecutionResult) : CommandExecutionResult :=
  if result.outputChars = 0 ∧ result.outputSummary ≠ "" then
    { result with outputChars := result.outputSummary.length }
  else result

def CommandExecutionResult.truncated (result : CommandExecutionResult) : CommandExecutionResult :=
  if maxOutputChars < result.outputSummary.length then
    { result with outputSummary := lastChars maxOutputChars result.outputSummary, outputTruncated := true }
  else result

/-- `_normalize_result_artifact`, with its three conditions in their order. -/
def normalizeResultArtifact (result : CommandExecutionResult) : CommandExecutionResult :=
  result.withPrefix.withOutputChars.truncated

/-- `_artifact_summary`. -/
structure ArtifactSummary where
  commandCount : Nat
  passedCount : Nat
  failedCount : Nat
  timedOutCount : Nat
  totalDurationMs : Int
  outputTruncated : Bool

def artifactSummary (results : List CommandExecutionResult) : ArtifactSummary where
  commandCount := results.length
  passedCount := (results.filter (·.passed)).length
  failedCount := (results.filter fun result => !result.passed).length
  timedOutCount := (results.filter (·.timedOut)).length
  totalDurationMs := (results.map fun result => max result.durationMs 0).sum
  outputTruncated := results.any (·.outputTruncated)

def ArtifactSummary.document (summary : ArtifactSummary) : Document :=
  .object [
    ("artifact_type", .text "validation_command_artifact_summary"), ("command_count", .number summary.commandCount),
    ("passed_count", .number summary.passedCount), ("failed_count", .number summary.failedCount),
    ("timed_out_count", .number summary.timedOutCount), ("total_duration_ms", .number summary.totalDurationMs),
    ("output_truncated", .flag summary.outputTruncated), ("max_output_chars", .number maxOutputChars)]

/-- `asdict`. -/
def CommandExecutionResult.document (result : CommandExecutionResult) : Document :=
  .object [
    ("command", .text result.command), ("exit_code", .number result.exitCode), ("timed_out", .flag result.timedOut),
    ("output_summary", .text result.outputSummary), ("duration_ms", .number result.durationMs),
    ("output_truncated", .flag result.outputTruncated), ("output_chars", .number result.outputChars),
    ("allowed_prefix", .text result.allowedPrefix)]

/-- What `_append_validation_event` writes of the results, or of a plan that has none yet. -/
def validationArtifacts (testPlan : List String) : Option (List CommandExecutionResult) → List (String × Document)
  | none =>
      [("command_count", .number testPlan.length), ("commands_executed", .flag false), ("results", .list []),
        ("artifact_summary", .object [])]
  | some results =>
      let normalized := results.map normalizeResultArtifact
      [("command_count", .number normalized.length), ("commands_executed", .flag true),
        ("results", .list (normalized.map (·.document))), ("artifact_summary", (artifactSummary normalized).document)]

/-- The loop over the commands, up to the first one that does not pass. -/
def runCommands : List String → List CommandExecutionResult → TaskProgram (List CommandExecutionResult)
  | [], results => .done results
  | command :: rest, results => do
      let answer : CommandExecutionResult ← client (.runCommand command)
      let result := normalizeResultArtifact answer
      if result.passed = true then runCommands rest (results ++ [result]) else .done (results ++ [result])

/-- Every command of the plan was run and passed. -/
def allPassed (testPlan : List String) (results : List CommandExecutionResult) : Bool :=
  results.all (·.passed) && results.length == testPlan.length

/-- The event with which a validation ends. -/
def finishedStatus (passed : Bool) : AgentTaskStatus := if passed = true then .approved else .failed

def finishedEvent (testPlan : List String) (results : List CommandExecutionResult) (passed : Bool) : TaskEventText :=
  let artifacts := validationArtifacts testPlan (some results)
  if passed = true then ⟨.testsPassed, "Worker validation commands passed.", none, artifacts⟩
  else ⟨.testsFailed, "Worker validation commands failed.", none, artifacts⟩

/-- The validation of a task that it has claimed. The commands run outside of any `try`. -/
def validateTask (request : WorkerRequest) (task : TaskRef) (taskId leaseToken : String) :
    TaskProgram (WorkerResult (List CommandExecutionResult)) := do
  let (_, approval) ← memory (.look task)
  match validateValidationPlan approval with
  | some refusal => giveBack request task taskId leaseToken refusal
  | none => do
      let testPlan := (approval.map (·.testPlan)).getD []
      memory (.append task (some .testing)
        ⟨.testsStarted, "Worker started allowlisted validation commands.", none, validationArtifacts testPlan none⟩
        request.workerId)
      let results ← runCommands testPlan []
      let passed := allPassed testPlan results
      memory (.append task (some (finishedStatus passed)) (finishedEvent testPlan results passed) request.workerId)
      memory (.release task leaseToken)
      memory .persist
      let (held, _) ← memory (.look task)
      return ⟨passed, some taskId, request.workerId, some leaseToken, some held.status, some results,
        if passed = true then "Validation commands passed." else "Validation commands failed."⟩

def runAgentWorkerValidationCommands (request : WorkerRequest) :
    TaskProgram (WorkerResult (List CommandExecutionResult)) :=
  withClaim request (validateTask request)

end Validation

/-- The worker operations. -/
inductive WorkerOperation where
  | branchCreation (sourceBranch : String)
  | fileApplication
  | pullRequestCreation (baseBranch : String)
  | validation
  deriving DecidableEq

/-- An operation; `clientReady` tells that a client is injected or that a token is configured. -/
def WorkerOperation.program (runtime : Runtime) (clientReady : Bool) (request : WorkerRequest) :
    WorkerOperation → TaskProgram Unit
  | .branchCreation sourceBranch => do
      let _ ← runAgentWorkerGithubBranchCreation runtime sourceBranch clientReady request
  | .fileApplication => do
      let _ ← runAgentWorkerGithubFileApplication runtime clientReady request
  | .pullRequestCreation baseBranch => do
      let _ ← runAgentWorkerGithubPrCreation runtime baseBranch clientReady request
  | .validation => do
      let _ ← runAgentWorkerValidationCommands request

/-- What the task system is asked for. -/
inductive TaskRequest where
  | work (operation : WorkerOperation) (clientReady : Bool) (request : WorkerRequest)
  /-- A claim alone; its holder is not heard of again. -/
  | claim (request : WorkerRequest)
  | cancel (taskId : String) (user : AuthUser)
  | retry (taskId : String) (maxRetries : Nat) (user : AuthUser)
  | decide (approvalId : String) (payload : DecisionCreate) (user : AuthUser)

def TaskRequest.program (runtime : Runtime) : TaskRequest → TaskProgram Unit
  | .work operation clientReady request => operation.program runtime clientReady request
  | .claim request => do
      let _ ← memory (.claim request)
  | .cancel taskId user => do
      memory (.cancel taskId user)
      memory .persist
  | .retry taskId maxRetries user => do
      memory (.retry taskId maxRetries user)
      memory .persist
  | .decide approvalId payload user => do
      memory (.decide approvalId payload user)
      memory .persist

end ControlTower
