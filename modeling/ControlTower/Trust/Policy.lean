import ControlTower.Trust.Model

/-! The policy that judges a proposed action against a capability lease. -/

set_option autoImplicit false

namespace ControlTower

open Foundation

def policyVersion : String := "trust-policy-v1"

def protectedBranches : List String := ["main", "master", "refs/heads/main", "refs/heads/master"]

def sensitivePathStems : List String :=
  [".env", ".git", ".ssh", "credentials", "private_key", "secrets", "id_rsa"]

def highRiskActions : List CapabilityActionType := [.deploy, .readSecret, .writeDatabase]

def repositoryActions : List CapabilityActionType :=
  [.readRepository, .createBranch, .modifyFiles, .runCommand, .accessNetwork, .createPullRequest]

/-- The components of a relative `PurePosixPath`. -/
def pathParts (path : String) : List String :=
  (Text.split '/' path).filter fun part => part != "" && part != "."

/-- `str` of a relative `PurePosixPath`. -/
def pathText (parts : List String) : String := if parts = [] then "." else Text.join "/" parts

/-- The stem of a path component: without its last suffix, unless the only dot
starts or ends the name. -/
def pathStem (name : String) : String :=
  let reversed := name.toList.reverse
  let suffix := reversed.takeWhile (· != '.')
  let rest := reversed.drop (suffix.length + 1)
  if suffix ≠ [] ∧ rest ≠ [] then String.ofList rest.reverse else name

def cleanPath (value : String) : Option String :=
  let candidate := Text.replaceChar '\\' '/' (Text.strip value)
  if candidate = "" ∨ Text.startsWith candidate "/" then none
  else
    let parts := pathParts candidate
    if ".." ∈ parts ∨ parts = [] then none else some (pathText parts)

def isSensitivePathPart (runtime : Runtime) (part : String) : Bool :=
  let lowered := runtime.lower part
  Text.startsWith lowered ".env" || [".git", ".ssh"].contains lowered ||
    sensitivePathStems.contains (pathStem lowered)

def pathAllowed (runtime : Runtime) (path : String) (prefixes : List String) : Bool :=
  match cleanPath path with
  | none => false
  | some clean =>
      !(pathParts clean).any (isSensitivePathPart runtime) &&
        prefixes.any fun allowed =>
          match cleanPath (Text.stripEnd '/' allowed) with
          | none => false
          | some cleanPrefix => clean == cleanPrefix || Text.startsWith clean (cleanPrefix ++ "/")

/-- Where `shlex.split` stands in a command line. -/
inductive ShellMode where
  | plain | escaped | single | double | doubleEscaped
  deriving DecidableEq

def shellStep : ShellMode → Char → ShellMode
  | .plain, '\\' => .escaped
  | .plain, '\'' => .single
  | .plain, '"' => .double
  | .plain, _ => .plain
  | .escaped, _ => .plain
  | .single, '\'' => .plain
  | .single, _ => .single
  | .double, '"' => .plain
  | .double, '\\' => .doubleEscaped
  | .double, _ => .double
  | .doubleEscaped, _ => .double

/-- Whether `shlex.split` accepts the text: every quotation is closed and the
last escape has its character. -/
def shellSplits (command : String) : Bool := command.toList.foldl shellStep .plain == .plain

def commandAllowed (command : String) (allowed : List String) : Bool :=
  let cleaned := Text.strip command
  cleaned != "" && shellSplits cleaned && (allowed.map Text.strip).contains cleaned

def domainAllowed (runtime : Runtime) (domain : String) (allowed : List String) : Bool :=
  let candidate := Text.stripEnd '.' (runtime.lower (Text.strip domain))
  !(candidate == "" || Text.contains candidate "/" || Text.contains candidate ":") &&
    allowed.any fun configured =>
      let base := Text.stripEnd '.' (runtime.lower (Text.strip configured))
      candidate == base || Text.endsWith candidate ("." ++ base)

/-- `str(value or "")` of a metadata value. -/
def metadataText (runtime : Runtime) (metadata : List (String × Document)) (key : String) : String :=
  match metadata.lookup key with
  | none => ""
  | some value =>
      if value.truthy = false then ""
      else match value with
        | .text words => words
        | .number n => toString n
        | .flag _ => "True"
        | other => runtime.render other

/-- The identifier and the reading of the clock are drawn when the decision is stored. -/
structure Verdict where
  decision : PolicyDecisionType
  riskLevel : RiskLevel
  reasons : List String
  obligations : List String
  deriving DecidableEq

def reasonIf (condition : Bool) (reason : String) : List String := if condition then [reason] else []

/-- Insert a text into a list in ascending order. -/
def insertSorted (value : String) : List String → List String
  | [] => [value]
  | head :: rest => if value < head then value :: head :: rest else head :: insertSorted value rest

def sortTexts (values : List String) : List String := values.foldr insertSorted []

theorem sortTexts_eq_nil {values : List String} : sortTexts values = [] ↔ values = [] := by
  cases values with
  | nil => exact ⟨fun _ => rfl, fun _ => rfl⟩
  | cons first rest =>
    have filled : ∀ sorted, insertSorted first sorted ≠ [] := by
      intro sorted
      cases sorted with
      | nil => simp [insertSorted]
      | cons head tail =>
        unfold insertSorted
        split <;> simp
    simp only [sortTexts, List.foldr_cons, reduceCtorEq, iff_false]
    exact filled _

/-- The objections to the lease itself. -/
def leaseReasons (runtime : Runtime) (action : ProposedAction) (lease : CapabilityLease) (now : Instant) :
    List String :=
  reasonIf (action.leaseId != some lease.id) "Action lease identifier does not match the evaluated lease."
  ++ reasonIf (lease.status != .active) s!"Capability lease is not active: {lease.status.value}."
  ++ reasonIf (lease.expiresAt ≤ now) "Capability lease has expired."
  ++ reasonIf (!verifyPayloadSignature runtime (leaseReceiptPayload lease) lease.receiptSignature)
      "Capability lease receipt signature is invalid."

/-- The objections to the action under the terms of the lease. -/
def termReasons (runtime : Runtime) (action : ProposedAction) (lease : CapabilityLease) : List String :=
  let scope := lease.scope
  let expectedRunId := metadataText runtime scope.metadata "run_id"
  let expectedTaskId := metadataText runtime scope.metadata "task_id"
  let invalidPaths := action.paths.filter fun path => !pathAllowed runtime path scope.allowedPathPrefixes
  let invalidDomains := action.networkDomains.filter fun domain =>
    !domainAllowed runtime domain scope.allowedNetworkDomains
  let onRepository := repositoryActions.contains action.actionType
  reasonIf (Text.present lease.agentId && action.agentId != lease.agentId)
      "Agent identity does not match the lease subject."
  ++ reasonIf (lease.agentId == none && action.agentId != none)
      "An unbound lease cannot be adopted by an agent identity."
  ++ reasonIf (action.provider != lease.provider) "Agent provider does not match the lease provider."
  ++ reasonIf (!scope.allowedActions.contains action.actionType)
      s!"Action type {action.actionType.value} is outside the approved lease."
  ++ reasonIf (onRepository && action.repository != some scope.repository)
      "Repository does not match the approved capability scope."
  ++ reasonIf (onRepository && action.branch != some scope.branch)
      "Branch does not match the approved capability scope."
  ++ reasonIf (protectedBranches.contains (runtime.lower (action.branch.getD "")))
      "Protected branches cannot receive agent mutations."
  ++ reasonIf (((action.metadata.lookup "auto_merge").any Document.truthy) || scope.allowAutoMerge)
      "Auto-merge is prohibited by the Aixion trust policy."
  ++ reasonIf (expectedRunId != "" && action.runId != some expectedRunId)
      "Run identity does not match the capability lease."
  ++ reasonIf (expectedTaskId != "" && action.taskId != some expectedTaskId)
      "Task identity does not match the capability lease."
  ++ reasonIf (action.actionType == .modifyFiles && action.paths.isEmpty)
      "File mutation requires at least one explicit approved path."
  ++ reasonIf (!invalidPaths.isEmpty)
      ("Paths outside approved scope: " ++ Text.join ", " (sortTexts invalidPaths))
  ++ reasonIf (action.actionType == .runCommand && !Text.present action.command)
      "Command execution requires one explicit approved command."
  ++ reasonIf (Text.present action.command &&
        !commandAllowed (action.command.getD "") scope.allowedCommands)
      "Command is not covered by the exact approved command allowlist."
  ++ reasonIf (action.actionType == .accessNetwork && action.networkDomains.isEmpty)
      "Network access requires at least one explicit approved domain."
  ++ reasonIf (!invalidDomains.isEmpty)
      ("Network domains outside approved scope: " ++ Text.join ", " invalidDomains)
  ++ reasonIf (scope.maxRuntimeSeconds < lease.consumedRuntimeSeconds + action.estimatedRuntimeSeconds)
      "Projected runtime exceeds the capability budget."
  ++ reasonIf (scope.maxCostUsd < lease.consumedCostUsd + action.estimatedCostUsd)
      "Projected cost exceeds the capability budget."
  ++ reasonIf (scope.maxRetries < action.retryNumber) "Retry number exceeds the capability retry budget."
  ++ reasonIf (action.actionType == .createPullRequest && scope.maxPullRequests ≤ lease.consumedPullRequests)
      "Pull-request capability budget is exhausted."

/-- The objections of the policy to an action under a lease, in order. -/
def policyReasons (runtime : Runtime) (action : ProposedAction) (lease : CapabilityLease) (now : Instant) :
    List String :=
  leaseReasons runtime action lease now ++ termReasons runtime action lease

def evaluateProposedAction (runtime : Runtime) (action : ProposedAction) (lease : Option CapabilityLease)
    (now : Instant) : Verdict :=
  let highRisk := highRiskActions.contains action.actionType
  match lease with
  | none =>
      if highRisk then
        { decision := .block, riskLevel := .critical
          reasons := ["High-risk actions require an active signed capability lease."], obligations := [] }
      else
        { decision := .requireApproval, riskLevel := .high
          reasons := ["No capability lease was supplied."]
          obligations := ["Create a scoped approval and issue a short-lived capability lease."] }
  | some lease =>
      let reasons := policyReasons runtime action lease now
      if reasons ≠ [] then
        { decision := .block, riskLevel := .critical, reasons
          obligations := ["Revise the approval scope and issue a new capability lease."] }
      else if lease.mode = .strict then
        { decision := .requireApproval, riskLevel := .high
          reasons := ["Strict mode requires a human decision for every meaningful action."]
          obligations := ["Approve this exact action without broadening the lease."] }
      else if lease.mode = .supervised ∧ highRisk then
        { decision := .requireApproval, riskLevel := .critical
          reasons := ["Supervised mode escalates high-risk actions to a human reviewer."]
          obligations := ["Require an owner or maintainer decision before execution."] }
      else
        { decision := .allow, riskLevel := if highRisk then .high else .low
          reasons := ["Action is inside the signed, active and budgeted capability lease."]
          obligations := ["Record the executed payload and consumption against the lease."] }

/-- A strict lease never lets the policy allow an action on its own. -/
theorem strict_never_allows (runtime : Runtime) (action : ProposedAction) (lease : CapabilityLease)
    (now : Instant) (strict : lease.mode = .strict) :
    (evaluateProposedAction runtime action (some lease) now).decision ≠ .allow := by
  simp only [evaluateProposedAction, strict]
  split <;> simp

/-- A lease that is not active never lets the policy allow an action. -/
theorem inactive_never_allows (runtime : Runtime) (action : ProposedAction) (lease : CapabilityLease)
    (now : Instant) (inactive : lease.status ≠ .active) :
    (evaluateProposedAction runtime action (some lease) now).decision ≠ .allow := by
  have objected : policyReasons runtime action lease now ≠ [] := by
    intro silent
    have first := (List.append_eq_nil_iff.mp silent).1
    simp [leaseReasons, reasonIf, inactive] at first
  simp [evaluateProposedAction, objected]

/-- Without a lease the policy never allows an action. -/
theorem no_lease_never_allows (runtime : Runtime) (action : ProposedAction) (now : Instant) :
    (evaluateProposedAction runtime action none now).decision ≠ .allow := by
  simp only [evaluateProposedAction]
  split <;> simp

end ControlTower
