import ControlTower.Run.Routes

/-! What the workers check before they act on a task: the branch that is planned
for it, the approved files and the approved test commands. Each check gives the
reason of a refusal, or none. -/

set_option autoImplicit false

namespace ControlTower

open Foundation

section Branches

/-- Replace each run of characters outside a class by one dash. -/
def dashRuns (keep : Char → Bool) : Bool → List Char → List Char
  | _, [] => []
  | inRun, c :: rest =>
      if keep c then c :: dashRuns keep false rest
      else if inRun then dashRuns keep true rest
      else '-' :: dashRuns keep true rest

def stripChar (character : Char) (text : List Char) : List Char :=
  Text.dropEndWhile (· == character) (text.dropWhile (· == character))

def isSlugChar (c : Char) : Bool := ('a' ≤ c && c ≤ 'z') || ('0' ≤ c && c ≤ '9')

def slug (runtime : Runtime) (value : String) : String :=
  let dashed := stripChar '-' (dashRuns isSlugChar false (runtime.lower value).toList)
  let single := dashRuns (· != '-') false dashed
  let slug := if single = [] then "task".toList else single
  Text.orElse (String.ofList (stripChar '-' (slug.take 48))) "task"

/-- `value.replace(part, "")` for a part that is not empty; `skip` characters belong to an occurrence. -/
def removeAll (part : List Char) : Nat → List Char → List Char
  | _, [] => []
  | skip + 1, _ :: rest => removeAll part skip rest
  | 0, c :: rest =>
      if part.isPrefixOf (c :: rest) then removeAll part (part.length - 1) rest else c :: removeAll part 0 rest

def shortTaskId (taskId : String) : String :=
  Text.orElse (Text.take 12 (String.ofList (removeAll "agent_task_".toList 0 taskId.toList))) (Text.take 12 taskId)

def workerProtectedBranches : List String := ["main", "master", "prod", "production", "release"]

def safeBranchPrefixes : List String := ["feature/", "fix/", "chore/", "docs/", "test/", "refactor/"]

def isWordChar (c : Char) : Bool :=
  ('A' ≤ c && c ≤ 'Z') || ('a' ≤ c && c ≤ 'z') || ('0' ≤ c && c ≤ '9') || c == '_'

/-- A character of `[A-Za-z0-9_.-]`. -/
def isNameChar (c : Char) : Bool := isWordChar c || c == '.' || c == '-'

/-- `REPOSITORY_PATTERN.fullmatch`. -/
def isRepositoryName (name : String) : Bool :=
  match Text.splitChars '/' name.toList with
  | [owner, repo] => owner != [] && repo != [] && owner.all isNameChar && repo.all isNameChar
  | _ => false

/-- `BRANCH_PATTERN.fullmatch`. -/
def isBranchText (branch : String) : Bool :=
  branch != "" && branch.toList.all fun c => isNameChar c || c == '/'

def isProtectedBranch (runtime : Runtime) (branch : String) : Bool :=
  workerProtectedBranches.contains (runtime.lower (String.ofList (stripChar '/' (Text.strip branch).toList)))

def isSafeBranchName (runtime : Runtime) (branch : String) : Bool :=
  let clean := Text.strip branch
  clean != "" && !Text.startsWith clean "/" && !Text.endsWith clean "/" && !Text.contains clean ".." &&
    !Text.contains clean "//" && isBranchText clean && !isProtectedBranch runtime clean &&
    safeBranchPrefixes.any (Text.startsWith clean)

def plannedBranchForTask (runtime : Runtime) (task : AgentTask) : String :=
  if Text.present task.branchPreference = true then Text.strip (task.branchPreference.getD "")
  else "feature/agent-task-" ++ shortTaskId task.id ++ "-" ++ slug runtime task.title

def validateBranchPlan (runtime : Runtime) (task : AgentTask) : Option String :=
  let repository := Text.strip (task.repository.getD "")
  if repository = "" then some "Agent task is missing repository."
  else if isRepositoryName repository = false then
    some ("Agent task repository is not in owner/repo format: " ++ task.repository.getD "")
  else if isSafeBranchName runtime (plannedBranchForTask runtime task) = false then
    some ("Planned branch is unsafe or protected: " ++ plannedBranchForTask runtime task)
  else none

end Branches

section Files

def allowedChangeTypes : List String := ["create", "update", "delete"]

def blockedPathParts : List String := [".git", ".github/workflows", "node_modules", "venv", ".venv", "__pycache__"]

def blockedFilenames : List String := [".env", ".env.local", ".env.production", "credentials.py", "secrets.json"]

def maxFileChanges : Nat := 25

def maxNewContentBytes : Nat := 250000

/-- `change_type.lower().strip()`. -/
def FileChange.kind (runtime : Runtime) (file : FileChange) : String := Text.strip (runtime.lower file.changeType)

def isSafeRelativePath (runtime : Runtime) (path : String) : Bool :=
  let clean := Text.strip path
  let lowered := runtime.lower clean
  clean != "" && !Text.startsWith clean "/" && !clean.toList.contains (Char.ofNat 0) &&
    !(pathParts clean).contains ".." && !Text.endsWith clean "/" &&
    !(blockedPathParts.any fun blocked => lowered == blocked || Text.startsWith lowered (blocked ++ "/")) &&
    !blockedFilenames.contains ((pathParts lowered).getLastD "")

def validateFileChange (runtime : Runtime) (change : FileChange) : Option String :=
  let kind := change.kind runtime
  if kind ∉ allowedChangeTypes then
    some ("Unsupported file change type for " ++ change.path ++ ": " ++ change.changeType)
  else if isSafeRelativePath runtime change.path = false then some ("Unsafe file path: " ++ change.path)
  else if kind ∈ ["create", "update"] ∧ change.newContent = none then
    some ("File change requires new_content for " ++ change.path)
  else if kind = "delete" ∧ Text.present change.newContent = true then
    some ("Delete change must not include new_content for " ++ change.path)
  else if maxNewContentBytes < (change.newContent.getD "").utf8ByteSize then
    some ("File change is too large for " ++ change.path)
  else none

/-- The loop over the file changes, with the paths that were seen. -/
def firstFileFailure (runtime : Runtime) : List String → List FileChange → Option String
  | _, [] => none
  | seen, change :: rest =>
      let path := Text.strip change.path
      if path ∈ seen then some ("Duplicate file change path: " ++ path)
      else
        match validateFileChange runtime change with
        | some failure => some failure
        | none => firstFileFailure runtime (path :: seen) rest

def validateFilePatchPlan (runtime : Runtime) : Option ApprovalRequest → Option String
  | none => some "Linked approval request not found."
  | some approval =>
      if approval.files = [] then some "Linked approval has no file changes."
      else if maxFileChanges < approval.files.length then
        some ("Too many file changes: " ++ toString approval.files.length ++ " > " ++ toString maxFileChanges)
      else firstFileFailure runtime [] approval.files

end Files

section Commands

def allowedCommandPrefixes : List String := [
  "python -m pytest", "pytest", "./gradlew test", "./gradlew testDebugUnitTest", "./gradlew assembleDebug", "npm test",
  "npm run test", "npm run lint", "pnpm test", "pnpm lint", "ruff check", "mypy"]

def dangerousTokens : List String := ["&&", "||", ";", "|", ">", ">>", "<", "`"]

def dangerousSubstrings : List String :=
  ["$(", "rm -rf", "curl ", "wget ", "sudo ", "ssh ", "scp ", "chmod ", "chown ", "mkfs", ":()\x7b"]

def maxCommandLength : Nat := 220

/-- Where `shlex` stands: between tokens, in a token, in quotes, or behind a backslash. -/
inductive ShlexState where
  | between | token
  | quoted (quote : Char)
  /-- Behind a backslash in a token, or in double quotes. -/
  | escaped (inQuotes : Bool)
  deriving DecidableEq

def isShlexSpace (c : Char) : Bool := c == ' ' || c == '\t' || c == '\r' || c == '\n'

/-- The rest of `shlex.split`: the tokens so far and the present token are in reverse
order; a token counts when it has a character or had quotes. -/
def shlexFrom (state : ShlexState) (hadQuotes : Bool) (token : List Char) (tokens : List String) :
    List Char → Except String (List String)
  | [] =>
      match state with
      | .quoted _ => .error "No closing quotation"
      | .escaped _ => .error "No escaped character"
      | _ =>
          if token ≠ [] ∨ hadQuotes = true then .ok (String.ofList token.reverse :: tokens).reverse
          else .ok tokens.reverse
  | c :: rest =>
      match state with
      | .between =>
          if isShlexSpace c then shlexFrom .between false [] tokens rest
          else if c = '\\' then shlexFrom (.escaped false) false [] tokens rest
          else if c = '"' ∨ c = '\'' then shlexFrom (.quoted c) true [] tokens rest
          else shlexFrom .token false [c] tokens rest
      | .token =>
          if isShlexSpace c then
            if token ≠ [] ∨ hadQuotes = true then
              shlexFrom .between false [] (String.ofList token.reverse :: tokens) rest
            else shlexFrom .between false [] tokens rest
          else if c = '"' ∨ c = '\'' then shlexFrom (.quoted c) true token tokens rest
          else if c = '\\' then shlexFrom (.escaped false) hadQuotes token tokens rest
          else shlexFrom .token hadQuotes (c :: token) tokens rest
      | .quoted quote =>
          if c = quote then shlexFrom .token hadQuotes token tokens rest
          else if c = '\\' ∧ quote = '"' then shlexFrom (.escaped true) hadQuotes token tokens rest
          else shlexFrom (.quoted quote) hadQuotes (c :: token) tokens rest
      | .escaped inQuotes =>
          -- in double quotes a backslash stays before all but itself and the quote
          let kept := if inQuotes = true ∧ c ≠ '\\' ∧ c ≠ '"' then '\\' :: token else token
          shlexFrom (if inQuotes = true then .quoted '"' else .token) hadQuotes (c :: kept) tokens rest

/-- `shlex.split`. -/
def shlexSplit (command : String) : Except String (List String) := shlexFrom .between false [] [] command.toList

def validateValidationCommand (command : String) : Option String :=
  let clean := Text.strip command
  if clean = "" then some "Validation command is empty."
  else if maxCommandLength < clean.length then some ("Validation command is too long: " ++ Text.take 80 clean)
  else if dangerousSubstrings.any (Text.contains clean) = true then
    some ("Validation command contains dangerous operation: " ++ clean)
  else
    match shlexSplit clean with
    | .error error => some ("Validation command cannot be parsed: " ++ error)
    | .ok tokens =>
        if tokens.any dangerousTokens.contains = true then
          some ("Validation command contains shell control token: " ++ clean)
        else if (allowedCommandPrefixes.any fun allowed => clean == allowed || Text.startsWith clean (allowed ++ " ")) = true
        then none
        else some ("Validation command is not allowlisted: " ++ clean)

def allowedPrefixForCommand (command : String) : String :=
  let clean := Text.strip command
  (allowedCommandPrefixes.find? fun allowed => clean == allowed || Text.startsWith clean (allowed ++ " ")).getD "UNKNOWN"

/-- The loop over the commands, with the commands that were seen. -/
def firstCommandFailure : List String → List String → Option String
  | _, [] => none
  | seen, command :: rest =>
      let normalized := Text.strip command
      if normalized ∈ seen then some ("Duplicate validation command: " ++ normalized)
      else
        match validateValidationCommand command with
        | some failure => some failure
        | none => firstCommandFailure (normalized :: seen) rest

def validateValidationPlan : Option ApprovalRequest → Option String
  | none => some "Linked approval request not found."
  | some approval =>
      if approval.testPlan = [] then some "Linked approval has no validation commands."
      else if maxValidationCommands < approval.testPlan.length then
        some ("Too many validation commands: " ++ toString approval.testPlan.length ++ " > " ++
          toString maxValidationCommands)
      else firstCommandFailure [] approval.testPlan

/-- Quotes keep spaces, and an escaped quote stays in its token. -/
example : shlexSplit "pytest -k 'a b' \"c\\\"d\"" = .ok ["pytest", "-k", "a b", "c\"d"] := by decide +kernel

end Commands

end ControlTower
