import ControlTower.Foundation.Pieces
import ControlTower.Trust.Issuance

/-! What the policy admits, in terms of what was approved: a path as its components, a
domain as its labels, and an action as one that the terms of a lease cover. -/

set_option autoImplicit false

namespace ControlTower

open Foundation

section Ends

/-- Nothing is stripped from a text exactly when it neither begins nor ends with white space. -/
theorem strip_eq_iff {value : String} :
    Text.strip value = value ↔ (∀ c ∈ value.toList.head?, Text.isSpace c = false) ∧
      ∀ c ∈ value.toList.getLast?, Text.isSpace c = false := by
  have front : value.toList.dropWhile Text.isSpace = value.toList ↔
      ∀ c ∈ value.toList.head?, Text.isSpace c = false := by
    cases value.toList with
    | nil => simp
    | cons first rest => simp
  have back : Text.dropEndWhile Text.isSpace value.toList = value.toList ↔
      ∀ c ∈ value.toList.getLast?, Text.isSpace c = false := by
    unfold Text.dropEndWhile
    rw [← List.head?_reverse]
    cases reversed : value.toList.reverse with
    | nil => simpa using reversed
    | cons last rest =>
      -- the end is read off the reversed text: either its last character stays or it is cut
      have whole : value.toList = rest.reverse ++ [last] := by
        rw [← List.reverse_reverse value.toList, reversed, List.reverse_cons]
      rw [whole]
      cases space : Text.isSpace last with
      | false => simp [space]
      | true =>
        have shorter := (List.dropWhile_suffix Text.isSpace (l := rest)).length_le
        constructor
        · intro same
          have sizes := congrArg List.length same
          simp [space] at sizes
          omega
        · intro impossible
          simp [space] at impossible
  rw [← front, ← back]
  constructor
  · intro same
    have chars := congrArg String.toList same
    simp only [Text.strip, String.toList_ofList] at chars
    -- both cuts only shorten the text, so a text that is stripped already was not cut at all
    have trimmed : (value.toList.dropWhile Text.isSpace).length ≤ value.toList.length :=
      (List.dropWhile_suffix _).length_le
    have cut : (Text.dropEndWhile Text.isSpace (value.toList.dropWhile Text.isSpace)).length ≤
        (value.toList.dropWhile Text.isSpace).length := (List.rdropWhile_prefix _ _).length_le
    have first : value.toList.dropWhile Text.isSpace = value.toList := by
      apply (List.dropWhile_suffix _).eq_of_length
      rw [chars] at cut
      exact Nat.le_antisymm trimmed cut
    rw [first] at chars
    exact ⟨first, chars⟩
  · rintro ⟨first, last⟩
    simp only [Text.strip, first, last, String.ofList_toList]

end Ends

section Paths

/-- The components a path is read as. -/
def pathComponents (path : String) : List String := pathParts (normalizedPath path)

/-- A path from the root of the repository to something inside it. -/
structure ProperPath (path : String) : Prop where
  relative : Text.startsWith (normalizedPath path) "/" = false
  named : pathComponents path ≠ []
  inside : ".." ∉ pathComponents path

theorem pathParts_stripEnd (text : String) : pathParts (Text.stripEnd '/' text) = pathParts text := by
  obtain ⟨count, pieces⟩ := Text.split_stripEnd '/' text
  unfold pathParts
  rw [pieces, List.filter_append]
  simp

theorem whole_of_mem_pathParts {path part : String} (member : part ∈ pathParts path) : '/' ∉ part.toList := by
  unfold pathParts at member
  exact Text.whole_of_mem_split (List.mem_of_mem_filter member)

theorem slash_eq : "/" = String.ofList ['/'] := rfl

theorem split_pathText {path : String} (named : pathParts path ≠ []) :
    Text.split '/' (pathText (pathParts path)) = pathParts path := by
  unfold pathText
  rw [if_neg named, slash_eq]
  exact Text.split_join named fun part member => whole_of_mem_pathParts member

theorem pathParts_pathText {path : String} (named : pathParts path ≠ []) :
    pathParts (pathText (pathParts path)) = pathParts path := by
  calc pathParts (pathText (pathParts path))
      = (Text.split '/' (pathText (pathParts path))).filter fun part => part != "" && part != "." := rfl
    _ = (pathParts path).filter fun part => part != "" && part != "." := by rw [split_pathText named]
    _ = pathParts path := List.filter_eq_self.mpr fun _ member => (List.mem_filter.mp member).2

theorem cleanPath_eq (path : String) : cleanPath path =
    if normalizedPath path = "" ∨ Text.startsWith (normalizedPath path) "/" = true then none
    else if ".." ∈ pathComponents path ∨ pathComponents path = [] then none
    else some (pathText (pathComponents path)) := rfl

theorem cleanPath_eq_some {path clean : String} :
    cleanPath path = some clean ↔ ProperPath path ∧ clean = pathText (pathComponents path) := by
  have empty : normalizedPath path = "" → pathComponents path = [] := by
    intro nothing
    unfold pathComponents
    rw [nothing]
    decide
  rw [cleanPath_eq]
  constructor
  · intro same
    split at same
    · cases same
    · rename_i started
      split at same
      · cases same
      · rename_i usable
        rw [not_or] at started usable
        exact ⟨⟨by simpa using started.2, usable.2, usable.1⟩, (Option.some.inj same).symm⟩
  · rintro ⟨proper, same⟩
    have started : ¬ (normalizedPath path = "" ∨ Text.startsWith (normalizedPath path) "/" = true) := by
      rintro (nothing | rooted)
      · exact proper.named (empty nothing)
      · rw [proper.relative] at rooted
        cases rooted
    have usable : ¬ (".." ∈ pathComponents path ∨ pathComponents path = []) := by
      rintro (outward | nothing)
      · exact proper.inside outward
      · exact proper.named nothing
    rw [same, if_neg started, if_neg usable]

theorem cleanPath_eq_none {path : String} : cleanPath path = none ↔ ¬ ProperPath path := by
  rw [Option.eq_none_iff_forall_not_mem]
  constructor
  · intro nothing proper
    exact nothing _ (cleanPath_eq_some.mpr ⟨proper, rfl⟩)
  · intro improper clean same
    exact improper (cleanPath_eq_some.mp same).1

/-- A path that leads inside the repository, and past no component that may hold a secret. -/
structure SafePath (runtime : Runtime) (path : String) : Prop extends ProperPath path where
  harmless : ∀ part ∈ pathComponents path, isSensitivePathPart runtime part = false

theorem below_iff {path base : String} (proper : ProperPath path) (fits : ProperPath base) :
    (pathText (pathComponents path) == pathText (pathComponents base) ||
      Text.startsWith (pathText (pathComponents path)) (pathText (pathComponents base) ++ "/")) = true ↔
        pathComponents base <+: pathComponents path := by
  have pieces := Text.split_prefix_iff '/' (pathText (pathComponents path)) (pathText (pathComponents base))
  unfold pathComponents at pieces
  rw [split_pathText proper.named, split_pathText fits.named, ← slash_eq] at pieces
  rw [Bool.or_eq_true, beq_iff_eq]
  exact pieces.symm

/-- The policy allows the safe paths at or below an allowed one. -/
theorem pathAllowed_iff {runtime : Runtime} {path : String} {prefixes : List String} :
    pathAllowed runtime path prefixes = true ↔ SafePath runtime path ∧ ∃ allowed ∈ prefixes,
      ProperPath (Text.stripEnd '/' allowed) ∧
        pathComponents (Text.stripEnd '/' allowed) <+: pathComponents path := by
  unfold pathAllowed
  cases read : cleanPath path with
  | none =>
    have improper := cleanPath_eq_none.mp read
    simp only [Bool.false_eq_true, false_iff, not_and]
    exact fun safe => absurd safe.toProperPath improper
  | some clean =>
    obtain ⟨proper, same⟩ := cleanPath_eq_some.mp read
    have parts : pathParts clean = pathComponents path := by
      rw [same]
      exact pathParts_pathText proper.named
    dsimp only
    rw [Bool.and_eq_true, Bool.not_eq_true', parts, List.any_eq_true, List.any_eq_false]
    constructor
    · rintro ⟨harmless, allowed, member, holds⟩
      refine ⟨⟨proper, fun part present => by simpa using harmless part present⟩, allowed, member, ?_⟩
      cases start : cleanPath (Text.stripEnd '/' allowed) with
      | none =>
        rw [start] at holds
        cases holds
      | some cleanPrefix =>
        obtain ⟨fits, prefixed⟩ := cleanPath_eq_some.mp start
        rw [start] at holds
        dsimp only at holds
        rw [same, prefixed] at holds
        exact ⟨fits, (below_iff proper fits).mp holds⟩
    · rintro ⟨safe, allowed, member, fits, below⟩
      refine ⟨fun part present => by simpa using safe.harmless part present, allowed, member, ?_⟩
      rw [cleanPath_eq_some.mpr ⟨fits, rfl⟩, same]
      exact (below_iff proper fits).mpr below

theorem toList_replaceChar (value : String) : (Text.replaceChar '\\' '/' value).toList =
    value.toList.map fun c => if c = '\\' then '/' else c := String.toList_ofList

/-- A normalized path does not end with white space. -/
theorem normalizedPath_end (path : String) : ∀ c ∈ (normalizedPath path).toList.getLast?, Text.isSpace c = false := by
  intro c last
  unfold normalizedPath at last
  rw [toList_replaceChar, List.getLast?_map] at last
  obtain ⟨d, ends, rfl⟩ := Option.map_eq_some_iff.mp last
  have solid := (strip_eq_iff.mp (Text.strip_strip path)).2 d ends
  split
  · decide
  · exact solid

/-- A stripped path that is an approved one, but for the strokes at its end, has the
components of the approved one. -/
theorem approved_components {allowed file : String} (trimmed : Text.strip allowed = allowed)
    (approved : Text.stripEnd '/' (normalizedPath allowed) = normalizedPath file) :
    pathComponents (Text.stripEnd '/' allowed) = pathComponents file := by
  obtain ⟨count, whole⟩ := Text.dropEndWhile_append_replicate '/' allowed.toList
  have short : (Text.stripEnd '/' allowed).toList = Text.dropEndWhile (· == '/') allowed.toList := String.toList_ofList
  rw [← short] at whole
  have slashed : (normalizedPath allowed).toList =
      (Text.replaceChar '\\' '/' (Text.stripEnd '/' allowed)).toList ++ List.replicate count '/' := by
    unfold normalizedPath
    rw [trimmed, toList_replaceChar, toList_replaceChar, whole, List.map_append, List.map_replicate]
    simp
  have same : Text.stripEnd '/' (normalizedPath allowed) =
      Text.stripEnd '/' (Text.replaceChar '\\' '/' (Text.stripEnd '/' allowed)) := by
    rw [Text.stripEnd, Text.stripEnd, slashed]
    unfold Text.dropEndWhile
    simp
  have solid : Text.strip (Text.stripEnd '/' allowed) = Text.stripEnd '/' allowed := by
    obtain ⟨front, -⟩ := strip_eq_iff.mp trimmed
    refine strip_eq_iff.mpr ⟨fun c first => front c ?_, fun c last => ?_⟩
    · rw [whole, List.head?_append, Option.mem_def.mp first]
      rfl
    · by_contra space
      -- White space before the strokes would end the approved path, which has been stripped.
      have spaced : Text.isSpace c = true := by simpa using space
      have kept : c ≠ '\\' ∧ c ≠ '/' := by
        constructor <;> rintro rfl <;> revert spaced <;> decide
      have ends : (Text.replaceChar '\\' '/' (Text.stripEnd '/' allowed)).toList.getLast? = some c := by
        rw [toList_replaceChar, List.getLast?_map, Option.mem_def.mp last]
        simp [kept.1]
      have untouched : Text.stripEnd '/' (Text.replaceChar '\\' '/' (Text.stripEnd '/' allowed)) =
          Text.replaceChar '\\' '/' (Text.stripEnd '/' allowed) := by
        apply String.toList_inj.mp
        unfold Text.stripEnd at ends ⊢
        rw [String.toList_ofList]
        apply List.rdropWhile_eq_self_iff.mpr
        intro present
        rw [List.getLast?_eq_some_getLast present] at ends
        simpa [Option.some.inj ends] using kept.2
      have clean := normalizedPath_end file c
      rw [← approved, same, untouched, ends] at clean
      exact space (clean rfl)
  unfold pathComponents
  rw [← approved, same, pathParts_stripEnd, normalizedPath, solid]

end Paths

section Domains

/-- The labels a domain is read as. -/
def domainLabels (runtime : Runtime) (domain : String) : List String :=
  Text.split '.' (Text.stripEnd '.' (runtime.lower (Text.strip domain)))

/-- The policy allows an allowed domain and what lies below it. -/
theorem below_of_domainAllowed {runtime : Runtime} {domain : String} {allowed : List String}
    (holds : domainAllowed runtime domain allowed = true) :
    ∃ configured ∈ allowed, domainLabels runtime configured <:+ domainLabels runtime domain := by
  unfold domainAllowed at holds
  simp only [Bool.and_eq_true, List.any_eq_true, Bool.or_eq_true, beq_iff_eq] at holds
  obtain ⟨-, configured, member, fits⟩ := holds
  exact ⟨configured, member, (Text.split_suffix_iff '.' _ _).mpr fits⟩

end Domains

section Commands

theorem mem_of_commandAllowed {command : String} {allowed : List String} (holds : commandAllowed command allowed = true) :
    Text.strip command ≠ "" ∧ Text.strip command ∈ allowed.map Text.strip := by
  unfold commandAllowed at holds
  simp only [Bool.and_eq_true, bne_iff_ne, List.contains_iff_mem] at holds
  exact ⟨holds.1.1, holds.2⟩

end Commands

/-- The action keeps to the terms of the lease. -/
structure ProposedAction.Under (runtime : Runtime) (action : ProposedAction) (lease : CapabilityLease) : Prop where
  agent : Text.present lease.agentId = true → action.agentId = lease.agentId
  unbound : lease.agentId = none → action.agentId = none
  provider : action.provider = lease.provider
  kind : action.actionType ∈ lease.scope.allowedActions
  repository : action.actionType ∈ repositoryActions → action.repository = some lease.scope.repository
  branch : action.actionType ∈ repositoryActions → action.branch = some lease.scope.branch
  unprotected : runtime.lower (action.branch.getD "") ∉ protectedBranches
  unmerged : (action.metadata.lookup "auto_merge").any Document.truthy = false ∧ lease.scope.allowAutoMerge = false
  ofRun : metadataText runtime lease.scope.metadata "run_id" ≠ "" →
    action.runId = some (metadataText runtime lease.scope.metadata "run_id")
  ofTask : metadataText runtime lease.scope.metadata "task_id" ≠ "" →
    action.taskId = some (metadataText runtime lease.scope.metadata "task_id")
  placed : action.actionType = .modifyFiles → action.paths ≠ []
  paths : ∀ path ∈ action.paths, pathAllowed runtime path lease.scope.allowedPathPrefixes = true
  commanded : action.actionType = .runCommand → Text.present action.command = true
  command : Text.present action.command = true →
    commandAllowed (action.command.getD "") lease.scope.allowedCommands = true
  connected : action.actionType = .accessNetwork → action.networkDomains ≠ []
  domains : ∀ domain ∈ action.networkDomains, domainAllowed runtime domain lease.scope.allowedNetworkDomains = true
  time : lease.consumedRuntimeSeconds + action.estimatedRuntimeSeconds ≤ lease.scope.maxRuntimeSeconds
  cost : lease.consumedCostUsd + action.estimatedCostUsd ≤ lease.scope.maxCostUsd
  retries : action.retryNumber ≤ lease.scope.maxRetries
  pullRequests : action.actionType = .createPullRequest → lease.consumedPullRequests < lease.scope.maxPullRequests

section Terms

variable {runtime : Runtime} {action : ProposedAction} {lease : CapabilityLease} {now : Instant}

theorem reasonIf_eq_nil {condition : Bool} {reason : String} : reasonIf condition reason = [] ↔ condition = false := by
  cases condition <;> simp [reasonIf]

theorem filter_isEmpty {values : List String} {holds : String → Bool} :
    (!(values.filter fun value => !holds value).isEmpty) = false ↔ ∀ value ∈ values, holds value = true := by
  simp [List.filter_eq_nil_iff]

/-- The policy has nothing against the action exactly when it keeps to the terms. -/
theorem termReasons_eq_nil : termReasons runtime action lease = [] ↔ action.Under runtime lease := by
  unfold termReasons
  simp only [List.append_eq_nil_iff, reasonIf_eq_nil, filter_isEmpty]
  constructor
  · rintro ⟨⟨⟨⟨⟨⟨⟨⟨⟨⟨⟨⟨⟨⟨⟨⟨⟨⟨⟨agent, unbound⟩, provider⟩, kind⟩, repository⟩, branch⟩, unprotected⟩, unmerged⟩, ofRun⟩,
      ofTask⟩, placed⟩, paths⟩, commanded⟩, command⟩, connected⟩, domains⟩, time⟩, cost⟩, retries⟩, pullRequests⟩
    constructor <;> simp_all
  · rintro ⟨agent, unbound, provider, kind, repository, branch, unprotected, unmerged, ofRun, ofTask, placed, paths,
      commanded, command, connected, domains, time, cost, retries, pullRequests⟩
    refine ⟨⟨⟨⟨⟨⟨⟨⟨⟨⟨⟨⟨⟨⟨⟨⟨⟨⟨⟨?_, ?_⟩, ?_⟩, ?_⟩, ?_⟩, ?_⟩, ?_⟩, ?_⟩, ?_⟩, ?_⟩, ?_⟩, paths⟩, ?_⟩, ?_⟩, ?_⟩, domains⟩, ?_⟩, ?_⟩, ?_⟩, ?_⟩ <;>
      simp_all

/-- The lease stands behind the action at a time: it is live then, its receipt verifies, and
the action names it and keeps to its terms. -/
structure CapabilityLease.Supports (runtime : Runtime) (lease : CapabilityLease) (action : ProposedAction) (now : Instant) :
    Prop where
  named : action.leaseId = some lease.id
  live : lease.LiveAt now
  signed : verifyPayloadSignature runtime (leaseReceiptPayload lease) lease.receiptSignature = true
  under : action.Under runtime lease

theorem policyReasons_eq_nil : policyReasons runtime action lease now = [] ↔ lease.Supports runtime action now := by
  unfold policyReasons leaseReasons
  simp only [List.append_eq_nil_iff, reasonIf_eq_nil, termReasons_eq_nil]
  constructor
  · rintro ⟨⟨⟨⟨named, active⟩, going⟩, signed⟩, under⟩
    exact ⟨by simpa using named, ⟨by simpa using active, by simpa using going⟩, by simpa using signed, under⟩
  · intro supports
    refine ⟨⟨⟨⟨?_, ?_⟩, ?_⟩, ?_⟩, supports.under⟩
    · simpa using supports.named
    · simpa using supports.live.1
    · simpa using supports.live.2
    · simpa using supports.signed

/-- What the policy lets pass without a lease, and what it lets pass with one: all that
the lease supports, and at once where its mode asks for no human. -/
theorem verdict_passes {given : Option CapabilityLease}
    (passed : (evaluateProposedAction runtime action given now).decision ≠ .block) :
    (given = none ∧ action.actionType ∉ highRiskActions ∧
        (evaluateProposedAction runtime action given now).decision ≠ .allow) ∨
      ∃ lease, given = some lease ∧ lease.Supports runtime action now ∧
        ((evaluateProposedAction runtime action given now).decision = .allow → lease.mode ≠ .strict) := by
  cases given with
  | none =>
    left
    refine ⟨rfl, ?_, no_lease_never_allows runtime action now⟩
    intro risky
    simp [evaluateProposedAction, risky] at passed
  | some lease =>
    right
    refine ⟨lease, rfl, policyReasons_eq_nil.mp ?_, ?_⟩
    · by_contra objected
      simp [evaluateProposedAction, objected] at passed
    · intro allowed strict
      exact strict_never_allows runtime action lease now strict allowed

end Terms

/-- The action is of a kind, and about things, that were approved. -/
structure ProposedAction.Covered (runtime : Runtime) (action : ProposedAction) (approval : ApprovalRequest)
    (task : AgentTask) (domains : List String) : Prop where
  kind : action.actionType ∈ v1AllowedCapabilityActions
  repository : action.repository = task.repository
  branch : action.branch = some approval.targetBranch ∧ action.branch = task.branchPreference
  unprotected : runtime.lower approval.targetBranch ∉ protectedBranches
  unmerged : (action.metadata.lookup "auto_merge").any Document.truthy = false
  paths : ∀ path ∈ action.paths, SafePath runtime path ∧
    ∃ file ∈ approval.files, pathComponents file.path <+: pathComponents path
  command : Text.present action.command = true → ∃ planned ∈ approval.testPlan,
    Text.strip (action.command.getD "") = Text.strip planned
  domains : ∀ domain ∈ action.networkDomains, ∃ configured ∈ domains,
    domainLabels runtime configured <:+ domainLabels runtime domain

section Cover

variable {runtime : Runtime} {action : ProposedAction} {lease : CapabilityLease} {approval : ApprovalRequest}
  {task : AgentTask} {scope : CapabilityScope}

theorem path_covered {path : String} (valid : scope.Valid) (approved : scope.Approved approval task)
    (holds : pathAllowed runtime path scope.allowedPathPrefixes = true) :
    SafePath runtime path ∧ ∃ file ∈ approval.files, pathComponents file.path <+: pathComponents path := by
  obtain ⟨safe, allowed, member, -, below⟩ := pathAllowed_iff.mp holds
  obtain ⟨file, listed, same⟩ := List.mem_map.mp (approved.paths allowed member)
  rw [approved_components (valid.paths allowed member).1 same.symm] at below
  exact ⟨safe, file, listed, below⟩

theorem command_covered {command : String} (approved : scope.Approved approval task)
    (holds : commandAllowed command scope.allowedCommands = true) :
    ∃ planned ∈ approval.testPlan, Text.strip command = Text.strip planned := by
  obtain ⟨allowed, member, same⟩ := List.mem_map.mp (mem_of_commandAllowed holds).2
  obtain ⟨planned, listed, equal⟩ := List.mem_map.mp (approved.commands allowed member).1
  exact ⟨planned, listed, by rw [equal, same]⟩

/-- What keeps to the terms of a lease with an approved scope is covered by the approval. -/
theorem ProposedAction.Under.covered (under : action.Under runtime lease) (valid : scope.Valid)
    (approved : scope.Approved approval task) (terms : lease.scope = { scope with metadata := lease.scope.metadata }) :
    action.Covered runtime approval task scope.allowedNetworkDomains := by
  obtain ⟨-, -, -, kind, repository, branch, unprotected, unmerged, -, -, -, paths, -, command, -, domains, -⟩ := under
  rw [terms] at kind repository branch paths command domains
  have listed : action.actionType ∈ v1AllowedCapabilityActions := valid.actions _ kind
  have onBranch : action.branch = some approval.targetBranch := by
    rw [branch listed]
    exact congrArg some approved.targetBranch
  refine ⟨listed, (repository listed).trans approved.repository, ⟨onBranch, ?_⟩, ?_, unmerged.1, ?_, ?_, ?_⟩
  · rw [branch listed]
    exact approved.taskBranch
  · rw [onBranch] at unprotected
    exact unprotected
  · exact fun path member => path_covered valid approved (paths path member)
  · exact fun given => command_covered approved (command given)
  · exact fun domain member => below_of_domainAllowed (domains domain member)

end Cover

end ControlTower
