import ControlTower.Task.Plans

/-! The files that an accepted plan names. A path is a list of components; the check
reads its text, and many texts denote one path. -/

set_option autoImplicit false

namespace ControlTower

open Foundation

/-- The components of a path, trimmed, with the case of its letters. -/
def FileChange.components (change : FileChange) : List String := pathParts (Text.strip change.path)

/-- The components of a path in lower case. -/
def FileChange.loweredComponents (runtime : Runtime) (change : FileChange) : List String :=
  pathParts (runtime.lower (Text.strip change.path))

/-- The text between two slashes of a path in lower case, as the check reads it. -/
def FileChange.loweredSegments (runtime : Runtime) (change : FileChange) : List String :=
  Text.split '/' (runtime.lower (Text.strip change.path))

def blockedDirectories : List String := [".git", "node_modules", "venv", ".venv", "__pycache__"]

def workflowDirectory : List String := [".github", "workflows"]

/-- A path inside of the repository that is not blocked. -/
structure FileChange.Canonical (runtime : Runtime) (change : FileChange) : Prop where
  nonempty : change.components ≠ []
  relative : Text.startsWith (Text.strip change.path) "/" = false
  inside : ".." ∉ change.components
  directories : ∀ part ∈ change.loweredComponents runtime, part ∉ blockedDirectories
  workflows : (change.loweredComponents runtime).take 2 ≠ workflowDirectory
  filename : ∀ name, (change.loweredComponents runtime).getLast? = some name → name ∉ blockedFilenames

/-- A plan whose paths are safe and denote different files. -/
structure CanonicalPlan (runtime : Runtime) (files : List FileChange) : Prop where
  each : ∀ change ∈ files, change.Canonical runtime
  distinct : (files.map FileChange.components).Nodup

/-- A path that the check reads as it is: it is not the root itself, a blocked directory
is nowhere but at the start of its text, and it leads to the workflows directly, if at all. -/
structure FileChange.Plain (runtime : Runtime) (change : FileChange) : Prop where
  named : change.components ≠ []
  shallow : ∀ segment ∈ (change.loweredSegments runtime).tail, segment ∉ blockedDirectories
  direct : (change.loweredComponents runtime).take 2 = workflowDirectory →
    (change.loweredSegments runtime).take 2 = workflowDirectory

/-- Plain paths, and one spelling for each file. -/
structure PlainPlan (runtime : Runtime) (files : List FileChange) : Prop where
  each : ∀ change ∈ files, change.Plain runtime
  spelled : files.Pairwise fun first second =>
    first.components = second.components → Text.strip first.path = Text.strip second.path

section Accepted

variable {runtime : Runtime}

theorem mem_pathParts {path part : String} : part ∈ pathParts path ↔ part ∈ Text.split '/' path ∧ part ≠ "" ∧ part ≠ "." := by
  unfold pathParts
  simp

/-- What the check of a path tells of it. -/
structure FileChange.Checked (runtime : Runtime) (change : FileChange) : Prop where
  relative : Text.startsWith (Text.strip change.path) "/" = false
  inside : ".." ∉ change.components
  unblocked : ∀ blocked ∈ blockedPathParts, runtime.lower (Text.strip change.path) ≠ blocked ∧
    Text.startsWith (runtime.lower (Text.strip change.path)) (blocked ++ "/") = false
  filename : (change.loweredComponents runtime).getLastD "" ∉ blockedFilenames

theorem checked_of_safe {change : FileChange} (safe : isSafeRelativePath runtime change.path = true) :
    change.Checked runtime := by
  unfold isSafeRelativePath at safe
  simp only [Bool.and_eq_true, Bool.not_eq_true', List.any_eq_false, Bool.or_eq_true, beq_iff_eq, not_or] at safe
  obtain ⟨⟨⟨⟨⟨⟨-, relative⟩, -⟩, inside⟩, -⟩, unblocked⟩, filename⟩ := safe
  refine ⟨relative, ?_, ?_, ?_⟩
  · unfold FileChange.components
    simpa using inside
  · intro blocked member
    obtain ⟨other, apart⟩ := unblocked blocked member
    exact ⟨other, by simpa using apart⟩
  · unfold FileChange.loweredComponents
    simpa using filename

theorem validateFileChange_safe {change : FileChange} (accepted : validateFileChange runtime change = none) :
    isSafeRelativePath runtime change.path = true := by
  unfold validateFileChange at accepted
  by_cases kind : change.kind runtime ∉ allowedChangeTypes
  · rw [if_pos kind] at accepted
    cases accepted
  rw [if_neg kind] at accepted
  by_contra unsafe_
  rw [if_pos (Bool.eq_false_iff.mpr unsafe_)] at accepted
  cases accepted

/-- The paths that are accepted differ as trimmed texts, from each other and from those seen. -/
theorem firstFileFailure_none {seen : List String} {files : List FileChange}
    (accepted : firstFileFailure runtime seen files = none) :
    (∀ change ∈ files, validateFileChange runtime change = none ∧ Text.strip change.path ∉ seen) ∧
      files.Pairwise fun first second => Text.strip first.path ≠ Text.strip second.path := by
  induction files generalizing seen with
  | nil =>
    constructor
    · intro change member
      cases member
    · exact List.Pairwise.nil
  | cons change rest ih =>
    unfold firstFileFailure at accepted
    by_cases known : Text.strip change.path ∈ seen
    · rw [if_pos known] at accepted
      cases accepted
    rw [if_neg known] at accepted
    cases checked : validateFileChange runtime change with
    | some failure =>
      rw [checked] at accepted
      cases accepted
    | none =>
      rw [checked] at accepted
      obtain ⟨each, apart⟩ := ih accepted
      constructor
      · intro other member
        rcases List.mem_cons.mp member with rfl | later
        · exact ⟨checked, known⟩
        · exact ⟨(each other later).1, fun before => (each other later).2 (List.mem_cons_of_mem _ before)⟩
      · refine List.pairwise_cons.mpr ⟨?_, apart⟩
        intro other member same
        exact (each other member).2 (same ▸ List.mem_cons_self)

theorem validateFilePatchPlan_none {approval : ApprovalRequest}
    (accepted : validateFilePatchPlan runtime (some approval) = none) :
    (∀ change ∈ approval.files, change.Checked runtime) ∧
      approval.files.Pairwise fun first second => Text.strip first.path ≠ Text.strip second.path := by
  unfold validateFilePatchPlan at accepted
  dsimp only at accepted
  by_cases empty : approval.files = []
  · rw [if_pos empty] at accepted
    cases accepted
  rw [if_neg empty] at accepted
  by_cases many : maxFileChanges < approval.files.length
  · rw [if_pos many] at accepted
    cases accepted
  rw [if_neg many] at accepted
  obtain ⟨each, apart⟩ := firstFileFailure_none accepted
  exact ⟨fun change member => checked_of_safe (validateFileChange_safe (each change member).1), apart⟩

/-- The check keeps blocked directories from the start of a text. -/
theorem FileChange.Checked.first {change : FileChange} (checked : change.Checked runtime) {directory : String}
    (blocked : directory ∈ blockedDirectories) : (change.loweredSegments runtime).head? ≠ some directory := by
  have whole : '/' ∉ directory.toList := by
    have each : ∀ directory ∈ blockedDirectories, '/' ∉ directory.toList := by decide
    exact each directory blocked
  have listed : directory ∈ blockedPathParts := by
    have each : ∀ directory ∈ blockedDirectories, directory ∈ blockedPathParts := by decide
    exact each directory blocked
  intro first
  obtain ⟨other, apart⟩ := checked.unblocked directory listed
  rcases (Text.head?_split_iff whole).mp first with same | starts
  · exact other same
  · rw [show String.ofList ['/'] = "/" from rfl, apart] at starts
    cases starts

/-- The check keeps the workflows from the start of a text. -/
theorem FileChange.Checked.pair {change : FileChange} (checked : change.Checked runtime) :
    (change.loweredSegments runtime).take 2 ≠ workflowDirectory := by
  intro leads
  obtain ⟨other, apart⟩ := checked.unblocked ".github/workflows" (by decide)
  rcases Text.take_two_split (by decide) leads with same | starts
  · exact other same
  · rw [show ".github" ++ String.ofList ['/'] ++ "workflows" ++ String.ofList ['/'] = ".github/workflows" ++ "/" from by decide,
      apart] at starts
    cases starts

/-- A checked path is canonical exactly if it is plain. -/
theorem FileChange.Checked.canonical_iff {change : FileChange} (checked : change.Checked runtime) :
    change.Canonical runtime ↔ change.Plain runtime := by
  constructor
  · intro canonical
    refine ⟨canonical.nonempty, ?_, fun leads => (canonical.workflows leads).elim⟩
    intro segment member blocked
    have proper : segment ≠ "" ∧ segment ≠ "." := by
      have each : ∀ directory ∈ blockedDirectories, directory ≠ "" ∧ directory ≠ "." := by decide
      exact each segment blocked
    exact canonical.directories segment (mem_pathParts.mpr ⟨List.mem_of_mem_tail member, proper⟩) blocked
  · intro plain
    refine ⟨plain.named, checked.relative, checked.inside, ?_, fun leads => checked.pair (plain.direct leads), ?_⟩
    · intro part member blocked
      have listed : part ∈ change.loweredSegments runtime := (mem_pathParts.mp member).1
      cases segments : change.loweredSegments runtime with
      | nil =>
        rw [segments] at listed
        cases listed
      | cons first rest =>
        rw [segments] at listed
        rcases List.mem_cons.mp listed with rfl | later
        · exact checked.first blocked (by rw [segments, List.head?_cons])
        · exact plain.shallow part (by rw [segments]; exact later) blocked
    · intro name last blocked
      apply checked.filename
      rw [List.getLastD_eq_getLast?, last]
      exact blocked

/-- An accepted plan is canonical exactly if it is plain. -/
theorem accepted_plan_canonical_iff (runtime : Runtime) (approval : ApprovalRequest)
    (accepted : validateFilePatchPlan runtime (some approval) = none) :
    CanonicalPlan runtime approval.files ↔ PlainPlan runtime approval.files := by
  obtain ⟨each, apart⟩ := validateFilePatchPlan_none accepted
  constructor
  · intro canonical
    refine ⟨fun change member => (each change member).canonical_iff.mp (canonical.each change member), ?_⟩
    refine (List.pairwise_map.mp canonical.distinct).imp ?_
    intro first second different same
    exact (different same).elim
  · intro plain
    refine ⟨fun change member => (each change member).canonical_iff.mpr (plain.each change member), ?_⟩
    refine List.pairwise_map.mpr ((apart.and plain.spelled).imp ?_)
    rintro first second ⟨different, spelled⟩ same
    exact different (spelled same)

/-- The check accepts a path that leads to the packages and two texts for one file. -/
def detours : List FileChange :=
  [⟨"app/node_modules/left-pad/index.js", "create", "+x", some "x"⟩, ⟨"docs//example.md", "update", "+a", some "a"⟩,
    ⟨"docs/example.md", "update", "+b", some "b"⟩]

def planOf (files : List FileChange) : ApprovalRequest where
  id := "approval_1"
  projectId := "project_1"
  workOrderId := none
  title := "Change some files"
  summary := ""
  agentName := "agent"
  targetBranch := "feature/files"
  files := files
  testPlan := []
  rollbackPlan := ""
  status := .approved
  risk := ⟨.low, [], false, []⟩
  sourceProvider := .codex
  sourceAgentId := none
  sourceAgentName := none
  sourceSessionId := none
  sourceTaskUrl := none
  createdByUserId := none
  approvedPayloadHash := none
  approvedAt := none
  approvedByUserId := none
  createdAt := 0
  updatedAt := 0

theorem accepted_plan_canonical_iff_detours :
    CanonicalPlan (.plain false) (planOf detours).files ↔ PlainPlan (.plain false) (planOf detours).files :=
  accepted_plan_canonical_iff (.plain false) (planOf detours) (by decide +kernel)

theorem detours_not_canonical : ¬ ∀ (runtime : Runtime) (approval : ApprovalRequest),
    validateFilePatchPlan runtime (some approval) = none → CanonicalPlan runtime approval.files := by
  intro claim
  have canonical := claim (.plain false) (planOf detours) (by decide +kernel)
  have first : (⟨"app/node_modules/left-pad/index.js", "create", "+x", some "x"⟩ : FileChange) ∈ (planOf detours).files :=
    List.mem_cons_self
  exact (canonical.each _ first).directories "node_modules" (by decide +kernel) (by decide)

end Accepted

end ControlTower
