import Mathlib.Order.Bounds.Basic
import ControlTower.Models

/-! The risk assessment of approval requests: a loop over the files that keeps the
highest level so far and stops at a file that blocks the request. -/

set_option autoImplicit false

namespace ControlTower

open Foundation

section Levels

def RiskLevel.rank : RiskLevel → Nat
  | .low => 0
  | .medium => 1
  | .high => 2
  | .critical => 3
  | .blocked => 4

theorem RiskLevel.rank_injective : Function.Injective RiskLevel.rank := by
  intro first second same
  cases first <;> cases second <;> first | rfl | cases same

/-- Levels in the order of their severity. -/
instance : LinearOrder RiskLevel := LinearOrder.lift' RiskLevel.rank RiskLevel.rank_injective

theorem RiskLevel.low_le (level : RiskLevel) : .low ≤ level := by
  cases level <;> decide

theorem RiskLevel.medium_le {level : RiskLevel} (raised : level ≠ .low) : .medium ≤ level := by
  cases level with
  | low => exact absurd rfl raised
  | medium | high | critical | blocked => decide

theorem RiskLevel.le_high {level : RiskLevel} (bounded : level ≤ .critical) (below : level ≠ .critical) : level ≤ .high := by
  cases level with
  | low | medium | high => decide
  | critical => exact absurd rfl below
  | blocked => exact absurd bounded (by decide)

theorem RiskLevel.le_blocked (level : RiskLevel) : level ≤ .blocked := by
  cases level <;> decide

end Levels

section Assessment

variable (runtime : Runtime)

def blockedBranches : List String := ["main", "master", "production", "release"]

def blockedPathMarkers : List String :=
  [".env", "secret", "credential", "token", ".pem", ".key", "id_rsa", "secrets.yaml"]

def criticalPathMarkers : List String := ["execution", "broker", "order", "payment", "risk_manager", "auth", "policy"]

def highPathMarkers : List String := ["database", "migration", "deploy", "workflow", "ci", "security"]

def lowPathMarkers : List String := ["readme", "docs/", "examples/"]

/-- `any(marker in path for marker in markers)`. -/
def marked (path : String) (markers : List String) : Bool := markers.any (Text.contains path)

def blockedAssessment (reason requiredAction : String) : RiskAssessment where
  level := .blocked
  reasons := [reason]
  blocked := true
  requiredActions := [requiredAction]

/-- One round of the loop; it ends the assessment where the file blocks the request. -/
def assessFile (change : FileChange) (highest : RiskLevel) (reasons : List String) :
    Except RiskAssessment (RiskLevel × List String) :=
  let path := runtime.lower change.path
  if marked path blockedPathMarkers then
    .error (blockedAssessment s!"Sensitive file path is blocked: {change.path}"
      "Remove secrets or credential files from the request.")
  else if Text.strip change.diff = "" then
    .error (blockedAssessment s!"Missing diff for file: {change.path}" "Provide a visible diff before approval.")
  else if marked path criticalPathMarkers then
    .ok (.critical, reasons ++ [s!"Critical path touched: {change.path}"])
  else if marked path highPathMarkers ∧ highest ≠ .critical then
    .ok (.high, reasons ++ [s!"High-risk path touched: {change.path}"])
  else if marked path lowPathMarkers then
    .ok (highest, reasons ++ [s!"Low-risk documentation/example path touched: {change.path}"])
  else if highest = .low then
    .ok (.medium, reasons ++ [s!"Application code or unknown path touched: {change.path}"])
  else .ok (highest, reasons)

def assessFiles : List FileChange → RiskLevel → List String → Except RiskAssessment (RiskLevel × List String)
  | [], highest, reasons => .ok (highest, reasons)
  | change :: rest, highest, reasons => do
      let (highest, reasons) ← assessFile runtime change highest reasons
      assessFiles rest highest reasons

/-- What a request of a high level lacks. -/
def missingPlans (payload : ApprovalRequestCreate) (highest : RiskLevel) : List String :=
  if highest = .high ∨ highest = .critical then
    (if payload.testPlan = [] then ["Add a test plan before approval."] else []) ++
      (if Text.strip payload.rollbackPlan = "" then ["Add a rollback plan before approval."] else [])
  else []

def assessApprovalRequest (payload : ApprovalRequestCreate) : RiskAssessment :=
  let branch := Text.strip (runtime.lower payload.targetBranch)
  if blockedBranches.contains branch then
    blockedAssessment s!"Direct edits to protected branch '{payload.targetBranch}' are blocked."
      "Create a feature branch before requesting approval."
  else if payload.files = [] then
    blockedAssessment "Approval request has no file changes." "Attach at least one file diff."
  else
    match assessFiles runtime payload.files .low [] with
    | .error assessment => assessment
    | .ok (highest, reasons) =>
        { level := highest
          reasons := if reasons = [] then ["No risky markers found; defaulted to LOW."] else reasons
          blocked := false
          requiredActions := missingPlans payload highest }

end Assessment

section Loop

variable {runtime : Runtime}

/-- A file that blocks every request that it is part of. -/
def FileChange.Blocks (runtime : Runtime) (change : FileChange) : Prop :=
  marked (runtime.lower change.path) blockedPathMarkers = true ∨ Text.strip change.diff = ""

/-- The level of a file on its own. -/
def FileChange.level (runtime : Runtime) (change : FileChange) : RiskLevel :=
  let path := runtime.lower change.path
  if marked path criticalPathMarkers then .critical
  else if marked path highPathMarkers then .high
  else if marked path lowPathMarkers then .low
  else .medium

theorem assessFile_blocked {change : FileChange} (blocks : change.Blocks runtime) (highest : RiskLevel)
    (reasons : List String) : ∃ reason action,
      assessFile runtime change highest reasons = .error (blockedAssessment reason action) := by
  unfold assessFile
  dsimp only
  by_cases sensitive : marked (runtime.lower change.path) blockedPathMarkers = true
  · rw [if_pos sensitive]
    exact ⟨_, _, rfl⟩
  · rw [if_neg sensitive, if_pos (blocks.resolve_left sensitive)]
    exact ⟨_, _, rfl⟩

/-- A file that does not block raises the highest level to its own. -/
theorem assessFile_level {change : FileChange} (free : ¬ change.Blocks runtime) {highest : RiskLevel}
    (open_ : highest ≤ .critical) (reasons : List String) : ∃ noted,
      assessFile runtime change highest reasons = .ok (max highest (change.level runtime), noted) := by
  -- the change does not block, so the assessment goes on
  have harmless : ¬ marked (runtime.lower change.path) blockedPathMarkers = true := fun sensitive => free (.inl sensitive)
  have shown : ¬ Text.strip change.diff = "" := fun missing => free (.inr missing)
  unfold assessFile FileChange.level
  dsimp only
  rw [if_neg harmless, if_neg shown]
  by_cases critical : marked (runtime.lower change.path) criticalPathMarkers = true
  · rw [if_pos critical, if_pos critical, max_eq_right open_]
    exact ⟨_, rfl⟩
  rw [if_neg critical, if_neg critical]
  by_cases high : marked (runtime.lower change.path) highPathMarkers = true
  · rw [if_pos high]
    by_cases top : highest = .critical
    · -- The markers below are still looked at, but they no longer raise the level.
      subst top
      rw [if_neg fun both => both.2 rfl, max_eq_left (by decide)]
      by_cases low : marked (runtime.lower change.path) lowPathMarkers = true
      · rw [if_pos low]
        exact ⟨_, rfl⟩
      · rw [if_neg low, if_neg (by decide)]
        exact ⟨_, rfl⟩
    · rw [if_pos ⟨high, top⟩, max_eq_right (RiskLevel.le_high open_ top)]
      exact ⟨_, rfl⟩
  · rw [if_neg high, if_neg fun both => high both.1]
    by_cases low : marked (runtime.lower change.path) lowPathMarkers = true
    · rw [if_pos low, if_pos low, max_eq_left (RiskLevel.low_le highest)]
      exact ⟨_, rfl⟩
    · rw [if_neg low, if_neg low]
      -- without a marker a change raises the lowest level to the next one
      by_cases first : highest = .low
      · subst first
        rw [if_pos rfl, max_eq_right (by decide)]
        exact ⟨_, rfl⟩
      · rw [if_neg first, max_eq_left (RiskLevel.medium_le first)]
        exact ⟨_, rfl⟩

/-- The level of a file is an open one. -/
theorem FileChange.level_le (change : FileChange) : change.level runtime ≤ .critical := by
  unfold FileChange.level
  dsimp only
  split
  · decide
  split
  · decide
  split <;> decide

theorem assessFiles_blocked {files : List FileChange} (blocks : ∃ change ∈ files, change.Blocks runtime) {highest : RiskLevel}
    (open_ : highest ≤ .critical) (reasons : List String) : ∃ reason action,
      assessFiles runtime files highest reasons = .error (blockedAssessment reason action) := by
  induction files generalizing highest reasons with
  | nil =>
    obtain ⟨change, member, -⟩ := blocks
    cases member
  | cons change rest ih =>
    by_cases here : change.Blocks runtime
    · obtain ⟨reason, action, stopped⟩ := assessFile_blocked here highest reasons
      refine ⟨reason, action, ?_⟩
      unfold assessFiles
      rw [stopped]
      rfl
    · obtain ⟨noted, raised⟩ := assessFile_level here open_ reasons
      have later : ∃ other ∈ rest, other.Blocks runtime := by
        obtain ⟨other, member, blocked⟩ := blocks
        rcases List.mem_cons.mp member with rfl | further
        · exact absurd blocked here
        · exact ⟨other, further, blocked⟩
      obtain ⟨reason, action, stopped⟩ := ih later (max_le open_ change.level_le) noted
      refine ⟨reason, action, ?_⟩
      unfold assessFiles
      rw [raised]
      exact stopped

/-- The highest level of files, from a first level on. -/
def highestLevel (runtime : Runtime) (files : List FileChange) (start : RiskLevel) : RiskLevel :=
  files.foldl (fun highest change => max highest (change.level runtime)) start

theorem assessFiles_level {files : List FileChange} (free : ∀ change ∈ files, ¬ change.Blocks runtime)
    {highest : RiskLevel} (open_ : highest ≤ .critical) (reasons : List String) : ∃ noted,
      assessFiles runtime files highest reasons = .ok (highestLevel runtime files highest, noted) := by
  induction files generalizing highest reasons with
  | nil => exact ⟨reasons, rfl⟩
  | cons change rest ih =>
    obtain ⟨first, raised⟩ := assessFile_level (free change List.mem_cons_self) open_ reasons
    obtain ⟨noted, done⟩ := ih (fun other member => free other (List.mem_cons_of_mem _ member))
      (max_le open_ change.level_le) first
    refine ⟨noted, ?_⟩
    unfold assessFiles
    rw [raised]
    exact done

/-- The highest level is the least one above the first level and the levels of the files. -/
theorem highestLevel_le {files : List FileChange} {start bound : RiskLevel} :
    highestLevel runtime files start ≤ bound ↔ start ≤ bound ∧ ∀ change ∈ files, change.level runtime ≤ bound := by
  induction files generalizing start with
  | nil => simp [highestLevel]
  | cons change rest ih =>
    have step : highestLevel runtime (change :: rest) start =
        highestLevel runtime rest (max start (change.level runtime)) := rfl
    rw [step, ih, max_le_iff, List.forall_mem_cons, and_assoc]

end Loop

section Verdict

variable {runtime : Runtime} {payload : ApprovalRequestCreate}

def ProtectedBranch (runtime : Runtime) (payload : ApprovalRequestCreate) : Prop :=
  blockedBranches.contains (Text.strip (runtime.lower payload.targetBranch)) = true

/-- What blocks a request. -/
def ApprovalRequestCreate.Blocked (runtime : Runtime) (payload : ApprovalRequestCreate) : Prop :=
  ProtectedBranch runtime payload ∨ payload.files = [] ∨ ∃ change ∈ payload.files, change.Blocks runtime

theorem assess_blocked (blocked : payload.Blocked runtime) :
    ∃ reason action, assessApprovalRequest runtime payload = blockedAssessment reason action := by
  unfold assessApprovalRequest
  dsimp only
  by_cases guarded : blockedBranches.contains (Text.strip (runtime.lower payload.targetBranch)) = true
  · rw [if_pos guarded]
    exact ⟨_, _, rfl⟩
  rw [if_neg guarded]
  by_cases empty : payload.files = []
  · rw [if_pos empty]
    exact ⟨_, _, rfl⟩
  rw [if_neg empty]
  have blocks := (blocked.resolve_left guarded).resolve_left empty
  obtain ⟨reason, action, stopped⟩ := assessFiles_blocked blocks (by decide : RiskLevel.low ≤ .critical) []
  rw [stopped]
  exact ⟨reason, action, rfl⟩

theorem assess_open (free : ¬ payload.Blocked runtime) :
    (assessApprovalRequest runtime payload).blocked = false ∧
      (assessApprovalRequest runtime payload).level = highestLevel runtime payload.files .low ∧
      (assessApprovalRequest runtime payload).requiredActions =
        missingPlans payload (highestLevel runtime payload.files .low) := by
  unfold assessApprovalRequest
  dsimp only
  have open_ : ¬ blockedBranches.contains (Text.strip (runtime.lower payload.targetBranch)) = true :=
    fun guarded => free (.inl guarded)
  have present : ¬ payload.files = [] := fun empty => free (.inr (.inl empty))
  rw [if_neg open_, if_neg present]
  obtain ⟨noted, done⟩ := assessFiles_level (fun change member blocks => free (.inr (.inr ⟨change, member, blocks⟩)))
    (by decide : RiskLevel.low ≤ .critical) []
  rw [done]
  exact ⟨rfl, rfl, rfl⟩

theorem assess_blocked_iff : (assessApprovalRequest runtime payload).blocked = true ↔ payload.Blocked runtime := by
  by_cases blocked : payload.Blocked runtime
  · obtain ⟨reason, action, same⟩ := assess_blocked blocked
    rw [same]
    exact ⟨fun _ => blocked, fun _ => rfl⟩
  · rw [(assess_open blocked).1]
    exact ⟨Bool.noConfusion, fun holds => absurd holds blocked⟩

/-- The request with one of its files only. -/
def ApprovalRequestCreate.only (payload : ApprovalRequestCreate) (change : FileChange) : ApprovalRequestCreate :=
  { payload with files := [change] }

theorem blocked_only {change : FileChange} (member : change ∈ payload.files) (blocked : (payload.only change).Blocked runtime) :
    payload.Blocked runtime := by
  rcases blocked with guarded | empty | ⟨other, same, blocks⟩
  · exact .inl guarded
  · cases empty
  · rw [List.mem_singleton.mp same] at blocks
    exact .inr (.inr ⟨change, member, blocks⟩)

theorem level_only {change : FileChange} (free : ¬ (payload.only change).Blocked runtime) :
    (assessApprovalRequest runtime (payload.only change)).level = change.level runtime :=
  (assess_open free).2.1.trans (max_eq_right (RiskLevel.low_le _))

theorem highestLevel_attained (files : List FileChange) (start : RiskLevel) :
    highestLevel runtime files start = start ∨ ∃ change ∈ files, change.level runtime = highestLevel runtime files start := by
  induction files generalizing start with
  | nil => exact .inl rfl
  | cons change rest ih =>
    rcases ih (max start (change.level runtime)) with same | ⟨other, member, top⟩
    · rcases max_choice start (change.level runtime) with kept | raised
      · exact .inl (same.trans kept)
      · exact .inr ⟨change, List.mem_cons_self, (same.trans raised).symm⟩
    · exact .inr ⟨other, List.mem_cons_of_mem _ member, top⟩

/-- The level of a request that is not blocked is the highest one of its files. -/
theorem level_greatest (free : (assessApprovalRequest runtime payload).blocked = false) :
    IsGreatest {level | ∃ change ∈ payload.files, (assessApprovalRequest runtime (payload.only change)).level = level}
      (assessApprovalRequest runtime payload).level := by
  have unblocked : ¬ payload.Blocked runtime := by
    rw [← assess_blocked_iff, free]
    exact Bool.noConfusion
  have alone {change : FileChange} (member : change ∈ payload.files) :
      (assessApprovalRequest runtime (payload.only change)).level = change.level runtime :=
    level_only fun blocked => unblocked (blocked_only member blocked)
  have bounds := highestLevel_le.mp (le_refl (highestLevel runtime payload.files .low))
  rw [(assess_open unblocked).2.1]
  constructor
  · rcases @highestLevel_attained runtime payload.files .low with low | ⟨change, member, top⟩
    · cases files : payload.files with
      | nil => exact absurd (.inr (.inl files)) unblocked
      | cons change rest =>
        have member : change ∈ payload.files := files ▸ List.mem_cons_self
        refine ⟨change, List.mem_cons_self, ?_⟩
        rw [← files, low, alone member]
        exact le_antisymm (low ▸ bounds.2 change member) (RiskLevel.low_le _)
    · exact ⟨change, member, (alone member).trans top⟩
  · rintro level ⟨change, member, rfl⟩
    rw [alone member]
    exact bounds.2 change member

/-- Two assessments agree up to their texts. -/
structure SameAssessment (first second : RiskAssessment) : Prop where
  level : first.level = second.level
  blocked : first.blocked = second.blocked
  withheld : first.requiredActions = [] ↔ second.requiredActions = []

theorem highestLevel_mono {files more : List FileChange} (within : files ⊆ more) (start : RiskLevel) :
    highestLevel runtime files start ≤ highestLevel runtime more start := by
  have bounds := highestLevel_le.mp (le_refl (highestLevel runtime more start))
  exact highestLevel_le.mpr ⟨bounds.1, fun change member => bounds.2 change (within member)⟩

theorem ApprovalRequestCreate.Blocked.superset {more : List FileChange} (blocked : payload.Blocked runtime) (within : payload.files ⊆ more)
    (present : payload.files ≠ []) : ({ payload with files := more } : ApprovalRequestCreate).Blocked runtime := by
  rcases blocked with guarded | empty | ⟨change, member, blocks⟩
  · exact .inl guarded
  · exact absurd empty present
  · exact .inr (.inr ⟨change, within member, blocks⟩)

/-- The assessment is a function of the set of the files. -/
theorem assess_same_files {files : List FileChange} (same : ∀ change, change ∈ files ↔ change ∈ payload.files) :
    SameAssessment (assessApprovalRequest runtime { payload with files }) (assessApprovalRequest runtime payload) := by
  have back : files ⊆ payload.files := fun change => (same change).mp
  have forth : payload.files ⊆ files := fun change => (same change).mpr
  have empties : files = [] ↔ payload.files = [] :=
    ⟨fun none => List.subset_nil.mp (none ▸ forth), fun none => List.subset_nil.mp (none ▸ back)⟩
  have blocked : ({ payload with files } : ApprovalRequestCreate).Blocked runtime ↔ payload.Blocked runtime := by
    unfold ApprovalRequestCreate.Blocked
    simp only [empties, same]
    rfl
  by_cases held : payload.Blocked runtime
  · obtain ⟨reason, action, one⟩ := assess_blocked held
    obtain ⟨_, _, other⟩ := assess_blocked (blocked.mpr held)
    rw [one, other]
    exact ⟨rfl, rfl, by simp [blockedAssessment]⟩
  · obtain ⟨open_, level, actions⟩ := assess_open held
    obtain ⟨alsoOpen, other, otherActions⟩ := assess_open (mt blocked.mp held)
    have levels : highestLevel runtime files .low = highestLevel runtime payload.files .low :=
      le_antisymm (highestLevel_mono back _) (highestLevel_mono forth _)
    rw [levels] at other otherActions
    constructor
    · rw [other, level]
    · rw [alsoOpen, open_]
    · rw [otherActions, actions]
      exact Iff.rfl

/-- The assessment depends on the set of the files and rises with it, once there are files. -/
theorem risk_assessment_law (runtime : Runtime) (payload : ApprovalRequestCreate) :
    (∀ files, (∀ change, change ∈ files ↔ change ∈ payload.files) →
      SameAssessment (assessApprovalRequest runtime { payload with files }) (assessApprovalRequest runtime payload)) ∧
    ((assessApprovalRequest runtime payload).blocked = false →
      IsGreatest {level | ∃ change ∈ payload.files, (assessApprovalRequest runtime (payload.only change)).level = level}
        (assessApprovalRequest runtime payload).level) ∧
    ((assessApprovalRequest runtime payload).blocked = true ↔ ProtectedBranch runtime payload ∨ payload.files = [] ∨
      ∃ change ∈ payload.files, (assessApprovalRequest runtime (payload.only change)).blocked = true) ∧
    (payload.files ≠ [] → ∀ more, payload.files ⊆ more →
      (assessApprovalRequest runtime payload).level ≤ (assessApprovalRequest runtime { payload with files := more }).level ∧
      ((assessApprovalRequest runtime payload).blocked = true →
        (assessApprovalRequest runtime { payload with files := more }).blocked = true)) := by
  refine ⟨fun files => assess_same_files, level_greatest, ?_, ?_⟩
  · rw [assess_blocked_iff]
    constructor
    · rintro (guarded | empty | ⟨change, member, blocks⟩)
      · exact .inl guarded
      · exact .inr (.inl empty)
      · refine .inr (.inr ⟨change, member, assess_blocked_iff.mpr (.inr (.inr ⟨change, ?_, blocks⟩))⟩)
        exact List.mem_singleton_self change
    · rintro (guarded | empty | ⟨change, member, blocked⟩)
      · exact .inl guarded
      · exact .inr (.inl empty)
      · exact blocked_only member (assess_blocked_iff.mp blocked)
  · -- more files can only block what was open or raise its level
    intro present more within
    by_cases later : ({ payload with files := more } : ApprovalRequestCreate).Blocked runtime
    · obtain ⟨reason, action, same⟩ := assess_blocked later
      rw [same]
      exact ⟨RiskLevel.le_blocked _, fun _ => rfl⟩
    · have held : ¬ payload.Blocked runtime := fun blocked => later (blocked.superset within present)
      constructor
      · rw [(assess_open held).2.1, (assess_open later).2.1]
        exact highestLevel_mono within .low
      · intro blocked
        exact absurd (assess_blocked_iff.mp blocked) held

/-- A request without files on a feature branch. -/
def emptyRequest : ApprovalRequestCreate where
  projectId := "project_1"
  workOrderId := none
  title := "Docs"
  summary := "Docs"
  agentName := "manual-agent"
  targetBranch := "docs"
  files := []
  testPlan := []
  rollbackPlan := ""
  sourceProvider := none
  sourceAgentId := none
  sourceAgentName := none
  sourceSessionId := none
  sourceTaskUrl := none

def plainChange : FileChange := ⟨"a", "update", "b", none⟩

/-- The first file of a request can unblock it. -/
theorem first_file_unblocks :
    ¬ ∀ (runtime : Runtime) (payload : ApprovalRequestCreate) (change : FileChange),
      (assessApprovalRequest runtime payload).blocked = true →
        (assessApprovalRequest runtime { payload with files := payload.files ++ [change] }).blocked = true := by
  intro always
  have stays := always (Runtime.plain true) emptyRequest plainChange (by decide)
  revert stays
  decide

end Verdict

end ControlTower
