import Mathlib.Logic.Relation
import ControlTower.Foundation.Edits
import ControlTower.Task.Claims
import ControlTower.Task.Paths
import ControlTower.Task.Workers

/-! File applications that are tried again. A run of `_apply_file_changes` talks to GitHub,
and any call of it may fail, before or after what it asks for has happened. -/

set_option autoImplicit false

namespace ControlTower

open Foundation
open Foundation.Dialogue
open Relation (ReflTransGen)

/-- The files of a branch, with what they hold. -/
abbrev BranchFiles := String → Option String

/-- The branches of the repositories. -/
abbrev GitHubState := String → String → Option BranchFiles

def GitHubState.put (state : GitHubState) (repository branch : String) (files : BranchFiles) : GitHubState :=
  Function.update state repository (Function.update (state repository) branch (some files))

/-- How GitHub names what it keeps. -/
structure GitHubFiles where
  /-- The file of a branch that a path leads to. -/
  place : String → String
  blobSha : String → String
  commitSha : String → String

/-- What GitHub answers and what changes, or nothing where it refuses the call: a file is
written over the version that the caller has seen, and deleted in that version only. -/
def GitHubFiles.answer (github : GitHubFiles) (state : GitHubState) : (call : ClientCall) → Option (call.Reply × GitHubState)
  | .branchExists repository branch => some ((state repository branch).isSome, state)
  | .getFileSha repository path branch =>
      some (((state repository branch).bind fun files => files (github.place path)).map github.blobSha, state)
  | .createOrUpdateFile repository path branch content message sha =>
      (state repository branch).bind fun files =>
        if (files (github.place path)).map github.blobSha = sha then
          some (github.commitSha message,
            state.put repository branch (Function.update files (github.place path) (some content)))
        else none
  | .deleteFile repository path branch message sha =>
      (state repository branch).bind fun files =>
        if (files (github.place path)).map github.blobSha = some sha then
          some (github.commitSha message, state.put repository branch (Function.update files (github.place path) none))
        else none
  | _ => none

/-- The answers that a run may get. Where the connection is not steady a call may fail
without a trace, and its answer may be lost. -/
inductive GitHubFiles.Replies (github : GitHubFiles) (steady : Prop) :
    GitHubState → (call : TaskCall) → call.Answer → GitHubState → Prop where
  | memory (state : GitHubState) (action : TaskAction) (answer : Except Raised action.Outcome) :
      Replies github steady state (.memory action) answer state
  | answered {state after : GitHubState} (call : ClientCall) (reply : call.Reply)
      (known : github.answer state call = some (reply, after)) : Replies github steady state (.client call) (.ok reply) after
  | refused {state : GitHubState} (call : ClientCall) (message : String) (unknown : github.answer state call = none) :
      Replies github steady state (.client call) (.error (.exception message)) state
  | failed (state : GitHubState) (call : ClientCall) (failure : TaskFailure) (unsteady : ¬ steady) :
      Replies github steady state (.client call) (.error failure) state
  | lost {state after : GitHubState} (call : ClientCall) (failure : TaskFailure) (reply : call.Reply) (unsteady : ¬ steady)
      (known : github.answer state call = some (reply, after)) :
      Replies github steady state (.client call) (.error failure) after

/-- A file change as an edit of the branch. -/
def FileChange.edit (runtime : Runtime) (github : GitHubFiles) (change : FileChange) : Edit String String where
  key := github.place (Text.strip change.path)
  fits entry := if change.kind runtime = "create" then entry.isNone else entry.isSome
  value := if change.kind runtime = "delete" then none else change.newContent

/-- What the plan check leaves of a file change. -/
structure FileChange.Ready (runtime : Runtime) (change : FileChange) : Prop where
  kind : change.kind runtime = "create" ∨ change.kind runtime = "update" ∨ change.kind runtime = "delete"
  content : change.kind runtime ≠ "delete" → change.newContent ≠ none

section Ready

variable {runtime : Runtime}

theorem FileChange.ready {change : FileChange} (valid : validateFileChange runtime change = none) : change.Ready runtime := by
  unfold validateFileChange at valid
  by_cases odd : change.kind runtime ∉ allowedChangeTypes
  · simp [odd] at valid
  by_cases unsafe_ : isSafeRelativePath runtime change.path = false
  · simp [odd, unsafe_] at valid
  by_cases bare : change.kind runtime ∈ ["create", "update"] ∧ change.newContent = none
  · simp [odd, unsafe_, bare] at valid
  have kind : change.kind runtime = "create" ∨ change.kind runtime = "update" ∨ change.kind runtime = "delete" := by
    simpa only [allowedChangeTypes, List.mem_cons, List.not_mem_nil, or_false, not_not] using odd
  refine ⟨kind, fun kept missing => bare ⟨?_, missing⟩⟩
  rcases kind with create | update | delete
  · simp [create]
  · simp [update]
  · exact absurd delete kept

theorem ready_of_accepted {approval : ApprovalRequest} (accepted : validateFilePatchPlan runtime (some approval) = none) :
    ∀ change ∈ approval.files, change.Ready runtime := by
  unfold validateFilePatchPlan at accepted
  by_cases bare : approval.files = []
  · simp [bare] at accepted
  by_cases many : maxFileChanges < approval.files.length
  · simp [bare, many] at accepted
  simp only [bare, many, if_false] at accepted
  exact fun change member => FileChange.ready ((firstFileFailure_none accepted).1 change member).1

/-- Only an update can be made once more. -/
theorem FileChange.Ready.repeats_iff {change : FileChange} (ready : change.Ready runtime) (github : GitHubFiles) :
    (change.edit runtime github).Repeats ↔ change.kind runtime = "update" := by
  unfold Edit.Repeats FileChange.edit
  rcases ready.kind with create | update | delete
  · have content := ready.content (by simp [create])
    simpa [create] using content
  · have content := ready.content (by simp [update])
    simp [update, Option.ne_none_iff_isSome.mp content]
  · simp [delete]

end Ready

section Put

variable {state : GitHubState} {repository branch : String} {files : BranchFiles}

theorem put_put (state : GitHubState) (repository branch : String) (first second : BranchFiles) :
    (state.put repository branch first).put repository branch second = state.put repository branch second := by
  unfold GitHubState.put
  simp

theorem put_same (held : state repository branch = some files) : state.put repository branch files = state := by
  unfold GitHubState.put
  rw [← held, Function.update_eq_self, Function.update_eq_self]

theorem put_found (state : GitHubState) (repository branch : String) (files : BranchFiles) :
    state.put repository branch files repository branch = some files := by
  unfold GitHubState.put
  simp

end Put

section Calls

variable {runtime : Runtime} {github : GitHubFiles} {steady : Prop} {α β : Type} {state last : GitHubState}

/-- How a call goes: it is answered, or GitHub refuses it, or the connection fails. -/
theorem after_client {call : ClientCall} {next : call.Reply → TaskProgram β} {result : Except TaskFailure β}
    (converses : Converses (github.Replies steady) (TaskProgram.client call >>= next) state result last) :
    (∃ reply after, github.answer state call = some (reply, after) ∧
      Converses (github.Replies steady) (next reply) after result last) ∨
    (∃ error, result = .error error) ∧ (last = state ∧ (steady → github.answer state call = none) ∨
      ¬ steady ∧ ∃ reply, github.answer state call = some (reply, last)) := by
  cases converses with
  | ask replies rest =>
    cases replies with
    | answered call reply known => exact .inl ⟨reply, _, known, rest⟩
    | refused call message unknown =>
      cases rest with
      | raise => exact .inr ⟨⟨_, rfl⟩, .inl ⟨rfl, fun _ => unknown⟩⟩
    | failed call failure unsteady =>
      cases rest with
      | raise => exact .inr ⟨⟨_, rfl⟩, .inl ⟨rfl, fun still => absurd still unsteady⟩⟩
    | lost call failure reply unsteady known =>
      cases rest with
      | raise => exact .inr ⟨⟨_, rfl⟩, .inr ⟨unsteady, reply, known⟩⟩

end Calls

/-- How a round goes that is to make an edit: it leaves everything as it was, or it makes the
edit. Where the connection is steady it leaves only an edit that does not fit, and makes
the edit without an error. -/
inductive EditRound {α : Type} (steady : Prop) (edit : Edit String String) (files : BranchFiles) (state made : GitHubState) :
    Except TaskFailure α → GitHubState → Prop where
  | left (error : TaskFailure) (unfit : steady → edit.fits (files edit.key) = false) :
      EditRound steady edit files state made (.error error) state
  | made (result : Except TaskFailure α) (fits : edit.fits (files edit.key) = true)
      (settles : steady → ∃ value, result = .ok value) : EditRound steady edit files state made result made

section Apply

variable {runtime : Runtime} {github : GitHubFiles} {steady : Prop} {state last : GitHubState} {files : BranchFiles}
  {task : AgentTask} {branch : String} {change : FileChange}

/-- The last call of a round, which GitHub does not refuse. -/
theorem last_call {α : Type} {edit : Edit String String} {call : ClientCall} {next : call.Reply → TaskProgram α}
    {result : Except TaskFailure α} {made : GitHubState}
    (converses : Converses (github.Replies steady) (TaskProgram.client call >>= next) state result last)
    (fits : edit.fits (files edit.key) = true) (known : ∃ reply, github.answer state call = some (reply, made))
    (ending : ∀ reply, ∃ value, next reply = .done value) :
    EditRound steady edit files state made result last := by
  obtain ⟨reply, known⟩ := known
  rcases after_client converses with ⟨other, after, same, rest⟩ | ⟨⟨error, rfl⟩, ⟨rfl, refused⟩ | ⟨unsteady, other, same⟩⟩
  · rw [known] at same
    obtain ⟨rfl, rfl⟩ := Prod.mk.inj (Option.some.inj same)
    obtain ⟨value, ends⟩ := ending reply
    rw [ends] at rest
    cases rest with
    | done => exact .made _ fits fun _ => ⟨value, rfl⟩
  · apply EditRound.left
    intro still
    rw [refused still] at known
    cases known
  · rw [known] at same
    obtain ⟨-, rfl⟩ := Prod.mk.inj (Option.some.inj same)
    exact .made _ fits fun still => absurd still unsteady

/-- A round of the loop makes the edit of its change, or leaves the branch as it was. -/
theorem applyFileChange_makes {result : Except TaskFailure GitHubFileApplyItem} (ready : change.Ready runtime)
    (held : state (task.repository.getD "") branch = some files)
    (converses : Converses (github.Replies steady) (applyFileChange runtime task branch change) state result last) :
    EditRound steady (change.edit runtime github) files state
      (state.put (task.repository.getD "") branch ((change.edit runtime github).write files)) result last := by
  -- a kind that does not fit what is there is refused before the second call
  have refusing : ∀ {message : String}, (change.edit runtime github).fits (files (change.edit runtime github).key) = false →
      Converses (github.Replies steady) (TaskProgram.runtimeError message) state result last →
      EditRound steady (change.edit runtime github) files state
        (state.put (task.repository.getD "") branch ((change.edit runtime github).write files)) result last := by
    intro message unfit rest
    cases rest with
    | raise => exact .left _ fun _ => unfit
  unfold applyFileChange at converses
  rcases after_client converses with ⟨reply, after, known, rest⟩ | ⟨⟨error, rfl⟩, ⟨rfl, refused⟩ | ⟨unsteady, reply, known⟩⟩
  · obtain ⟨rfl, rfl⟩ := Prod.mk.inj (Option.some.inj known)
    rw [held, Option.bind_some] at rest
    -- the second call is made exactly where the file is, or is not, there as the kind asks for
    rcases ready.kind with create | update | delete
    · obtain ⟨content, given⟩ := Option.ne_none_iff_exists'.mp (ready.content (by simp [create]))
      cases entry : files (github.place (Text.strip change.path)) with
      | some old =>
        simp [create, entry] at rest
        exact refusing (by simp [FileChange.edit, create, entry]) rest
      | none =>
        simp [create, entry, given] at rest
        refine last_call rest ?_ ?_ fun _ => ⟨_, rfl⟩
        · simp [FileChange.edit, create, entry]
        · refine ⟨github.commitSha (commitMessage runtime change task), ?_⟩
          simp [GitHubFiles.answer, held, entry, Edit.write, FileChange.edit, create, given]
    · obtain ⟨content, given⟩ := Option.ne_none_iff_exists'.mp (ready.content (by simp [update]))
      cases entry : files (github.place (Text.strip change.path)) with
      | none =>
        simp [update, entry] at rest
        exact refusing (by simp [FileChange.edit, update, entry]) rest
      | some old =>
        simp [update, entry, given] at rest
        refine last_call rest ?_ ?_ fun _ => ⟨_, rfl⟩
        · simp [FileChange.edit, update, entry]
        · refine ⟨github.commitSha (commitMessage runtime change task), ?_⟩
          simp [GitHubFiles.answer, held, entry, Edit.write, FileChange.edit, update, given]
    · cases entry : files (github.place (Text.strip change.path)) with
      | none =>
        simp [delete, entry] at rest
        exact refusing (by simp [FileChange.edit, delete, entry]) rest
      | some old =>
        simp [delete, entry] at rest
        refine last_call rest ?_ ?_ fun _ => ⟨_, rfl⟩
        · simp [FileChange.edit, delete, entry]
        · refine ⟨github.commitSha (commitMessage runtime change task), ?_⟩
          simp [GitHubFiles.answer, held, entry, Edit.write, FileChange.edit, delete]
  · -- the first call failed: a steady service does not
    exact .left _ fun still => by cases refused still
  · obtain ⟨-, rfl⟩ := Prod.mk.inj (Option.some.inj known)
    exact .left _ fun still => absurd still unsteady

/-- The loop over the changes is a run of their edits. -/
theorem applyEach_runs {changes : List FileChange} {items : List GitHubFileApplyItem}
    {result : Except TaskFailure (List GitHubFileApplyItem)} (ready : ∀ change ∈ changes, change.Ready runtime)
    (held : state (task.repository.getD "") branch = some files)
    (converses : Converses (github.Replies steady) (applyEach runtime task branch changes items) state result last) :
    ∃ ended after, EditRun steady (changes.map (FileChange.edit runtime github)) files ended after ∧
      last = state.put (task.repository.getD "") branch after ∧ (ended = true ↔ ∃ value, result = .ok value) := by
  induction changes generalizing state files items with
  | nil =>
    cases converses with
    | done => exact ⟨true, files, .finished files, (put_same held).symm, by simp⟩
  | cons change rest ih =>
    unfold applyEach at converses
    have here := ready change List.mem_cons_self
    rcases converses.splits with ⟨item, middle, first, more⟩ | ⟨error, rfl, first⟩
    · generalize same : (Except.ok item : Except TaskFailure GitHubFileApplyItem) = outcome at first
      cases applyFileChange_makes here held first with
      | left error unfit => cases same
      | made outcome fits settles =>
        obtain ⟨ended, after, run, put, ends⟩ := ih (fun other member => ready other (List.mem_cons_of_mem _ member))
          (put_found state _ branch _) more
        rw [put_put] at put
        exact ⟨ended, after, .edited fits run, put, ends⟩
    · -- the change failed, so the round ends here
      generalize same : (Except.error error : Except TaskFailure GitHubFileApplyItem) = outcome at first
      have failing : (false = true ↔ ∃ value, (Except.error error : Except TaskFailure (List GitHubFileApplyItem)) = .ok value) := by
        simp
      cases applyFileChange_makes here held first with
      | left error unfit =>
        -- nothing was written: either the change does not fit or the service is unsteady
        refine ⟨false, files, ?_, (put_same held).symm, failing⟩
        by_cases still : steady
        · exact .refused (unfit still)
        · exact .stopped _ _ still
      | made outcome fits settles =>
        -- the change was written and the call failed all the same, which only an unsteady service does
        have unsteady : ¬ steady := by
          intro still
          obtain ⟨value, made⟩ := settles still
          rw [made] at same
          cases same
        exact ⟨false, _, .edited fits (.stopped _ _ unsteady), rfl, failing⟩

/-- The whole of `_apply_file_changes` is a run of the edits of the approved changes. -/
theorem fileCalls_runs {approval : ApprovalRequest} {result : Except TaskFailure GitHubFileApplyResult}
    (ready : ∀ change ∈ approval.files, change.Ready runtime)
    (held : state (task.repository.getD "") (plannedBranchForTask runtime task) = some files)
    (converses : Converses (github.Replies steady) (fileCalls runtime task (some approval)) state result last) :
    ∃ ended after, EditRun steady (approval.files.map (FileChange.edit runtime github)) files ended after ∧
      last = state.put (task.repository.getD "") (plannedBranchForTask runtime task) after ∧
      (ended = true ↔ ∃ value, result = .ok value) := by
  unfold fileCalls at converses
  rcases after_client converses with ⟨reply, after, known, rest⟩ | ⟨⟨error, rfl⟩, ⟨rfl, refused⟩ | ⟨unsteady, reply, known⟩⟩
  · obtain ⟨rfl, rfl⟩ := Prod.mk.inj (Option.some.inj known)
    simp only [held, Option.isSome_some, Bool.true_eq_false, if_false] at rest
    rcases rest.splits with ⟨items, middle, applied, more⟩ | ⟨error, rfl, applied⟩
    · obtain ⟨ended, after, run, put, ends⟩ := applyEach_runs ready held applied
      cases more with
      | done => exact ⟨ended, after, run, put, ends.trans ⟨fun _ => ⟨_, rfl⟩, fun _ => ⟨items, rfl⟩⟩⟩
    · obtain ⟨ended, after, run, put, ends⟩ := applyEach_runs ready held applied
      refine ⟨ended, after, run, put, ends.trans ⟨?_, ?_⟩⟩
      · rintro ⟨value, impossible⟩
        cases impossible
      · rintro ⟨value, impossible⟩
        cases impossible
  · refine ⟨false, files, .stopped _ _ fun still => ?_, (put_same held).symm, by simp⟩
    cases refused still
  · obtain ⟨-, rfl⟩ := Prod.mk.inj (Option.some.inj known)
    exact ⟨false, files, .stopped _ _ unsteady, (put_same held).symm, by simp⟩

end Apply

section Retry

variable {runtime : Runtime} {github : GitHubFiles} {task : AgentTask} {approval : ApprovalRequest}

/-- One run of the file application, in which any call may fail. -/
def FilesTried (runtime : Runtime) (github : GitHubFiles) (task : AgentTask) (approval : ApprovalRequest)
    (before after : GitHubState) : Prop :=
  ∃ result, Converses (github.Replies False) (fileCalls runtime task (some approval)) before result after

/-- GitHub over a steady connection. -/
def GitHubFiles.partner (github : GitHubFiles) (state : GitHubState) : (call : TaskCall) → call.Answer × GitHubState
  | .memory _ => (.error (.http 500 ""), state)
  | .client call =>
      match github.answer state call with
      | some (reply, after) => (.ok reply, after)
      | none => (.error (.exception ""), state)

theorem partner_replies (github : GitHubFiles) (steady : Prop) (state : GitHubState) (call : TaskCall) :
    github.Replies steady state call (github.partner state call).1 (github.partner state call).2 := by
  cases call with
  | memory action => exact .memory state action _
  | client call =>
    simp only [GitHubFiles.partner]
    cases known : github.answer state call with
    | none => exact .refused call "" known
    | some answer => exact .answered call answer.1 known

/-- After any number of runs, the branch holds the first of the changes and no others. -/
theorem tried_prefix {state later : GitHubState} {files : BranchFiles} (ready : ∀ change ∈ approval.files, change.Ready runtime)
    (apart : Apart (approval.files.map (FileChange.edit runtime github)))
    (held : state (task.repository.getD "") (plannedBranchForTask runtime task) = some files)
    (tried : ReflTransGen (FilesTried runtime github task approval) state later) :
    ∃ count ≤ approval.files.length, later = state.put (task.repository.getD "") (plannedBranchForTask runtime task)
      (writeAll ((approval.files.map (FileChange.edit runtime github)).take count) files) := by
  induction tried with
  | refl => exact ⟨0, Nat.zero_le _, (put_same held).symm⟩
  | tail _ run ih =>
    obtain ⟨count, within, rfl⟩ := ih
    obtain ⟨result, converses⟩ := run
    obtain ⟨ended, after, edits, put, -⟩ := fileCalls_runs ready (put_found state _ _ _) converses
    obtain ⟨more, -, bounded, written, -⟩ := edits.goesOn apart (by rwa [List.length_map])
    rw [List.length_map] at bounded
    exact ⟨more, bounded, by rw [put, put_put, written]⟩

theorem repeats_edits {changes : List FileChange} (ready : ∀ change ∈ changes, change.Ready runtime) (count : Nat) :
    (∀ edit ∈ (changes.map (FileChange.edit runtime github)).take count, edit.Repeats) ↔
      ∀ change ∈ changes.take count, change.kind runtime = "update" := by
  rw [← List.map_take, List.forall_mem_map]
  exact forall₂_congr fun change member => (ready change (List.mem_of_mem_take member)).repeats_iff github

/-- A run that succeeds over a steady connection finds the branch, and what each edit asks for. -/
theorem once_fits {state whole : GitHubState} {made : GitHubFileApplyResult}
    (ready : ∀ change ∈ approval.files, change.Ready runtime)
    (apart : Apart (approval.files.map (FileChange.edit runtime github)))
    (once : Converses (github.Replies True) (fileCalls runtime task (some approval)) state (.ok made) whole) :
    ∃ files, state (task.repository.getD "") (plannedBranchForTask runtime task) = some files ∧
      (∀ edit ∈ approval.files.map (FileChange.edit runtime github), edit.fits (files edit.key) = true) ∧
      whole = state.put (task.repository.getD "") (plannedBranchForTask runtime task)
        (writeAll (approval.files.map (FileChange.edit runtime github)) files) := by
  cases held : state (task.repository.getD "") (plannedBranchForTask runtime task) with
  | none =>
    unfold fileCalls at once
    rcases after_client once with ⟨reply, after, known, rest⟩ | ⟨⟨error, impossible⟩, -⟩
    · obtain ⟨rfl, rfl⟩ := Prod.mk.inj (Option.some.inj known)
      simp only [held, Option.isSome_none, if_true] at rest
      cases rest
    · cases impossible
  | some files =>
    obtain ⟨ended, after, run, put, ends⟩ := fileCalls_runs ready held once
    obtain ⟨count, makes⟩ := run.makes apart
    have complete := makes.complete (ends.mpr ⟨made, rfl⟩)
    have fitted := makes.fitted
    have written := makes.written
    rw [complete, List.take_length] at fitted written
    exact ⟨files, rfl, fitted, by rw [put, written]⟩

end Retry

section Sample

/-- A new file and a change to an old one. -/
def sampleChanges : List FileChange :=
  [⟨"app/new.py", "create", "+x", some "x"⟩, ⟨"app/main.py", "update", "+a", some "a"⟩]

def plainFiles : GitHubFiles where
  place path := path
  blobSha content := content
  commitSha message := message

/-- A repository whose branch has the old file only. -/
def sampleBranches : GitHubState := fun _ branch =>
  if branch = plannedBranchForTask (.plain false) greetingTask then
    some fun path => if path = "app/main.py" then some "old" else none
  else none

/-- A connection that fails when the old file is looked up. -/
def failingPartner (state : GitHubState) : (call : TaskCall) → call.Answer × GitHubState
  | .client (.getFileSha repository path branch) =>
      if path = "app/main.py" then (.error (.exception "timeout"), state)
      else plainFiles.partner state (.client (.getFileSha repository path branch))
  | call => plainFiles.partner state call

theorem failingPartner_replies (state : GitHubState) (call : TaskCall) :
    plainFiles.Replies False state call (failingPartner state call).1 (failingPartner state call).2 := by
  unfold failingPartner
  split
  · split
    · exact .failed state _ _ id
    · exact partner_replies plainFiles False state _
  · exact partner_replies plainFiles False state call

end Sample

end ControlTower
