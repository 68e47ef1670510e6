import Mathlib.Logic.Function.Basic
import ControlTower.Approval.System
import ControlTower.Task.Plans

/-! What an execution does to the repository. The hosted repositories answer the
requests of the runner as the GitHub API documents it, or they fail; a branch
that an execution leaves behind is compared with the approved list of files. -/

set_option autoImplicit false

namespace ControlTower

open Foundation
open Foundation.Dialogue
open GitHubProgram

/-- The content under each path. -/
abbrev Tree := String → Option String

structure Repository where
  branches : String → Option Tree
  /-- The content of a commit, by its identifier. -/
  commits : Document → Option Tree

abbrev Hosting := String → Repository

def headSha (ref : Document) : Option Document := (ref.field "object").bind (Document.field "sha")

def Hosting.write (hosting : Hosting) (repo branch : String) (tree : Tree) : Hosting :=
  Function.update hosting repo
    { hosting repo with branches := Function.update (hosting repo).branches branch (some tree) }

/-- A request with its answer. A request that fails changes nothing. -/
inductive Answers : Hosting → GitHubRequest → Except GitHubFailure Document → Hosting → Prop where
  | fails (hosting : Hosting) (request : GitHubRequest) (failure : GitHubFailure) :
      Answers hosting request (.error failure) hosting
  | ref {hosting : Hosting} {repo branch : String} {tree : Tree} {sha found : Document} :
      (hosting repo).branches branch = some tree → headSha found = some sha → (hosting repo).commits sha = some tree →
      Answers hosting (.getRef repo branch) (.ok found) hosting
  | created {hosting : Hosting} {repo ref branch : String} {tree : Tree} {sha : Document} (reply : Document) :
      ref = "refs/heads/" ++ branch → (hosting repo).branches branch = none → (hosting repo).commits sha = some tree →
      Answers hosting (.createRef repo ref sha) (.ok reply) (hosting.write repo branch tree)
  | contents (hosting : Hosting) (repo path ref : String) (reply : Document) :
      Answers hosting (.getContents repo path ref) (.ok reply) hosting
  | put {hosting : Hosting} {repo branch : String} {tree : Tree} (path message content : String)
      (sha : Option Document) (reply : Document) : (hosting repo).branches branch = some tree →
      Answers hosting (.putContents repo path message content branch sha) (.ok reply)
        (hosting.write repo branch (Function.update tree path (some content)))
  | pull (hosting : Hosting) (repo title body head base : String) (reply : Document) :
      Answers hosting (.createPull repo title body head base) (.ok reply) hosting

/-- The fields of an approval that decisions and executions change. -/
def Redecided (approval current : ApprovalRequest) : Prop :=
  ∃ status approvedPayloadHash approvedAt approvedByUserId updatedAt,
    current = { approval with status, approvedPayloadHash, approvedAt, approvedByUserId, updatedAt }

/-- What an execution may find at a call: the approval, perhaps decided anew, and the answers of the API. -/
def Replies (approval : ApprovalRequest) (hosting : Hosting) : (call : GitHubCall) → call.Answer → Hosting → Prop
  | .approval, current, after => Redecided approval current ∧ after = hosting
  | .send request, reply, after => Answers hosting request reply after

def FileChange.Writes (runtime : Runtime) (file : FileChange) : Prop := file.kind runtime ∈ ["create", "update"]

def FileChange.Deletes (runtime : Runtime) (file : FileChange) : Prop := file.kind runtime = "delete"

/-- A branch differs from its start by the listed changes, and by nothing else. -/
structure Exactly (runtime : Runtime) (files : List FileChange) (start final : Tree) : Prop where
  written : ∀ file ∈ files, file.Writes runtime → final file.path = file.newContent
  deleted : ∀ file ∈ files, file.Deletes runtime → final file.path = none
  others : ∀ path, (∀ file ∈ files, file.path = path → ¬ file.Writes runtime ∧ ¬ file.Deletes runtime) →
    final path = start path

/-- The ref that a request changes. -/
def GitHubRequest.writesTo : GitHubRequest → Option String
  | .createRef _ ref _ => some ref
  | .putContents _ _ _ _ branch _ => some ("refs/heads/" ++ branch)
  | _ => none

/-- Every ref that a program may change has a property. -/
def GitHubProgram.ChangesOnly {α : Type} (allowed : String → Prop) (program : GitHubProgram α) : Prop :=
  program.Asks fun call => ∀ request ref, call = .send request → request.writesTo = some ref → allowed ref

/-- The content of the feature branch when an execution begins: its own, or without
a feature branch that of the base branch. -/
def Hosting.startOf (hosting : Hosting) (payload : ExecuteGitHubRequest) : Option Tree :=
  ((hosting payload.repositoryFullName).branches payload.featureBranch).or
    ((hosting payload.repositoryFullName).branches payload.baseBranch)

/-- The execution does what was approved. -/
structure ExecutesApproved (runtime : Runtime) (approval : ApprovalRequest) (payload : ExecuteGitHubRequest) : Prop where
  branch : (executionCalls payload).ChangesOnly fun ref => ref = "refs/heads/" ++ approval.targetBranch
  unprotected : (executionCalls payload).ChangesOnly fun ref => ∀ branch, ref = "refs/heads/" ++ branch →
    runtime.lower (Text.strip branch) ∉ runnerProtectedBranches
  content : ∀ hosting result last, Converses (Replies approval) (executionCalls payload) hosting (.ok result) last →
    ∃ start final, hosting.startOf payload = some start ∧
      (last payload.repositoryFullName).branches payload.featureBranch = some final ∧
      Exactly runtime approval.files start final

/-- The last of the entries for a path. -/
def lastEntry (files : List FileChange) (path : String) : Option FileChange :=
  files.reverse.find? fun file => file.path == path

/-- A list of files that one PUT for each entry carries out: there is no delete, each path
has an entry that writes, and these have the content of the last entry for the path. -/
def Puttable (runtime : Runtime) (files : List FileChange) : Prop :=
  ∀ file ∈ files, ¬ file.Deletes runtime ∧
    (file.Writes runtime → ∀ entry, lastEntry files file.path = some entry → entry.newContent = file.newContent) ∧
    ∃ other ∈ files, other.path = file.path ∧ other.Writes runtime

section Trees

/-- The tree after one PUT for each entry. -/
def putAll (files : List FileChange) (tree : Tree) : Tree :=
  files.foldl (fun tree file => Function.update tree file.path (some (file.newContent.getD ""))) tree

/-- A listed path has the content of its last entry, and every other path is as before. -/
theorem putAll_apply (files : List FileChange) (tree : Tree) (path : String) :
    putAll files tree path = ((lastEntry files path).map fun file => file.newContent.getD "").or (tree path) := by
  induction files using List.reverseRecOn with
  | nil => rfl
  | append_singleton files file ih =>
    have unfolded : putAll (files ++ [file]) tree =
        Function.update (putAll files tree) file.path (some (file.newContent.getD "")) := by
      simp [putAll, List.foldl_append]
    rw [unfolded]
    unfold lastEntry at ih ⊢
    rw [List.reverse_append, List.reverse_singleton, List.singleton_append, List.find?_cons]
    by_cases here : file.path = path
    · subst here
      simp
    · have other : (file.path == path) = false := by simpa using here
      rw [other, Function.update_of_ne (Ne.symm here)]
      exact ih

theorem lastEntry_some {files : List FileChange} {file : FileChange} (member : file ∈ files) :
    ∃ entry, lastEntry files file.path = some entry ∧ entry ∈ files := by
  have found : (lastEntry files file.path).isSome := by
    unfold lastEntry
    rw [List.find?_isSome]
    exact ⟨file, List.mem_reverse.mpr member, by simp⟩
  obtain ⟨entry, same⟩ := Option.isSome_iff_exists.mp found
  exact ⟨entry, same, List.mem_reverse.mp (List.mem_of_find?_eq_some same)⟩

theorem lastEntry_none {files : List FileChange} {path : String} (absent : ∀ file ∈ files, file.path ≠ path) :
    lastEntry files path = none := by
  unfold lastEntry
  rw [List.find?_eq_none]
  intro file member
  simpa using absent file (List.mem_reverse.mp member)

/-- The content that stands under a listed path in the end. -/
theorem putAll_listed {files : List FileChange} (tree : Tree) {file : FileChange} (member : file ∈ files) :
    ∃ entry, lastEntry files file.path = some entry ∧ entry ∈ files ∧
      putAll files tree file.path = some (entry.newContent.getD "") := by
  obtain ⟨entry, same, listed⟩ := lastEntry_some member
  exact ⟨entry, same, listed, by rw [putAll_apply, same]; rfl⟩

theorem present_getD {value : Option String} (present : Text.present value = true) : some (value.getD "") = value := by
  cases value with
  | none => cases present
  | some text => rfl

/-- PUTs carry out exactly the lists that are made for it, whatever the start. -/
theorem exactly_putAll {runtime : Runtime} {files : List FileChange}
    (contents : ∀ file ∈ files, Text.present file.newContent = true) (puttable : Puttable runtime files) (start : Tree) :
    Exactly runtime files start (putAll files start) := by
  constructor
  · intro file member writes
    obtain ⟨entry, last, listed, final⟩ := putAll_listed start member
    rw [final, present_getD (contents entry listed)]
    exact (puttable file member).2.1 writes entry last
  · intro file member deletes
    exact absurd deletes (puttable file member).1
  · intro path elsewhere
    have absent : ∀ file ∈ files, file.path ≠ path := by
      intro file member here
      obtain ⟨other, listed, same, writes⟩ := (puttable file member).2.2
      exact (elsewhere other listed (same.trans here)).1 writes
    rw [putAll_apply, lastEntry_none absent]
    rfl

/-- From an empty tree, PUTs carry out no other list. -/
theorem puttable_of_exactly {runtime : Runtime} {files : List FileChange}
    (contents : ∀ file ∈ files, Text.present file.newContent = true)
    (exactly : Exactly runtime files (fun _ => none) (putAll files fun _ => none)) : Puttable runtime files := by
  intro file member
  obtain ⟨entry, last, listed, final⟩ := putAll_listed (fun _ => none) member
  rw [present_getD (contents entry listed)] at final
  have some_ : entry.newContent ≠ none := by
    intro absent
    have present := contents entry listed
    rw [absent] at present
    cases present
  refine ⟨?_, ?_, ?_⟩
  · intro deletes
    exact some_ (final.symm.trans (exactly.deleted file member deletes))
  · intro writes other same
    rw [last] at same
    cases same
    exact final.symm.trans (exactly.written file member writes)
  · by_contra nobody
    refine some_ (final.symm.trans (exactly.others file.path ?_))
    intro other stands here
    constructor
    · intro writes
      exact nobody ⟨other, stands, here, writes⟩
    · intro deletes
      have gone := exactly.deleted other stands deletes
      rw [here, final] at gone
      exact some_ gone

end Trees

section Conversing

variable {approval : ApprovalRequest} {payload : ExecuteGitHubRequest} {hosting last : Hosting}

@[simp] theorem Hosting.write_branches (repo branch : String) (tree : Tree) :
    ((hosting.write repo branch tree) repo).branches branch = some tree := by
  simp [Hosting.write]

/-- A request that writes nowhere changes nothing. -/
theorem Answers.unchanged {request : GitHubRequest} {reply : Except GitHubFailure Document}
    (answers : Answers hosting request reply last) (reads : request.writesTo = none) : last = hosting := by
  cases answers with
  | created => cases reads
  | put => cases reads
  | _ => rfl

theorem attempt_ok {request : GitHubRequest} {outcome : Except GitHubFailure Document}
    (converses : Converses (Replies approval) (attempt request) hosting (.ok outcome) last) :
    Answers hosting request outcome last := by
  obtain ⟨answer, middle, reply, rest⟩ := converses.of_ask
  obtain ⟨same, rfl⟩ := rest.of_done
  cases same
  exact reply

theorem github_ok {request : GitHubRequest} {found : Document}
    (converses : Converses (Replies approval) (github request) hosting (.ok found) last) :
    Answers hosting request (.ok found) last := by
  obtain ⟨outcome, middle, asked, rest⟩ := converses.of_bind
  cases outcome with
  | ok value =>
    obtain ⟨same, rfl⟩ := rest.of_done
    cases same
    exact attempt_ok asked
  | error failure =>
    obtain ⟨impossible, -⟩ := rest.of_raise
    cases impossible

theorem unlessMissing_ok {outcome : Except GitHubFailure Document} {found : Option Document}
    (converses : Converses (Replies approval) (unlessMissing outcome) hosting (.ok found) last) :
    last = hosting ∧ (∀ value, found = some value → outcome = .ok value) ∧
      (found = none → ∃ detail, outcome = .error (.http 404 detail)) := by
  unfold unlessMissing at converses
  split at converses
  · next value =>
    obtain ⟨same, rfl⟩ := converses.of_done
    cases same
    exact ⟨rfl, fun other equal => by cases equal; rfl, nofun⟩
  · next detail =>
    obtain ⟨same, rfl⟩ := converses.of_done
    cases same
    exact ⟨rfl, nofun, fun _ => ⟨detail, rfl⟩⟩
  · obtain ⟨impossible, -⟩ := converses.of_raise
    cases impossible

theorem item_ok {name : String} {value found : Document}
    (converses : Converses (Replies approval) (item name value) hosting (.ok found) last) :
    last = hosting ∧ value.field name = some found := by
  unfold item at converses
  cases member : value.field name with
  | none =>
    rw [member] at converses
    obtain ⟨impossible, -⟩ := converses.of_raise
    cases impossible
  | some present =>
    rw [member] at converses
    obtain ⟨same, rfl⟩ := converses.of_done
    cases same
    exact ⟨rfl, rfl⟩

theorem existingSha_ok {existing : Option Document} {sha : Document}
    (converses : Converses (Replies approval) (existingSha existing) hosting (.ok sha) last) : last = hosting := by
  unfold existingSha at converses
  cases existing with
  | none => exact converses.of_done.2
  | some value =>
    unfold getItem at converses
    dsimp only at converses
    split at converses
    · exact converses.of_done.2
    · exact converses.of_raise.2

/-- A round of the loop puts one file. -/
theorem applyFile_ok {approvalId : String} {file : FileChange} {commit : Document}
    (converses : Converses (Replies approval) (applyFile payload approvalId file) hosting (.ok commit) last) :
    ∃ tree, (hosting payload.repositoryFullName).branches payload.featureBranch = some tree ∧
      last = hosting.write payload.repositoryFullName payload.featureBranch
        (Function.update tree file.path (some (file.newContent.getD ""))) := by
  unfold applyFile at converses
  obtain ⟨contents, first, asked, search⟩ := converses.of_bind
  obtain ⟨existing, second, searched, reading⟩ := search.of_bind
  obtain ⟨sha, third, read, putting⟩ := reading.of_bind
  have start := (attempt_ok asked).unchanged rfl
  have still := (unlessMissing_ok searched).1
  have same := existingSha_ok read
  subst start still same
  cases github_ok putting with
  | put path message content sha reply present => exact ⟨_, present, rfl⟩

/-- The loop puts every file. -/
theorem applyFiles_ok {approvalId : String} {files : List FileChange} {commit : Option Document} {changed : List String}
    {result : Option Document × List String}
    (converses : Converses (Replies approval) (applyFiles payload approvalId files commit changed) hosting (.ok result) last)
    {tree : Tree} (present : (hosting payload.repositoryFullName).branches payload.featureBranch = some tree) :
    (last payload.repositoryFullName).branches payload.featureBranch = some (putAll files tree) := by
  induction files generalizing hosting commit changed tree with
  | nil =>
    obtain ⟨-, rfl⟩ := converses.of_done
    exact present
  | cons file rest ih =>
    obtain ⟨response, middle, one, others⟩ := converses.of_bind
    obtain ⟨before, stored, rfl⟩ := applyFile_ok one
    rw [present] at stored
    cases stored
    exact ih others (Hosting.write_branches _ _ _)

/-- When the loop begins, the feature branch is there with its start. -/
theorem createMissingBranch_ok {baseTree : Tree} {baseSha : Document} {outcome : Except GitHubFailure Document}
    {known : Option Document} {middle : Hosting}
    (base : (hosting payload.repositoryFullName).branches payload.baseBranch = some baseTree)
    (commit : (hosting payload.repositoryFullName).commits baseSha = some baseTree)
    (asked : Answers hosting (.getRef payload.repositoryFullName payload.featureBranch) outcome middle)
    (searched : ∀ value, known = some value → outcome = .ok value)
    (converses : Converses (Replies approval) (createMissingBranch payload baseSha known) middle (.ok ()) last) :
    ∃ start, hosting.startOf payload = some start ∧
      (last payload.repositoryFullName).branches payload.featureBranch = some start := by
  have still := asked.unchanged rfl
  subst still
  cases known with
  | some value =>
    obtain ⟨-, rfl⟩ := converses.of_done
    rw [searched value rfl] at asked
    cases asked with
    | ref present _ _ => exact ⟨_, by rw [Hosting.startOf, present]; rfl, present⟩
  | none =>
    obtain ⟨reply, middle, created, rest⟩ := converses.of_bind
    obtain ⟨-, rfl⟩ := rest.of_done
    cases github_ok created with
    | created _ named absent held =>
      have same := (String.append_right_inj "refs/heads/").mp named
      subst same
      rw [commit] at held
      cases held
      exact ⟨_, by rw [Hosting.startOf, absent]; exact base, Hosting.write_branches _ _ _⟩

theorem approval_ok {current : ApprovalRequest}
    (converses : Converses (Replies approval) GitHubProgram.approval hosting (.ok current) last) :
    Redecided approval current ∧ last = hosting := by
  obtain ⟨answer, middle, ⟨redecided, rfl⟩, rest⟩ := converses.of_ask
  obtain ⟨same, rfl⟩ := rest.of_done
  cases same
  exact ⟨redecided, rfl⟩

/-- The base branch, with the identifier of its last commit. -/
theorem baseRef_ok {baseRef object baseSha : Document} {middle : Hosting}
    (asked : Converses (Replies approval) (github (.getRef payload.repositoryFullName payload.baseBranch)) hosting
      (.ok baseRef) middle)
    (objectFound : baseRef.field "object" = some object) (shaFound : object.field "sha" = some baseSha) :
    middle = hosting ∧ ∃ tree, (hosting payload.repositoryFullName).branches payload.baseBranch = some tree ∧
      (hosting payload.repositoryFullName).commits baseSha = some tree := by
  cases github_ok asked with
  | ref present head held =>
    unfold headSha at head
    rw [objectFound, Option.bind_some, shaFound] at head
    cases head
    exact ⟨rfl, _, present, held⟩

/-- Where an execution ends well, the feature branch holds its start and the files of the approval. -/
theorem executionCalls_ok {result : Option Document × List String × Document}
    (converses : Converses (Replies approval) (executionCalls payload) hosting (.ok result) last) :
    ∃ start, hosting.startOf payload = some start ∧
      (last payload.repositoryFullName).branches payload.featureBranch = some (putAll approval.files start) := by
  unfold executionCalls at converses
  -- the conversation call by call, with the state of the hosting after each
  obtain ⟨baseRef, h1, baseAsked, rest1⟩ := converses.of_bind
  obtain ⟨object, h2, objectRead, rest2⟩ := rest1.of_bind
  obtain ⟨baseSha, h3, shaRead, rest3⟩ := rest2.of_bind
  obtain ⟨branch, h4, branchAsked, rest4⟩ := rest3.of_bind
  obtain ⟨known, h5, searched, rest5⟩ := rest4.of_bind
  obtain ⟨_, h6, created, rest6⟩ := rest5.of_bind
  obtain ⟨current, h7, seen, rest7⟩ := rest6.of_bind
  obtain ⟨loop, h8, looped, rest8⟩ := rest7.of_bind
  obtain ⟨later, h9, seenAgain, rest9⟩ := rest8.of_bind
  obtain ⟨pull, h10, pulled, rest10⟩ := rest9.of_bind
  obtain ⟨objectSame, objectFound⟩ := item_ok objectRead
  obtain ⟨shaSame, shaFound⟩ := item_ok shaRead
  obtain ⟨baseSame, baseTree, base, commit⟩ := baseRef_ok baseAsked objectFound shaFound
  obtain ⟨searchSame, found, -⟩ := unlessMissing_ok searched
  have branchAnswer := attempt_ok branchAsked
  have branchSame := branchAnswer.unchanged rfl
  -- questions leave the hosting as it is
  subst baseSame objectSame shaSame branchSame searchSame
  obtain ⟨start, begins, ready⟩ := createMissingBranch_ok base commit branchAnswer found created
  obtain ⟨⟨_, _, _, _, _, rfl⟩, seenSame⟩ := approval_ok seen
  subst seenSame
  -- the files are put one after another onto the branch
  have put := applyFiles_ok looped ready
  have againSame := (approval_ok seenAgain).2
  have pullSame := (github_ok pulled).unchanged rfl
  obtain ⟨-, lastSame⟩ := rest10.of_done
  subst lastSame pullSame againSame
  exact ⟨start, begins, put⟩

/-- A repository in which every branch is there and empty. -/
def blankHosting : Hosting := fun _ => ⟨fun _ => some fun _ => none, fun _ => some fun _ => none⟩

def missing : Except GitHubFailure Document := .error (.http 404 "Not Found")

theorem attempt_converses {request : GitHubRequest} {outcome : Except GitHubFailure Document}
    (answers : Answers hosting request outcome last) :
    Converses (Replies approval) (attempt request) hosting (.ok outcome) last :=
  .ask (show Replies approval hosting (.send request) outcome last from answers) (.done _ _)

theorem github_converses {request : GitHubRequest} {found : Document}
    (answers : Answers hosting request (.ok found) last) :
    Converses (Replies approval) (github request) hosting (.ok found) last :=
  Converses.bind (attempt_converses answers) (.done _ _)

theorem approval_converses : Converses (Replies approval) GitHubProgram.approval hosting (.ok approval) hosting :=
  .ask (show Replies approval hosting .approval approval hosting from ⟨⟨_, _, _, _, _, rfl⟩, rfl⟩) (.done _ _)

/-- The loop comes to its end where every PUT succeeds. -/
theorem applyFiles_converses (approvalId : String) (files : List FileChange) (commit : Option Document)
    (changed : List String) {tree : Tree}
    (present : (hosting payload.repositoryFullName).branches payload.featureBranch = some tree) :
    ∃ result last, Converses (Replies approval) (applyFiles payload approvalId files commit changed) hosting (.ok result)
      last := by
  induction files generalizing hosting commit changed tree with
  | nil => exact ⟨_, _, .done _ _⟩
  | cons file rest ih =>
    have one : Converses (Replies approval) (applyFile payload approvalId file) hosting (.ok (.object []))
        (hosting.write payload.repositoryFullName payload.featureBranch
          (Function.update tree file.path (some (file.newContent.getD "")))) := by
      have absent : Converses (Replies approval) (unlessMissing missing) hosting (.ok none) hosting := .done _ _
      have noSha : Converses (Replies approval) (existingSha none) hosting (.ok .null) hosting := .done _ _
      apply Converses.bind (attempt_converses (.fails hosting _ (.http 404 "Not Found")))
      apply Converses.bind absent
      apply Converses.bind noSha
      exact github_converses (.put _ _ _ _ _ present)
    obtain ⟨result, last, others⟩ := ih (some (.object [])) (changed ++ [file.path])
      (Hosting.write_branches payload.repositoryFullName payload.featureBranch _)
    exact ⟨result, last, Converses.bind one others⟩

/-- Some execution comes to its end. -/
theorem executionCalls_converses (approval : ApprovalRequest) (payload : ExecuteGitHubRequest) :
    ∃ result last, Converses (Replies approval) (executionCalls payload) blankHosting (.ok result) last := by
  -- a service that answers every question with one reference
  let baseRef : Document := .object [("object", .object [("sha", .null)])]
  have loop : ∃ result last, Converses (Replies approval) (applyFiles payload approval.id approval.files none [])
      blankHosting (.ok result) last := applyFiles_converses approval.id approval.files none [] rfl
  obtain ⟨result, middle, looped⟩ := loop
  refine ⟨(result.1, result.2, .object []), middle, ?_⟩
  unfold executionCalls
  have refAnswer : ∀ branch, Answers blankHosting (.getRef payload.repositoryFullName branch) (.ok baseRef) blankHosting :=
    fun branch => .ref rfl rfl rfl
  have object : Converses (Replies approval) (item "object" baseRef) blankHosting
      (.ok (.object [("sha", .null)])) blankHosting := .done _ _
  have sha : Converses (Replies approval) (item "sha" (.object [("sha", .null)])) blankHosting (.ok .null) blankHosting :=
    .done _ _
  have known : Converses (Replies approval) (unlessMissing (.ok baseRef)) blankHosting (.ok (some baseRef)) blankHosting :=
    .done _ _
  have kept : Converses (Replies approval) (createMissingBranch payload .null (some baseRef)) blankHosting (.ok ())
      blankHosting := .done _ _
  apply Converses.bind (github_converses (refAnswer payload.baseBranch))
  apply Converses.bind object
  apply Converses.bind sha
  apply Converses.bind (attempt_converses (refAnswer payload.featureBranch))
  apply Converses.bind known
  apply Converses.bind kept
  apply Converses.bind approval_converses
  apply Converses.bind looped
  apply Converses.bind approval_converses
  apply Converses.bind (github_converses (.pull _ _ _ _ _ _ (.object [])))
  exact .done _ _

end Conversing

section Refs

variable {allowed : String → Prop} {payload : ExecuteGitHubRequest}

theorem attempt_changes {request : GitHubRequest} (writes : ∀ ref, request.writesTo = some ref → allowed ref) :
    (attempt request).ChangesOnly allowed := by
  refine ⟨?_, fun _ => trivial⟩
  intro other ref same changes
  cases same
  exact writes ref changes

theorem github_changes {request : GitHubRequest} (writes : ∀ ref, request.writesTo = some ref → allowed ref) :
    (github request).ChangesOnly allowed := by
  apply Asks.bind (attempt_changes writes)
  intro outcome
  cases outcome <;> exact trivial

theorem applyFiles_changes (own : allowed ("refs/heads/" ++ payload.featureBranch)) (approvalId : String)
    (files : List FileChange) (commit : Option Document) (changed : List String) :
    (applyFiles payload approvalId files commit changed).ChangesOnly allowed := by
  induction files generalizing commit changed with
  | nil => exact trivial
  | cons file rest ih =>
    apply Asks.bind
    · apply Asks.bind (attempt_changes nofun)
      intro contents
      apply Asks.bind
      · unfold unlessMissing
        split <;> exact trivial
      intro existing
      apply Asks.bind
      · unfold existingSha getItem
        split
        · split <;> exact trivial
        · exact trivial
      intro sha
      apply github_changes
      intro ref writes
      cases writes
      exact own
    · intro response
      exact ih (some response) (changed ++ [file.path])

/-- An execution changes one ref, that of its feature branch. -/
theorem executionCalls_changes :
    (executionCalls payload).ChangesOnly allowed ↔ allowed ("refs/heads/" ++ payload.featureBranch) := by
  constructor
  · intro changes
    -- up to the creation of the branch every answer can be what it has to be
    have afterBase := changes.2 (.ok (.object [("object", .object [("sha", .null)])]))
    have afterBranch := afterBase.2 missing
    exact afterBranch.1 _ _ rfl rfl
  · intro own
    -- call by call, only the reference of the feature branch is written
    apply Asks.bind (github_changes nofun)
    intro baseRef
    apply Asks.bind
    · unfold item
      split <;> exact trivial
    intro object
    apply Asks.bind
    · unfold item
      split <;> exact trivial
    intro baseSha
    apply Asks.bind (attempt_changes nofun)
    intro branch
    apply Asks.bind
    · unfold unlessMissing
      split <;> exact trivial
    intro known
    apply Asks.bind
    · cases known with
      | some value => exact trivial
      | none =>
        apply Asks.bind
        · apply github_changes
          intro ref writes
          cases writes
          exact own
        · intro _
          exact trivial
    have reads : GitHubProgram.approval.ChangesOnly allowed := ⟨nofun, fun _ => trivial⟩
    intro _
    apply Asks.bind reads
    intro approval
    apply Asks.bind (applyFiles_changes own approval.id approval.files none [])
    intro loop
    apply Asks.bind reads
    intro current
    apply Asks.bind (github_changes nofun)
    intro pull
    exact trivial

end Refs

section Sample

/-- The sample approval with its approver's mark. -/
def approvedFix : ApprovalRequest := requestedFix.approvedBy (.plain false) reviewer 0

/-- The same approval, and a request for another branch. -/
def elsewhereExecution : ExecuteGitHubRequest := { parserExecution with featureBranch := "fix/lexer" }

end Sample

end ControlTower
