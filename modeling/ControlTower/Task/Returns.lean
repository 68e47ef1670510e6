import ControlTower.Task.Claims

/-! Giving back. A worker operation runs alone with a client or an executor that may
do anything; in the end its task must not carry the lease of the operation and must
not be left at TESTING. -/

set_option autoImplicit false

namespace ControlTower

open Foundation
open Foundation.Procedure
open Foundation.Dialogue
open TaskProgram

/-- The failure of each call of the client or the executor, or none. -/
abbrev Transcript := List (Option TaskFailure)

def failureOf {α : Type} : Except TaskFailure α → Option TaskFailure
  | .ok _ => none
  | .error failure => some failure

/-- An operation alone with the memory and with a client of any behaviour. -/
def Behaves (runtime : Runtime) (state : TaskWorld × Transcript) :
    (call : TaskCall) → call.Answer → TaskWorld × Transcript → Prop
  | .memory action, answer, after =>
      answer = ((action.perform runtime).run state.1).1 ∧ after = (((action.perform runtime).run state.1).2, state.2)
  | .client _, answer, after => after = (state.1, state.2 ++ [failureOf answer])

/-- The operation claims a task under a lease. -/
def Acquires (runtime : Runtime) (request : WorkerRequest) (before : TaskWorld) (task : TaskRef)
    (taskId leaseToken : String) (claimed : TaskWorld) : Prop :=
  (Text.present request.taskId = true ∨ request.firstApproved = true) ∧ ∃ leaseExpiresAt,
    (claimFor runtime request).run before = (.ok (.claimed task taskId leaseToken leaseExpiresAt), claimed)

/-- Neither the task in memory nor its row carries a lease or is left at TESTING. -/
def TaskWorld.Returned (world : TaskWorld) (taskId leaseToken : String) : Prop :=
  (∀ held, world.task? taskId = some held → held.workerLeaseToken ≠ some leaseToken ∧ held.status ≠ .testing) ∧
    ∀ row, world.store.agentTaskRows.get? taskId = some row →
      row.workerLeaseToken ≠ some leaseToken ∧ row.status ≠ .testing

/-- What the operation has claimed is given back in the end. -/
def GivesBack (runtime : Runtime) (request : WorkerRequest) (before after : TaskWorld) : Prop :=
  ∀ task taskId leaseToken claimed, Acquires runtime request before task taskId leaseToken claimed →
    after.Returned taskId leaseToken

/-- The reason for which an operation refuses a claimed task. -/
def WorkerOperation.check (runtime : Runtime) (task : AgentTask) (approval : Option ApprovalRequest) :
    WorkerOperation → Option String
  | .branchCreation sourceBranch => (githubBranchCreation runtime sourceBranch).check task approval
  | .fileApplication => (githubFileApplication runtime).check task approval
  | .pullRequestCreation baseBranch => (githubPrCreation runtime baseBranch).check task approval
  | .validation => validateValidationPlan approval

/-- For a claimed task that is not refused: a validation has an executor that raises
nothing, and another operation has a client, and one that raises only what `except
Exception` catches. -/
def Handled (runtime : Runtime) (operation : WorkerOperation) (clientReady : Bool) (request : WorkerRequest)
    (before : TaskWorld) (transcript : Transcript) : Prop :=
  ∀ task taskId leaseToken claimed, Acquires runtime request before task taskId leaseToken claimed →
    operation.check runtime (claimed.objects task) (claimed.linkedApproval (claimed.objects task)) = none →
      if operation = .validation then ∀ failure, some failure ∉ transcript
      else clientReady = true ∧ some TaskFailure.interrupt ∉ transcript

section Memory

variable {runtime : Runtime} {σ : Type} {replies : TaskWorld × σ → (call : TaskCall) → call.Answer → TaskWorld × σ → Prop}

/-- A partner that answers the actions on the memory as the memory does. -/
def Remembers (runtime : Runtime) (replies : TaskWorld × σ → (call : TaskCall) → call.Answer → TaskWorld × σ → Prop) : Prop :=
  ∀ state action answer after, replies state (.memory action) answer after →
    answer = ((action.perform runtime).run state.1).1 ∧ after = (((action.perform runtime).run state.1).2, state.2)

theorem behaves_remembers (runtime : Runtime) : Remembers runtime (Behaves runtime) := fun _ _ _ _ reply => reply

variable {state last : TaskWorld × σ} {β : Type} {result : Except TaskFailure β}

/-- An action that comes to its end, and what follows it. -/
theorem after_memory (remembers : Remembers runtime replies) {action : TaskAction} {next : action.Outcome → TaskProgram β}
    (converses : Converses replies (memory action >>= next) state result last)
    (post : action.Outcome → TaskWorld → Prop)
    (ends : (action.perform runtime).Ends state.1 fun outcome after => ∃ value, outcome = .ok value ∧ post value after) :
    ∃ value middle, post value middle ∧ Converses replies (next value) (middle, state.2) result last := by
  obtain ⟨value, same, holds⟩ := ends
  cases converses with
  | ask reply rest =>
    obtain ⟨answered, rfl⟩ := remembers _ _ _ _ reply
    rw [answered, same] at rest
    exact ⟨value, _, holds, rest⟩

/-- Reading a task goes on with what was read. -/
theorem after_look (remembers : Remembers runtime replies) {task : TaskRef}
    {next : AgentTask × Option ApprovalRequest → TaskProgram β}
    (converses : Converses replies (memory (.look task) >>= next) state result last) :
    Converses replies (next (state.1.objects task, state.1.linkedApproval (state.1.objects task))) state result last := by
  obtain ⟨read, after, ⟨same, still⟩, rest⟩ := after_memory remembers converses
    (fun read after => read = (state.1.objects task, state.1.linkedApproval (state.1.objects task)) ∧
      after = state.1) ((lookAtTask_ends task).mono fun _ _ done => ⟨_, done.1, rfl, done.2⟩)
  subst same
  subst still
  exact rest

end Memory

section Calls

variable {runtime : Runtime} {state last : TaskWorld × Transcript} {α β : Type}

/-- A program that only calls the client, and lets every failure of a call through;
its own failures are of a kind. -/
def TaskProgram.Forthright (own : TaskFailure → Prop) : TaskProgram α → Prop
  | .done _ => True
  | .raise failure => own failure
  | .ask (.memory _) _ => False
  | .ask (.client call) resume =>
      (∀ failure : TaskFailure, resume (show Except TaskFailure call.Reply from .error failure) = .raise failure) ∧
        ∀ reply : call.Reply, Forthright own (resume (show Except TaskFailure call.Reply from .ok reply))

theorem forthright_bind {own : TaskFailure → Prop} {first : TaskProgram α} {next : α → TaskProgram β}
    (start : first.Forthright own) (rest : ∀ value, (next value).Forthright own) : (first >>= next).Forthright own := by
  induction first with
  | done value => exact rest value
  | raise failure => exact start
  | ask call resume ih =>
    cases call with
    | memory action => exact start.elim
    | client call =>
      obtain ⟨fails, goesOn⟩ := start
      constructor
      · intro failure
        have failing := fails failure
        show resume (show Except TaskFailure call.Reply from .error failure) >>= next = _
        rw [failing]
        rfl
      · intro reply
        exact ih _ (goesOn reply)

theorem forthright_client (own : TaskFailure → Prop) (call : ClientCall) : (client call).Forthright own :=
  ⟨fun _ => rfl, fun _ => trivial⟩

/-- A forthright program leaves the memory alone, and it ends with a failure exactly
if a call fails or it fails by itself. -/
theorem forthright_converses {own : TaskFailure → Prop} {program : TaskProgram α} (forthright : program.Forthright own)
    {result : Except TaskFailure α} (converses : Converses (Behaves runtime) program state result last) :
    last.1 = state.1 ∧ ∃ more, last.2 = state.2 ++ more ∧
      (∀ failure, some failure ∈ more → result = .error failure) ∧
      ∀ failure, result = .error failure → own failure ∨ some failure ∈ more := by
  induction converses with
  | done value state => exact ⟨rfl, [], by simp, by simp, nofun⟩
  | raise failure state =>
    refine ⟨rfl, [], by simp, by simp, ?_⟩
    intro other same
    cases same
    exact .inl forthright
  | @ask call resume answer first middle last result reply rest ih =>
    cases call with
    -- a program of calls alone does nothing in memory
    | memory action => exact forthright.elim
    | client call =>
      obtain ⟨fails, goesOn⟩ := forthright
      have same : middle = (first.1, first.2 ++ [failureOf answer]) := reply
      subst same
      cases answer with
      -- a failed call is raised as it is, so the transcript ends with it
      | error failure =>
        have raised : Converses (Behaves runtime) (.raise failure) (first.1, first.2 ++ [some failure]) result last :=
          fails failure ▸ rest
        obtain ⟨rfl, rfl⟩ := raised.of_raise
        refine ⟨rfl, [some failure], rfl, ?_, ?_⟩
        · intro other member
          cases List.mem_singleton.mp member
          rfl
        · intro other same
          cases same
          exact .inr (List.mem_singleton_self _)
      | ok value =>
        obtain ⟨still, more, extended, failing, reasons⟩ := ih (goesOn value)
        refine ⟨still, none :: more, ?_, ?_, ?_⟩
        · rw [extended]
          simp [failureOf]
        · intro failure member
          exact failing failure (by simpa using member)
        · intro failure same
          rcases reasons failure same with own | told
          · exact .inl own
          · exact .inr (List.mem_cons_of_mem _ told)

/-- A forthright body under `except Exception` comes to its end, except that an
interrupt of a call passes. -/
theorem attempt_handled {body : TaskProgram α} (forthright : body.Forthright (· ≠ .interrupt))
    {result : Except TaskFailure (Except String α)} (converses : Converses (Behaves runtime) (attempt body) state result last) :
    last.1 = state.1 ∧ ∃ more, last.2 = state.2 ++ more ∧
      ((∃ value, result = .ok value ∧ some .interrupt ∉ more) ∨ (result = .error .interrupt ∧ some .interrupt ∈ more)) := by
  have whole : (body >>= fun value => (.done (.ok value) : TaskProgram (Except String α))).Forthright (· ≠ .interrupt) :=
    forthright_bind forthright fun _ => trivial
  rcases converses.of_rescue with ⟨value, rfl, ran⟩ | ⟨failure, middle, ran, handled⟩
  · obtain ⟨still, more, extended, failing, -⟩ := forthright_converses whole ran
    refine ⟨still, more, extended, .inl ⟨value, rfl, ?_⟩⟩
    intro interrupted
    cases failing _ interrupted
  · obtain ⟨still, more, extended, failing, reasons⟩ := forthright_converses whole ran
    by_cases interrupt : failure = .interrupt
    · subst interrupt
      obtain ⟨rfl, rfl⟩ := Converses.of_raise handled
      refine ⟨still, more, extended, .inr ⟨rfl, ?_⟩⟩
      rcases reasons _ rfl with own | told
      · exact (own rfl).elim
      · exact told
    · rw [if_neg interrupt] at handled
      obtain ⟨rfl, rfl⟩ := Converses.of_done handled
      refine ⟨still, more, extended, .inl ⟨_, rfl, ?_⟩⟩
      intro interrupted
      cases failing _ interrupted
      exact interrupt rfl

theorem branchCalls_forthright (sourceBranch : String) (task : AgentTask) :
    (branchCalls runtime sourceBranch task).Forthright (· ≠ .interrupt) := by
  apply forthright_bind (forthright_client _ _)
  intro known
  split
  · exact nofun
  · apply forthright_bind (forthright_client _ _)
    intro sourceSha
    exact forthright_bind (forthright_client _ _) fun _ => trivial

theorem applyFileChange_forthright (task : AgentTask) (branch : String) (change : FileChange) :
    (applyFileChange runtime task branch change).Forthright (· ≠ .interrupt) := by
  apply forthright_bind (forthright_client _ _)
  intro currentSha
  split_ifs
  · exact nofun
  · exact nofun
  · exact nofun
  · split
    · exact nofun
    · exact forthright_bind (forthright_client _ _) fun _ => trivial
  · split
    · exact nofun
    · exact forthright_bind (forthright_client _ _) fun _ => trivial

theorem applyEach_forthright (task : AgentTask) (branch : String) (changes : List FileChange)
    (items : List GitHubFileApplyItem) : (applyEach runtime task branch changes items).Forthright (· ≠ .interrupt) := by
  induction changes generalizing items with
  | nil => exact trivial
  | cons change rest ih =>
    apply forthright_bind (applyFileChange_forthright task branch change)
    intro item
    exact ih (items ++ [item])

theorem fileCalls_forthright (task : AgentTask) (approval : Option ApprovalRequest) :
    (fileCalls runtime task approval).Forthright (· ≠ .interrupt) := by
  apply forthright_bind (forthright_client _ _)
  intro known
  split
  · exact nofun
  · exact forthright_bind (applyEach_forthright task _ _ []) fun _ => trivial

theorem pullRequestCalls_forthright (baseBranch : String) (task : AgentTask) (approval : Option ApprovalRequest) :
    (pullRequestCalls runtime baseBranch task approval).Forthright (· ≠ .interrupt) := by
  apply forthright_bind (forthright_client _ _)
  intro known
  split
  · exact nofun
  · apply forthright_bind (forthright_client _ _)
    intro (opened : Bool)
    cases opened with
    | true => exact nofun
    | false => exact forthright_client _ _

/-- The commands run one after the other, and nothing but a failing executor stops them. -/
theorem runCommands_forthright (commands : List String) (results : List CommandExecutionResult) :
    (runCommands commands results).Forthright fun _ => False := by
  induction commands generalizing results with
  | nil => exact trivial
  | cons command rest ih =>
    apply forthright_bind (forthright_client _ _)
    intro (answer : CommandExecutionResult)
    dsimp only
    split
    · exact ih (results ++ [normalizeResultArtifact answer])
    · exact trivial

end Calls

section Holding

variable {runtime : Runtime} {world : TaskWorld} {task : TaskRef} {taskId leaseToken : String}

/-- The task in memory carries the lease. -/
structure TaskWorld.Holds (world : TaskWorld) (task : TaskRef) (taskId leaseToken : String) : Prop where
  found : world.agentTasks.get? taskId = some task
  lease : (world.objects task).workerLeaseToken = some leaseToken

theorem TaskWorld.Holds.not_returned (holds : world.Holds task taskId leaseToken) : ¬world.Returned taskId leaseToken := by
  intro returned
  have inMemory : world.task? taskId = some (world.objects task) := by
    unfold TaskWorld.task?
    rw [holds.found, Option.map_some]
  exact (returned.1 _ inMemory).1 holds.lease

/-- The object of a claimed task is the leased record of an approved row. -/
theorem Acquires.object {request : WorkerRequest} {before claimed : TaskWorld}
    (acquires : Acquires runtime request before task taskId leaseToken claimed) :
    claimed.agentTasks.get? taskId = some task ∧ ∃ (record : AgentTask) (leaseExpiresAt updatedAt : Instant),
      claimed.objects task = record.leased request.workerId leaseToken leaseExpiresAt updatedAt ∧
        record.id = taskId ∧ record.status = .approved := by
  obtain ⟨-, leaseExpiresAt, ran⟩ := acquires
  have ends : ClaimEnds runtime request.workerId before ((claimFor runtime request).run before).1
      ((claimFor runtime request).run before).2 := claimFor_ends request
  rw [ran] at ends
  rcases ends with ⟨-, _, _, _, impossible⟩ | ⟨record, token, expiry, claims, same⟩
  · cases impossible
  cases same
  have admitted := claims.eligible.1
  obtain ⟨ticks, updatedAt, -, after⟩ := claims.made
  dsimp only at after
  subst after
  have here : ((before.atTick ticks).taken (record.leased request.workerId leaseToken leaseExpiresAt updatedAt)
      ⟨record.id, request.workerId, leaseToken, leaseExpiresAt, false⟩).objects before.allocated =
        record.leased request.workerId leaseToken leaseExpiresAt updatedAt := Function.update_self _ _ _
  constructor
  · exact Table.get?_set_self _ _ _
  · exact ⟨record, leaseExpiresAt, updatedAt, here, rfl, statusFailure_none admitted⟩

/-- A claimed task is held and approved. -/
theorem Acquires.holds {request : WorkerRequest} {before claimed : TaskWorld}
    (acquires : Acquires runtime request before task taskId leaseToken claimed) :
    claimed.Holds task taskId leaseToken ∧ (claimed.objects task).status = .approved := by
  obtain ⟨found, record, leaseExpiresAt, updatedAt, here, -, approved⟩ := acquires.object
  refine ⟨⟨found, ?_⟩, ?_⟩
  · rw [here]
    rfl
  · rw [here]
    exact approved

/-- What comes back after a release and a `persist`. -/
theorem returned_of_release {state last : TaskWorld × Transcript} {β : Type} {result : Except TaskFailure β}
    {next : AgentTask × Option ApprovalRequest → TaskProgram β} (ends : ∀ read, ∃ value, next read = .done value)
    (holds : state.1.Holds task taskId leaseToken) (settled : (state.1.objects task).status ≠ .testing)
    (converses : Converses (Behaves runtime)
      (memory (.release task leaseToken) >>= fun _ => memory .persist >>= fun _ => memory (.look task) >>= next)
      state result last) : last.1.Returned taskId leaseToken ∧ last.2 = state.2 := by
  -- the release, the persist and the last look, one after another
  obtain ⟨_, released, effect, afterRelease⟩ := after_memory (behaves_remembers runtime) converses (fun _ => Released task leaseToken state.1)
    ((releaseTask_ends task leaseToken).mono fun _ _ done => ⟨(), done.1, done.2⟩)
  obtain ⟨_, stored, persisted, afterPersist⟩ := after_memory (behaves_remembers runtime) afterRelease (fun _ => Persisted released)
    (persistTasks_ends.mono fun _ _ done => ⟨(), done.1, done.2⟩)
  obtain ⟨read, final, same, afterLook⟩ := after_memory (behaves_remembers runtime) afterPersist (fun _ after => after = stored)
    ((lookAtTask_ends task).mono fun _ _ done => ⟨_, done.1, done.2⟩)
  obtain ⟨value, done⟩ := ends read
  rw [done] at afterLook
  obtain ⟨-, rfl⟩ := afterLook.of_done
  subst same
  -- the lease is still that of the claim, so the release takes effect
  rcases effect with ⟨-, foreign⟩ | ⟨rewrites, -⟩
  · exact (foreign holds.lease).elim
  obtain ⟨updatedAt, cleared⟩ := rewrites.here
  have inMemory : released.task? taskId = some ((state.1.objects task).unleased updatedAt) := by
    unfold TaskWorld.task?
    rw [rewrites.rest.tasks, holds.found, Option.map_some, cleared]
  have settledNow : ∀ held, released.task? taskId = some held →
      held.workerLeaseToken ≠ some leaseToken ∧ held.status ≠ .testing := by
    intro held found
    rw [inMemory] at found
    cases found
    exact ⟨nofun, settled⟩
  refine ⟨⟨?_, ?_⟩, rfl⟩
  · intro held found
    apply settledNow held
    unfold TaskWorld.task? at found ⊢
    rw [← persisted.tasks, ← persisted.objects]
    exact found
  · intro row found
    apply settledNow row
    rw [persisted.rows, released.get?_tasks] at found
    exact found

end Holding

section Operations

variable {runtime : Runtime} {α : Type} {request : WorkerRequest} {claimed : TaskWorld} {last : TaskWorld × Transcript}
  {task : TaskRef} {taskId leaseToken : String} {result : Except TaskFailure (WorkerResult α)}

/-- An event is always appended. -/
theorem after_append {β : Type} {next : Unit → TaskProgram β} {state : TaskWorld × Transcript}
    {result : Except TaskFailure β} {status : Option AgentTaskStatus} {text : TaskEventText} {actor : String}
    (converses : Converses (Behaves runtime) (memory (.append task status text actor) >>= next) state result last) :
    ∃ after, Rewrites task (Moved status) state.1 after ∧
      Converses (Behaves runtime) (next ()) (after, state.2) result last := by
  obtain ⟨_, after, written, rest⟩ := after_memory (behaves_remembers runtime) converses (fun _ => Rewrites task (Moved status) state.1)
    ((appendTaskEvent_ends task status text actor).mono fun _ _ done => ⟨(), done.1, done.2.1⟩)
  exact ⟨after, written, rest⟩

theorem TaskWorld.Holds.of_moved {before after : TaskWorld} (holds : before.Holds task taskId leaseToken)
    {status : Option AgentTaskStatus} (written : Rewrites task (Moved status) before after) :
    after.Holds task taskId leaseToken where
  found := by rw [written.rest.tasks, holds.found]
  lease := by
    have moved := written.here
    cases status with
    | none =>
      rw [show after.objects task = before.objects task from moved]
      exact holds.lease
    | some status =>
      obtain ⟨updatedAt, same⟩ := moved
      rw [same]
      exact holds.lease

theorem settled_of_moved {before after : TaskWorld} {status : Option AgentTaskStatus} (quiet : status ≠ some .testing)
    (settled : (before.objects task).status ≠ .testing) (written : Rewrites task (Moved status) before after) :
    (after.objects task).status ≠ .testing := by
  have moved := written.here
  cases status with
  | none =>
    rw [show after.objects task = before.objects task from moved]
    exact settled
  | some status =>
    obtain ⟨updatedAt, same⟩ := moved
    rw [same]
    intro testing
    exact quiet (congrArg some testing)

theorem finishedStatus_settled (passed : Bool) : finishedStatus passed ≠ .testing := by
  cases passed <;> decide

theorem giveBack_returns {state : TaskWorld × Transcript} {reason : String} (holds : state.1.Holds task taskId leaseToken)
    (settled : (state.1.objects task).status ≠ .testing)
    (converses : Converses (Behaves runtime) (giveBack request task taskId leaseToken reason) state result last) :
    last.1.Returned taskId leaseToken :=
  (returned_of_release (fun _ => ⟨_, rfl⟩) holds settled converses).1

/-- A GitHub operation gives its claim back exactly if it is refused before the first
call, or it has a client and no call is interrupted. -/
theorem workOn_returns_iff {operation : GitHubOperation α}
    (calls : ∀ task approval, (operation.calls task approval).Forthright (· ≠ .interrupt))
    (quiet : operation.status ≠ some .testing) {clientReady : Bool} (holds : claimed.Holds task taskId leaseToken)
    (approved : (claimed.objects task).status = .approved)
    (converses : Converses (Behaves runtime) (workOn operation clientReady request task taskId leaseToken) (claimed, [])
      result last) :
    last.1.Returned taskId leaseToken ↔
      (operation.check (claimed.objects task) (claimed.linkedApproval (claimed.objects task)) = none →
        clientReady = true ∧ some TaskFailure.interrupt ∉ last.2) := by
  have settled : (claimed.objects task).status ≠ .testing := by
    rw [approved]
    decide
  have looked := after_look (behaves_remembers runtime) converses
  dsimp only at looked
  cases checked : operation.check (claimed.objects task) (claimed.linkedApproval (claimed.objects task)) with
  | some refusal =>
    rw [checked] at looked
    -- a refused operation gives the lease back before it returns
    exact iff_of_true (giveBack_returns holds settled looked) nofun
  | none =>
    rw [checked] at looked
    dsimp only at looked
    by_cases missing : clientReady = false
    · -- without a client the operation raises, and the lease stays
      rw [if_pos missing] at looked
      obtain ⟨-, rfl⟩ := Converses.of_raise looked
      apply iff_of_false holds.not_returned
      intro handled
      rw [missing] at handled
      cases (handled rfl).1
    rw [if_neg missing] at looked
    have ready : clientReady = true := by simpa using missing
    rcases looked.splits with ⟨outcome, middle, tried, rest⟩ | ⟨failure, -, tried⟩
    · obtain ⟨still, more, extended, ended⟩ := attempt_handled (calls _ _) tried
      rcases ended with ⟨value, same, quietly⟩ | ⟨impossible, -⟩
      · cases same
        have heldStill : middle.1.Holds task taskId leaseToken := by
          rw [still]
          exact holds
        have settledStill : (middle.1.objects task).status ≠ .testing := by
          rw [still]
          exact settled
        have given : last.1.Returned taskId leaseToken ∧ last.2 = middle.2 := by
          cases outcome with
          -- an operation that ends, well or not, releases the task
          | error reason => exact returned_of_release (fun _ => ⟨_, rfl⟩) heldStill settledStill rest
          | ok made =>
            obtain ⟨appended, written, goesOn⟩ := after_append rest
            have settledNow := settled_of_moved quiet settledStill written
            apply returned_of_release (fun _ => ⟨_, rfl⟩) _ _ goesOn
            · exact heldStill.of_moved written
            · exact settledNow
        apply iff_of_true given.1
        intro _
        refine ⟨ready, ?_⟩
        rw [given.2, extended]
        simpa using quietly
      · cases impossible
    · -- an interrupt is caught nowhere, so the lease stays
      obtain ⟨still, more, extended, ended⟩ := attempt_handled (calls _ _) tried
      rcases ended with ⟨value, impossible, -⟩ | ⟨-, interrupted⟩
      · cases impossible
      · have heldStill : last.1.Holds task taskId leaseToken := by
          rw [still]
          exact holds
        apply iff_of_false heldStill.not_returned
        intro handled
        apply (handled rfl).2
        rw [extended]
        exact List.mem_append_right _ interrupted

/-- A validation gives its claim back exactly if it is refused before the first
command, or the executor raises nothing. -/
theorem validateTask_returns_iff {result : Except TaskFailure (WorkerResult (List CommandExecutionResult))}
    (holds : claimed.Holds task taskId leaseToken) (approved : (claimed.objects task).status = .approved)
    (converses : Converses (Behaves runtime) (validateTask request task taskId leaseToken) (claimed, []) result last) :
    last.1.Returned taskId leaseToken ↔
      (validateValidationPlan (claimed.linkedApproval (claimed.objects task)) = none →
        ∀ failure, some failure ∉ last.2) := by
  have settled : (claimed.objects task).status ≠ .testing := by
    rw [approved]
    decide
  have looked := after_look (behaves_remembers runtime) converses
  dsimp only at looked
  cases checked : validateValidationPlan (claimed.linkedApproval (claimed.objects task)) with
  | some refusal =>
    rw [checked] at looked
    exact iff_of_true (giveBack_returns holds settled looked) nofun
  | none =>
    rw [checked] at looked
    dsimp only at looked
    obtain ⟨started, written, goesOn⟩ := after_append looked
    have heldStill := holds.of_moved written
    rcases goesOn.splits with ⟨results, middle, ran, rest⟩ | ⟨failure, -, ran⟩
    · -- every command came back, so the verdict is written and the lease released
      obtain ⟨still, more, extended, failing, -⟩ := forthright_converses (runCommands_forthright _ _) ran
      have heldLater : middle.1.Holds task taskId leaseToken := by
        rw [still]
        exact heldStill
      obtain ⟨finished, ended, afterwards⟩ := after_append rest
      have settledNow : (finished.objects task).status ≠ .testing := by
        obtain ⟨updatedAt, same⟩ := ended.here
        rw [same]
        exact finishedStatus_settled _
      have given : last.1.Returned taskId leaseToken ∧ last.2 = middle.2 := by
        apply returned_of_release (fun _ => ⟨_, rfl⟩) _ _ afterwards
        · exact heldLater.of_moved ended
        · exact settledNow
      apply iff_of_true given.1
      intro _ failure told
      rw [given.2] at told
      rw [extended] at told
      cases failing failure (by simpa using told)
    · obtain ⟨still, more, extended, -, reasons⟩ := forthright_converses (runCommands_forthright _ _) ran
      -- a command that raises leaves the lease with the task
      have heldLater : last.1.Holds task taskId leaseToken := by
        rw [still]
        exact heldStill
      apply iff_of_false heldLater.not_returned
      intro quietly
      rcases reasons failure rfl with impossible | told
      · exact impossible
      · apply quietly rfl failure
        rw [extended]
        exact List.mem_append_right _ told

end Operations

section Programs

variable {runtime : Runtime} {α : Type} {request : WorkerRequest} {before : TaskWorld} {last : TaskWorld × Transcript}

/-- The operation ends without a claim, or it goes on with what it has claimed. -/
theorem withClaim_converses {σ : Type} {replies : TaskWorld × σ → (call : TaskCall) → call.Answer → TaskWorld × σ → Prop}
    (remembers : Remembers runtime replies) {work : TaskRef → String → String → TaskProgram (WorkerResult α)}
    {result : Except TaskFailure (WorkerResult α)} {start : σ} {last : TaskWorld × σ}
    (converses : Converses replies (withClaim request work) (before, start) result last) :
    ((∀ task taskId leaseToken claimed, ¬Acquires runtime request before task taskId leaseToken claimed) ∧
        last.2 = start ∧ ∃ report, result = .ok report ∧ report.success = false) ∨
      ∃ task taskId leaseToken claimed, Acquires runtime request before task taskId leaseToken claimed ∧
        Converses replies (work task taskId leaseToken) (claimed, start) result last := by
  unfold withClaim at converses
  by_cases idle : Text.present request.taskId = false ∧ request.firstApproved = false
  · rw [if_pos idle] at converses
    obtain ⟨rfl, rfl⟩ := converses.of_done
    refine .inl ⟨?_, rfl, _, rfl, rfl⟩
    rintro task taskId leaseToken claimed ⟨asked | asked, -⟩
    · rw [idle.1] at asked
      cases asked
    · rw [idle.2] at asked
      cases asked
  · rw [if_neg idle] at converses
    have asked : Text.present request.taskId = true ∨ request.firstApproved = true := by
      by_cases named : Text.present request.taskId = true
      · exact .inl named
      · exact .inr (by simpa using fun first => idle ⟨by simpa using named, first⟩)
    obtain ⟨value, claimed, ran, rest⟩ := after_memory remembers converses
      (fun value after => (claimFor runtime request).run before = (.ok value, after))
      (claimFor_comes runtime request before)
    cases value with
    | refused task taskId reason =>
      obtain ⟨rfl, rfl⟩ := Converses.of_done rest
      refine .inl ⟨?_, rfl, _, rfl, rfl⟩
      -- the claim was refused, so nothing can have been acquired
      rintro other otherId token otherWorld ⟨-, expiry, acquired⟩
      rw [ran] at acquired
      cases acquired
    | claimed task taskId leaseToken leaseExpiresAt =>
      exact .inr ⟨task, taskId, leaseToken, claimed, ⟨asked, leaseExpiresAt, ran⟩, rest⟩

/-- There is at most one claim to give back. -/
theorem Acquires.unique {task other : TaskRef} {taskId otherId leaseToken token : String} {claimed world : TaskWorld}
    (acquires : Acquires runtime request before task taskId leaseToken claimed)
    (again : Acquires runtime request before other otherId token world) :
    task = other ∧ taskId = otherId ∧ leaseToken = token ∧ claimed = world := by
  obtain ⟨-, expiry, ran⟩ := acquires
  obtain ⟨-, otherExpiry, same⟩ := again
  rw [ran] at same
  cases same
  exact ⟨rfl, rfl, rfl, rfl⟩

/-- What an operation does after its claim decides whether the claim is given back. -/
theorem withClaim_returns_iff {work : TaskRef → String → String → TaskProgram (WorkerResult α)}
    {result : Except TaskFailure (WorkerResult α)} (handled : TaskRef → TaskWorld → Prop)
    (works : ∀ task taskId leaseToken claimed, claimed.Holds task taskId leaseToken →
      (claimed.objects task).status = .approved →
      Converses (Behaves runtime) (work task taskId leaseToken) (claimed, []) result last →
      (last.1.Returned taskId leaseToken ↔ handled task claimed))
    (converses : Converses (Behaves runtime) (withClaim request work) (before, []) result last) :
    GivesBack runtime request before last.1 ↔
      ∀ task taskId leaseToken claimed, Acquires runtime request before task taskId leaseToken claimed →
        handled task claimed := by
  rcases withClaim_converses (behaves_remembers runtime) converses with ⟨idle, -⟩ | ⟨task, taskId, leaseToken, claimed, acquires, rest⟩
  · apply iff_of_true
    · intro task taskId leaseToken claimed acquires
      exact (idle _ _ _ _ acquires).elim
    · intro task taskId leaseToken claimed acquires
      exact (idle _ _ _ _ acquires).elim
  · have decides := works task taskId leaseToken claimed acquires.holds.1 acquires.holds.2 rest
    constructor
    · intro gives other otherId token world again
      obtain ⟨rfl, rfl, rfl, rfl⟩ := acquires.unique again
      exact decides.mp (gives _ _ _ _ acquires)
    · intro all other otherId token world again
      obtain ⟨rfl, rfl, rfl, rfl⟩ := acquires.unique again
      exact decides.mpr (all _ _ _ _ acquires)

end Programs

section Main

variable {runtime : Runtime}

/-- What follows a program does not touch its memory. -/
theorem of_map {α : Type} {program : TaskProgram α} {state last : TaskWorld × Transcript} {result : Except TaskFailure Unit}
    (converses : Converses (Behaves runtime) (program >>= fun _ => pure ()) state result last) :
    ∃ outcome, Converses (Behaves runtime) program state outcome last := by
  rcases converses.splits with ⟨value, middle, ran, rest⟩ | ⟨failure, -, ran⟩
  · obtain ⟨-, rfl⟩ := Converses.of_done rest
    exact ⟨.ok value, ran⟩
  · exact ⟨.error failure, ran⟩

theorem github_returns_iff {α : Type} {operation : GitHubOperation α}
    (calls : ∀ task approval, (operation.calls task approval).Forthright (· ≠ .interrupt))
    (quiet : operation.status ≠ some .testing) {clientReady : Bool} {request : WorkerRequest} {before : TaskWorld}
    {last : TaskWorld × Transcript} {result : Except TaskFailure Unit}
    (converses : Converses (Behaves runtime) (runGitHubOperation operation clientReady request >>= fun _ => pure ())
      (before, []) result last) :
    GivesBack runtime request before last.1 ↔
      ∀ task taskId leaseToken claimed, Acquires runtime request before task taskId leaseToken claimed →
        operation.check (claimed.objects task) (claimed.linkedApproval (claimed.objects task)) = none →
          clientReady = true ∧ some TaskFailure.interrupt ∉ last.2 := by
  obtain ⟨outcome, ran⟩ := of_map converses
  apply withClaim_returns_iff (fun task claimed =>
    operation.check (claimed.objects task) (claimed.linkedApproval (claimed.objects task)) = none →
      clientReady = true ∧ some TaskFailure.interrupt ∉ last.2) _ ran
  intro task taskId leaseToken claimed holds approved works
  exact workOn_returns_iff calls quiet holds approved works

/-- A worker operation alone gives back what it has claimed, and leaves no task at
TESTING, exactly if its failures are handled. -/
theorem worker_gives_back_iff (operation : WorkerOperation) (clientReady : Bool) (request : WorkerRequest)
    (before after : TaskWorld) (transcript : Transcript) (result : Except TaskFailure Unit)
    (converses : Converses (Behaves runtime) (operation.program runtime clientReady request) (before, []) result
      (after, transcript)) :
    GivesBack runtime request before after ↔ Handled runtime operation clientReady request before transcript := by
  unfold Handled
  cases operation with
  | branchCreation sourceBranch =>
    simp only [reduceCtorEq, if_false]
    apply github_returns_iff _ _ converses
    · intro task _
      exact branchCalls_forthright sourceBranch task
    · intro impossible
      cases impossible
  | fileApplication =>
    simp only [reduceCtorEq, if_false]
    apply github_returns_iff fileCalls_forthright _ converses
    intro impossible
    cases impossible
  | pullRequestCreation baseBranch =>
    simp only [reduceCtorEq, if_false]
    apply github_returns_iff (pullRequestCalls_forthright baseBranch) _ converses
    intro impossible
    cases impossible
  | validation =>
    simp only [if_true]
    obtain ⟨outcome, ran⟩ := of_map converses
    apply withClaim_returns_iff (fun task claimed =>
      validateValidationPlan (claimed.linkedApproval (claimed.objects task)) = none →
        ∀ failure, some failure ∉ transcript) _ ran
    intro task taskId leaseToken claimed holds approved works
    exact validateTask_returns_iff holds approved works

/-- The memory, and a client or an executor that answers each call in one way. -/
def answering (runtime : Runtime) (reply : (call : ClientCall) → Except TaskFailure call.Reply)
    (state : TaskWorld × Transcript) : (call : TaskCall) → call.Answer × (TaskWorld × Transcript)
  | .memory action => (((action.perform runtime).run state.1).1, ((action.perform runtime).run state.1).2, state.2)
  | .client call => (reply call, state.1, state.2 ++ [failureOf (reply call)])

theorem answering_behaves (reply : (call : ClientCall) → Except TaskFailure call.Reply) (state : TaskWorld × Transcript)
    (call : TaskCall) :
    Behaves runtime state call (answering runtime reply state call).1 (answering runtime reply state call).2 := by
  cases call with
  | memory action => exact ⟨rfl, rfl⟩
  | client call => exact rfl

/-- An executor that does not find the command. -/
def missingCommand : (call : ClientCall) → Except TaskFailure call.Reply :=
  fun _ => .error (.exception "[Errno 2] No such file or directory: 'pytest'")

/-- How a validation of the sample task ends without the command. -/
def failedValidation : Except TaskFailure Unit × TaskWorld × Transcript :=
  (WorkerOperation.validation.program (.plain false) true greetingRequest).converse
    (answering (.plain false) missingCommand) (greetingWorld (.plain false), [])

theorem failedValidation_converses :
    Converses (Behaves (.plain false)) (WorkerOperation.validation.program (.plain false) true greetingRequest)
      (greetingWorld (.plain false), []) failedValidation.1 failedValidation.2 :=
  converses_converse (answering_behaves missingCommand) _ _

theorem worker_gives_back_iff_sample :
    GivesBack (.plain false) greetingRequest (greetingWorld (.plain false)) failedValidation.2.1 ↔
      Handled (.plain false) .validation true greetingRequest (greetingWorld (.plain false)) failedValidation.2.2 :=
  worker_gives_back_iff _ _ _ _ _ _ _ failedValidation_converses

theorem failed_validation_keeps_lease : ¬ ∀ (runtime : Runtime) (operation : WorkerOperation) (clientReady : Bool)
    (request : WorkerRequest) (before after : TaskWorld) (transcript : Transcript) (result : Except TaskFailure Unit),
    Converses (Behaves runtime) (operation.program runtime clientReady request) (before, []) result (after, transcript) →
      GivesBack runtime request before after := by
  intro claim
  have gives := claim _ _ _ _ _ _ _ _ failedValidation_converses
  have acquired : ((claimFor (.plain false) greetingRequest).run (greetingWorld (.plain false))).1 =
      .ok (.claimed 1 "task_1" "agent_task_lease_" 300000000) := by decide +kernel
  have returned := gives 1 "task_1" "agent_task_lease_" _ ⟨.inl (by decide), _, Prod.ext acquired rfl⟩
  have left : (failedValidation.2.1.task? "task_1").map (·.status) = some .testing := by decide +kernel
  obtain ⟨held, found, testing⟩ := Option.map_eq_some_iff.mp left
  exact (returned.1 held found).2 testing

end Main

end ControlTower
