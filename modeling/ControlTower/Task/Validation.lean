import ControlTower.Foundation.Stopping
import ControlTower.Task.Returns

/-! The verdict of a validation. The executor may give any result to each command;
the commands that run, the success that is reported, the task and its last event
follow from these results. -/

set_option autoImplicit false

namespace ControlTower

open Foundation
open Foundation.Procedure
open Foundation.Dialogue
open TaskProgram

section Artifacts

variable (result : CommandExecutionResult)

theorem withPrefix_cases :
    (result.withPrefix = result ∧ ¬(result.allowedPrefix = "" ∨ result.allowedPrefix = "UNKNOWN")) ∨
      result.withPrefix = { result with allowedPrefix := allowedPrefixForCommand result.command } := by
  by_cases unnamed : result.allowedPrefix = "" ∨ result.allowedPrefix = "UNKNOWN"
  · exact .inr (if_pos unnamed)
  · exact .inl ⟨if_neg unnamed, unnamed⟩

theorem withOutputChars_cases :
    (result.withOutputChars = result ∧ (result.outputChars = 0 → result.outputSummary = "")) ∨
      (result.withOutputChars = { result with outputChars := result.outputSummary.length } ∧
        result.outputSummary ≠ "") := by
  by_cases uncounted : result.outputChars = 0 ∧ result.outputSummary ≠ ""
  · exact .inr ⟨if_pos uncounted, uncounted.2⟩
  · refine .inl ⟨if_neg uncounted, ?_⟩
    intro none_
    by_contra present
    exact uncounted ⟨none_, present⟩

theorem truncated_cases :
    (result.truncated = result ∧ result.outputSummary.length ≤ maxOutputChars) ∨
      (result.truncated =
          { result with outputSummary := lastChars maxOutputChars result.outputSummary, outputTruncated := true } ∧
        maxOutputChars < result.outputSummary.length) := by
  by_cases long : maxOutputChars < result.outputSummary.length
  · exact .inr ⟨if_pos long, long⟩
  · exact .inl ⟨if_neg long, Nat.not_lt.mp long⟩

/-- What the verdict is made of. -/
def CommandExecutionResult.ending : String × Int × Bool := (result.command, result.exitCode, result.timedOut)

/-- The normalisation does not touch what the verdict is made of. -/
theorem normalizeResultArtifact_ending : (normalizeResultArtifact result).ending = result.ending := by
  have named : result.withPrefix.ending = result.ending := by
    rcases withPrefix_cases result with ⟨same, -⟩ | same
    · rw [same]
    · rw [same]
      rfl
  have counted : result.withPrefix.withOutputChars.ending = result.withPrefix.ending := by
    rcases withOutputChars_cases result.withPrefix with ⟨same, -⟩ | ⟨same, -⟩
    · rw [same]
    · rw [same]
      rfl
  unfold normalizeResultArtifact
  rcases truncated_cases result.withPrefix.withOutputChars with ⟨same, -⟩ | ⟨same, -⟩
  · rw [same, counted, named]
  · rw [same]
    unfold CommandExecutionResult.ending at counted named ⊢
    exact counted.trans named

theorem normalizeResultArtifact_passed : (normalizeResultArtifact result).passed = result.passed := by
  have same := normalizeResultArtifact_ending result
  simp only [CommandExecutionResult.ending, Prod.mk.injEq] at same
  unfold CommandExecutionResult.passed
  rw [same.2.1, same.2.2]

theorem passed_iff : result.passed = true ↔ result.exitCode = 0 ∧ result.timedOut = false := by
  unfold CommandExecutionResult.passed
  rw [Bool.and_eq_true, beq_iff_eq, Bool.not_eq_true']

theorem lastChars_length (count : Nat) (text : String) : (lastChars count text).length = min count text.length := by
  unfold lastChars
  rw [String.length_ofList, List.length_drop, String.length_toList]
  omega

/-- What a normalisation leaves as it is. -/
structure CommandExecutionResult.Normal : Prop where
  named : result.allowedPrefix = "" ∨ result.allowedPrefix = "UNKNOWN" →
    result.allowedPrefix = allowedPrefixForCommand result.command
  counted : result.outputChars = 0 → result.outputSummary = ""
  bounded : result.outputSummary.length ≤ maxOutputChars

theorem withPrefix_named :
    result.withPrefix.allowedPrefix = "" ∨ result.withPrefix.allowedPrefix = "UNKNOWN" →
      result.withPrefix.allowedPrefix = allowedPrefixForCommand result.withPrefix.command := by
  rcases withPrefix_cases result with ⟨same, named⟩ | same
  · rw [same]
    intro unnamed
    exact (named unnamed).elim
  · rw [same]
    intro _
    rfl

theorem withOutputChars_counted :
    result.withOutputChars.outputChars = 0 → result.withOutputChars.outputSummary = "" := by
  rcases withOutputChars_cases result with ⟨same, counted⟩ | ⟨same, present⟩
  · rw [same]
    exact counted
  · rw [same]
    intro (none_ : (result.outputSummary.length : Int) = 0)
    have empty : result.outputSummary.toList.length = 0 := by
      rw [String.length_toList]
      exact Int.ofNat_eq_zero.mp none_
    exact String.toList_injective (List.eq_nil_of_length_eq_zero empty)

theorem normalizeResultArtifact_normal : (normalizeResultArtifact result).Normal := by
  have named : result.withPrefix.withOutputChars.allowedPrefix = "" ∨
      result.withPrefix.withOutputChars.allowedPrefix = "UNKNOWN" →
      result.withPrefix.withOutputChars.allowedPrefix = allowedPrefixForCommand result.withPrefix.withOutputChars.command := by
    rcases withOutputChars_cases result.withPrefix with ⟨same, -⟩ | ⟨same, -⟩ <;> rw [same] <;>
      exact withPrefix_named result
  have counted := withOutputChars_counted result.withPrefix
  unfold normalizeResultArtifact
  rcases truncated_cases result.withPrefix.withOutputChars with ⟨same, bounded⟩ | ⟨same, long⟩
  · rw [same]
    exact ⟨named, counted, bounded⟩
  · rw [same]
    refine ⟨named, ?_, ?_⟩
    · intro none_
      rw [counted none_] at long
      exact absurd long (by decide)
    · dsimp only
      rw [lastChars_length]
      exact Nat.min_le_left _ _

/-- The event of a validation normalises the results again; nothing comes of it. -/
theorem normalizeResultArtifact_twice :
    normalizeResultArtifact (normalizeResultArtifact result) = normalizeResultArtifact result := by
  have normal := normalizeResultArtifact_normal result
  generalize normalizeResultArtifact result = artifact at normal
  have named : artifact.withPrefix = artifact := by
    rcases withPrefix_cases artifact with ⟨same, -⟩ | same
    · exact same
    · by_cases unnamed : artifact.allowedPrefix = "" ∨ artifact.allowedPrefix = "UNKNOWN"
      · rw [same, ← normal.named unnamed]
      · exact if_neg unnamed
  have counted : artifact.withOutputChars = artifact := by
    apply if_neg
    intro both
    exact both.2 (normal.counted both.1)
  unfold normalizeResultArtifact
  rw [named, counted]
  exact if_neg (Nat.not_lt.mpr normal.bounded)

end Artifacts

section Plans

/-- The commands of an accepted plan are accepted one by one, and differ as trimmed texts. -/
theorem firstCommandFailure_none {seen commands : List String} (accepted : firstCommandFailure seen commands = none) :
    (∀ command ∈ commands, validateValidationCommand command = none ∧ Text.strip command ∉ seen) ∧
      (commands.map Text.strip).Nodup := by
  induction commands generalizing seen with
  | nil =>
    constructor
    · intro command impossible
      cases impossible
    · exact List.nodup_nil
  | cons command rest ih =>
    unfold firstCommandFailure at accepted
    by_cases known : Text.strip command ∈ seen
    · rw [if_pos known] at accepted
      cases accepted
    rw [if_neg known] at accepted
    cases checked : validateValidationCommand command with
    | some failure =>
      rw [checked] at accepted
      cases accepted
    | none =>
      rw [checked] at accepted
      obtain ⟨each, apart⟩ := ih accepted
      constructor
      · intro other member
        rcases List.mem_cons.mp member with rfl | later
        · exact ⟨checked, known⟩
        · exact ⟨(each other later).1, fun before => (each other later).2 (List.mem_cons_of_mem _ before)⟩
      · rw [List.map_cons, List.nodup_cons]
        refine ⟨?_, apart⟩
        intro member
        obtain ⟨other, later, same⟩ := List.mem_map.mp member
        exact (each other later).2 (same ▸ List.mem_cons_self)

theorem validateValidationPlan_none {approval : ApprovalRequest} (accepted : validateValidationPlan (some approval) = none) :
    (∀ command ∈ approval.testPlan, validateValidationCommand command = none) ∧
      (approval.testPlan.map Text.strip).Nodup := by
  unfold validateValidationPlan at accepted
  dsimp only at accepted
  by_cases empty : approval.testPlan = []
  · rw [if_pos empty] at accepted
    cases accepted
  rw [if_neg empty] at accepted
  by_cases many : maxValidationCommands < approval.testPlan.length
  · rw [if_pos many] at accepted
    cases accepted
  rw [if_neg many] at accepted
  obtain ⟨each, apart⟩ := firstCommandFailure_none accepted
  exact ⟨fun command member => (each command member).1, apart⟩

end Plans

section Executors

/-- A command, and the result that the executor gave for it. -/
abbrev CommandRun := String × CommandExecutionResult

/-- The memory, and an executor that gives some result for each command. A validation
has no other client. -/
def ExecutesCommands (runtime : Runtime) (state : TaskWorld × List CommandRun) :
    (call : TaskCall) → call.Answer → TaskWorld × List CommandRun → Prop
  | .memory action, answer, after =>
      answer = ((action.perform runtime).run state.1).1 ∧ after = (((action.perform runtime).run state.1).2, state.2)
  | .client (.runCommand command), answer, after =>
      ∃ result : CommandExecutionResult, answer = .ok result ∧ after = (state.1, state.2 ++ [(command, result)])
  | .client _, _, after => after = state

theorem executesCommands_remembers (runtime : Runtime) : Remembers runtime (ExecutesCommands runtime) := fun _ _ _ _ reply => reply

/-- The results that a validation keeps. -/
def artifactsOf (runs : List CommandRun) : List CommandExecutionResult := runs.map fun run => normalizeResultArtifact run.2

variable {runtime : Runtime} {state last : TaskWorld × List CommandRun}

/-- The loop stops right after the first command that does not pass. -/
theorem runCommands_executes {commands : List String} {results : List CommandExecutionResult}
    {result : Except TaskFailure (List CommandExecutionResult)}
    (converses : Converses (ExecutesCommands runtime) (runCommands commands results) state result last) :
    ∃ runs, last = (state.1, state.2 ++ runs) ∧ result = .ok (results ++ artifactsOf runs) ∧
      StopsAtFailure (·.passed) commands runs := by
  induction commands generalizing results state with
  | nil =>
    obtain ⟨rfl, rfl⟩ := Converses.of_done converses
    refine ⟨[], ?_, ?_, .nil⟩
    · rw [List.append_nil]
    · rw [artifactsOf, List.map_nil, List.append_nil]
  | cons command rest ih =>
    obtain ⟨answer, middle, reply, goesOn⟩ := Converses.of_ask converses
    obtain ⟨given, rfl, rfl⟩ := reply
    have later : Converses (ExecutesCommands runtime)
        (if (normalizeResultArtifact given).passed = true then
          runCommands rest (results ++ [normalizeResultArtifact given])
        else .done (results ++ [normalizeResultArtifact given])) (state.1, state.2 ++ [(command, given)]) result last := goesOn
    cases passed : given.passed with
    | true =>
      rw [if_pos (by rw [normalizeResultArtifact_passed, passed])] at later
      obtain ⟨runs, rfl, rfl, stops⟩ := ih later
      refine ⟨(command, given) :: runs, ?_, ?_, stops.cons_good passed⟩
      · rw [List.append_assoc, List.singleton_append]
      · rw [List.append_assoc, List.singleton_append, artifactsOf, artifactsOf, List.map_cons]
    | false =>
      rw [if_neg (by rw [normalizeResultArtifact_passed, passed]; exact Bool.false_ne_true)] at later
      obtain ⟨rfl, rfl⟩ := Converses.of_done later
      exact ⟨[(command, given)], rfl, rfl, .failed passed⟩

end Executors

section Endings

variable {runtime : Runtime} {σ : Type} {replies : TaskWorld × σ → (call : TaskCall) → call.Answer → TaskWorld × σ → Prop}
  {state last : TaskWorld × σ} {task : TaskRef} {taskId leaseToken : String} {α β : Type}

/-- A status was written, and an event tells of it. -/
def Announced (task : TaskRef) (status : AgentTaskStatus) (text : TaskEventText) (before after : TaskWorld) : Prop :=
  Rewrites task (Moved (some status)) before after ∧ ∃ id event,
    after.store.agentTaskEvents = before.store.agentTaskEvents.set id event ∧
      event.taskId = (after.objects task).id ∧ event.eventType = text.eventType ∧
      event.status = some (after.objects task).status ∧
      event.metadata = (text.operationType.map fun kind => ("operation_type", .text kind)).toList ++ text.artifacts

theorem after_announcement (remembers : Remembers runtime replies) {next : Unit → TaskProgram β}
    {result : Except TaskFailure β} {status : AgentTaskStatus} {text : TaskEventText} {actor : String}
    (converses : Converses replies (memory (.append task (some status) text actor) >>= next) state result last) :
    ∃ after, Announced task status text state.1 after ∧ Converses replies (next ()) (after, state.2) result last := by
  have ends : (appendTaskEvent runtime task (some status) text actor).Ends state.1 fun outcome after =>
      outcome = .ok () ∧ Announced task status text state.1 after := by
    refine ((appendTaskEvent_ends task (some status) text actor).and
      (appendTaskEvent_tells task (some status) text actor)).mono ?_
    intro outcome after both
    exact ⟨both.1.1, both.1.2.1, both.2⟩
  obtain ⟨_, after, announced, rest⟩ := after_memory remembers converses
    (fun _ => Announced task status text state.1) (ends.mono fun _ _ done => ⟨(), done.1, done.2⟩)
  exact ⟨after, announced, rest⟩

/-- How a claimed task stands in memory and as a row. -/
def TaskWorld.Stands (world : TaskWorld) (taskId : String) (status : AgentTaskStatus) : Prop :=
  (∃ held, world.task? taskId = some held ∧ held.status = status) ∧
    ∃ row, world.store.agentTaskRows.get? taskId = some row ∧ row.status = status

/-- A release and a `persist` leave the status and the events of the task. -/
theorem after_giving_back (remembers : Remembers runtime replies) {result : Except TaskFailure β}
    {next : AgentTask × Option ApprovalRequest → TaskProgram β} (holds : state.1.Holds task taskId leaseToken)
    (converses : Converses replies
      (memory (.release task leaseToken) >>= fun _ => memory .persist >>= fun _ => memory (.look task) >>= next)
      state result last) :
    ∃ read after, read.1.status = (state.1.objects task).status ∧
      after.Stands taskId (state.1.objects task).status ∧
      after.store.agentTaskEvents = state.1.store.agentTaskEvents ∧
      Converses replies (next read) (after, state.2) result last := by
  obtain ⟨_, released, ⟨effect, kept⟩, afterRelease⟩ := after_memory remembers converses
    (fun _ after => Released task leaseToken state.1 after ∧ after.store.agentTaskEvents = state.1.store.agentTaskEvents)
    (((releaseTask_ends task leaseToken).and (releaseTask_events task leaseToken)).mono
      fun _ _ done => ⟨(), done.1.1, done.1.2, done.2⟩)
  obtain ⟨_, stored, ⟨persisted, still⟩, afterPersist⟩ := after_memory remembers afterRelease
    (fun _ after => Persisted released after ∧ after.store.agentTaskEvents = released.store.agentTaskEvents)
    ((persistTasks_ends.and persistTasks_events).mono fun _ _ done => ⟨(), done.1.1, done.1.2, done.2⟩)
  have goesOn := after_look remembers afterPersist
  rcases effect with ⟨-, foreign⟩ | ⟨rewrites, -⟩
  · exact (foreign holds.lease).elim
  obtain ⟨updatedAt, cleared⟩ := rewrites.here
  have inMemory : released.task? taskId = some ((state.1.objects task).unleased updatedAt) := by
    unfold TaskWorld.task?
    rw [rewrites.rest.tasks, holds.found, Option.map_some, cleared]
  refine ⟨_, stored, ?_, ⟨⟨(state.1.objects task).unleased updatedAt, ?_, rfl⟩,
    ⟨(state.1.objects task).unleased updatedAt, ?_, rfl⟩⟩, still.trans kept, goesOn⟩
  · rw [persisted.objects, cleared]
    rfl
  · unfold TaskWorld.task? at inMemory ⊢
    rw [persisted.tasks, persisted.objects]
    exact inMemory
  · rw [persisted.rows, released.get?_tasks]
    exact inMemory

end Endings

section Main

variable {runtime : Runtime}

/-- A claimed task whose linked approval has an accepted plan. -/
def Accepts (runtime : Runtime) (request : WorkerRequest) (before : TaskWorld) (taskId : String)
    (approval : ApprovalRequest) : Prop :=
  ∃ task leaseToken claimed, Acquires runtime request before task taskId leaseToken claimed ∧
    claimed.linkedApproval (claimed.objects task) = some approval ∧ validateValidationPlan (some approval) = none

/-- The verdict of a validation: the commands that ran, what is reported, and what is
written of the task. -/
structure VerdictExact (taskId : String) (approval : ApprovalRequest) (runs : List CommandRun)
    (report : WorkerResult (List CommandExecutionResult)) (after : TaskWorld) : Prop where
  ran : StopsAtFailure (·.passed) approval.testPlan runs
  once : ((runs.map Prod.fst).map Text.strip).Nodup
  accepted : ∀ run ∈ runs, validateValidationCommand run.1 = none
  success : report.success = true ↔
    runs.map Prod.fst = approval.testPlan ∧ ∀ run ∈ runs, run.2.exitCode = 0 ∧ run.2.timedOut = false
  results : report.made = some (artifactsOf runs)
  finalStatus : report.finalStatus = some (if report.success = true then .approved else .failed)
  stands : after.Stands taskId (if report.success = true then .approved else .failed)
  event : ∃ id event, after.store.agentTaskEvents.get? id = some event ∧ event.taskId = taskId ∧
    event.eventType = (if report.success = true then .testsPassed else .testsFailed) ∧
    event.metadata.lookup "artifact_summary" = some (artifactSummary (artifactsOf runs)).document
  counts : (artifactSummary (artifactsOf runs)).passedCount + (artifactSummary (artifactsOf runs)).failedCount =
    runs.length

theorem artifactSummary_counts (runs : List CommandRun) :
    (artifactSummary (artifactsOf runs)).passedCount + (artifactSummary (artifactsOf runs)).failedCount = runs.length := by
  unfold artifactSummary
  dsimp only
  rw [← List.length_eq_length_filter_add fun result : CommandExecutionResult => result.passed]
  unfold artifactsOf
  rw [List.length_map]

/-- The artifacts that the last event carries are the ones that are reported. -/
theorem artifactsOf_normal (runs : List CommandRun) : (artifactsOf runs).map normalizeResultArtifact = artifactsOf runs := by
  simp only [artifactsOf, List.map_map, Function.comp_def, normalizeResultArtifact_twice]

theorem allPassed_artifacts (testPlan : List String) (runs : List CommandRun) :
    allPassed testPlan (artifactsOf runs) = ((runs.all fun run => run.2.passed) && runs.length == testPlan.length) := by
  unfold allPassed artifactsOf
  rw [List.all_map, List.length_map]
  congr 1
  apply List.all_congr rfl
  intro run
  exact normalizeResultArtifact_passed run.2

theorem lookup_artifactSummary (testPlan : List String) (results : List CommandExecutionResult) :
    (validationArtifacts testPlan (some results)).lookup "artifact_summary" =
      some (artifactSummary (results.map normalizeResultArtifact)).document := by
  unfold validationArtifacts
  dsimp only
  have away : ("artifact_summary" == "command_count") = false ∧ ("artifact_summary" == "commands_executed") = false ∧
      ("artifact_summary" == "results") = false := by decide
  simp only [List.lookup_cons, away, BEq.rfl]

theorem Announced.status {task : TaskRef} {status : AgentTaskStatus} {text : TaskEventText} {before after : TaskWorld}
    (announced : Announced task status text before after) :
    (after.objects task).status = status ∧ (after.objects task).id = (before.objects task).id := by
  obtain ⟨updatedAt, same⟩ := announced.1.here
  rw [same]
  exact ⟨rfl, rfl⟩

theorem finishedStatus_eq (passed : Bool) : finishedStatus passed = if passed = true then .approved else .failed := rfl

/-- The verdict follows from how the loop ended and from the last event. -/
theorem verdictExact_of {task : TaskRef} {taskId : String} {approval : ApprovalRequest} {runs : List CommandRun}
    {report : WorkerResult (List CommandExecutionResult)} {before finished after : TaskWorld}
    (accepted : validateValidationPlan (some approval) = none) (stops : StopsAtFailure (·.passed) approval.testPlan runs)
    (success : report.success = allPassed approval.testPlan (artifactsOf runs)) (made : report.made = some (artifactsOf runs))
    (announced : Announced task (finishedStatus report.success)
      (finishedEvent approval.testPlan (artifactsOf runs) report.success) before finished)
    (named : (finished.objects task).id = taskId) (told : report.finalStatus = some (finished.objects task).status)
    (stands : after.Stands taskId (finished.objects task).status)
    (events : after.store.agentTaskEvents = finished.store.agentTaskEvents) :
    VerdictExact taskId approval runs report after := by
  obtain ⟨each, apart⟩ := validateValidationPlan_none accepted
  have status := announced.status.1
  rw [finishedStatus_eq] at status
  rw [status] at told stands
  obtain ⟨-, id, event, written, owner, eventType, -, metadata⟩ := announced
  refine ⟨stops, ?_, ?_, ?_, made, told, stands, ?_, artifactSummary_counts runs⟩
  · -- the commands that ran begin the plan, so they are as different as those of the plan
    obtain ⟨others, whole⟩ := stops.inOrder
    rw [← whole, List.map_append] at apart
    exact apart.of_append_left
  · intro run member
    exact each run.1 (stops.inOrder.subset (List.mem_map_of_mem member))
  · rw [success, allPassed_artifacts, stops.complete_iff]
    simp only [passed_iff]
  · -- the event written last tells the verdict with its artifacts
    refine ⟨id, event, ?_, owner.trans named, ?_, ?_⟩
    · rw [events, written]
      exact Table.get?_set_self _ _ _
    · rw [eventType]
      unfold finishedEvent
      cases report.success <;> rfl
    · have artifacts : event.metadata = validationArtifacts approval.testPlan (some (artifactsOf runs)) := by
        rw [metadata]
        unfold finishedEvent
        cases report.success <;> rfl
      rw [artifacts, lookup_artifactSummary, artifactsOf_normal]

/-- A validation of an accepted plan. -/
theorem validateTask_exact {request : WorkerRequest} {claimed : TaskWorld} {task : TaskRef} {taskId leaseToken : String}
    {last : TaskWorld × List CommandRun} {result : Except TaskFailure (WorkerResult (List CommandExecutionResult))}
    {approval : ApprovalRequest} (holds : claimed.Holds task taskId leaseToken)
    (named : (claimed.objects task).id = taskId)
    (linked : claimed.linkedApproval (claimed.objects task) = some approval)
    (accepted : validateValidationPlan (some approval) = none)
    (converses : Converses (ExecutesCommands runtime) (validateTask request task taskId leaseToken) (claimed, []) result last) :
    ∃ report, result = .ok report ∧ VerdictExact taskId approval last.2 report last.1 := by
  have remembers := executesCommands_remembers runtime
  have looked := after_look remembers converses
  dsimp only at looked
  rw [linked, accepted] at looked
  dsimp only [Option.map_some, Option.getD_some] at looked
  obtain ⟨started, written, goesOn⟩ := after_announcement remembers looked
  rcases goesOn.splits with ⟨results, middle, ranCommands, rest⟩ | ⟨failure, -, ranCommands⟩
  · obtain ⟨runs, rfl, same, stops⟩ := runCommands_executes ranCommands
    cases same
    rw [List.nil_append] at rest
    obtain ⟨finished, ended, closing⟩ := after_announcement remembers rest
    have heldLater : finished.Holds task taskId leaseToken := (holds.of_moved written.1).of_moved ended.1
    obtain ⟨read, after, status, stands, events, closed⟩ := after_giving_back remembers heldLater closing
    obtain ⟨rfl, rfl⟩ := Converses.of_done closed
    refine ⟨_, rfl, ?_⟩
    apply verdictExact_of accepted stops rfl rfl ended
    · rw [ended.status.2, written.status.2, named]
    · exact congrArg some status
    · exact stands
    · exact events
  · obtain ⟨runs, -, impossible, -⟩ := runCommands_executes ranCommands
    cases impossible

/-- A validation whose plan is refused runs nothing. -/
theorem validateTask_refused {request : WorkerRequest} {claimed : TaskWorld} {task : TaskRef} {taskId leaseToken : String}
    {last : TaskWorld × List CommandRun} {result : Except TaskFailure (WorkerResult (List CommandExecutionResult))}
    {refusal : String} (holds : claimed.Holds task taskId leaseToken)
    (refused : validateValidationPlan (claimed.linkedApproval (claimed.objects task)) = some refusal)
    (converses : Converses (ExecutesCommands runtime) (validateTask request task taskId leaseToken) (claimed, []) result last) :
    ∃ report, result = .ok report ∧ last.2 = [] ∧ report.success = false := by
  have remembers := executesCommands_remembers runtime
  have looked := after_look remembers converses
  dsimp only at looked
  rw [refused] at looked
  obtain ⟨read, after, -, -, -, closed⟩ := after_giving_back remembers holds looked
  obtain ⟨rfl, rfl⟩ := Converses.of_done closed
  exact ⟨_, rfl, rfl, rfl⟩

/-- A validation alone with an executor that gives any results: for an accepted plan
the verdict is exact, and without one no command runs and no success is reported. -/
theorem validation_verdict_exact (request : WorkerRequest) (before after : TaskWorld) (runs : List CommandRun)
    (result : Except TaskFailure (WorkerResult (List CommandExecutionResult)))
    (converses : Converses (ExecutesCommands runtime) (runAgentWorkerValidationCommands request) (before, []) result
      (after, runs)) :
    ∃ report, result = .ok report ∧
      (∀ taskId approval, Accepts runtime request before taskId approval → VerdictExact taskId approval runs report after) ∧
        ((∀ taskId approval, ¬Accepts runtime request before taskId approval) → runs = [] ∧ report.success = false) := by
  rcases withClaim_converses (executesCommands_remembers runtime) converses with
    ⟨idle, rfl, report, rfl, failed⟩ | ⟨task, taskId, leaseToken, claimed, acquires, works⟩
  · refine ⟨report, rfl, ?_, fun _ => ⟨rfl, failed⟩⟩
    intro taskId approval ⟨task, leaseToken, claimed, acquires, _⟩
    exact (idle _ _ _ _ acquires).elim
  have holds := acquires.holds.1
  cases checked : validateValidationPlan (claimed.linkedApproval (claimed.objects task)) with
  | some refusal =>
    obtain ⟨report, rfl, none_, failed⟩ := validateTask_refused holds checked works
    -- a request acquires at most one lease, so this claim is meant
    refine ⟨report, rfl, ?_, fun _ => ⟨none_, failed⟩⟩
    intro otherId approval ⟨other, token, world, again, linked, accepted⟩
    obtain ⟨rfl, rfl, rfl, rfl⟩ := acquires.unique again
    rw [linked, accepted] at checked
    cases checked
  | none =>
    cases linked : claimed.linkedApproval (claimed.objects task) with
    -- a plan is accepted only of an approval
    | none =>
      rw [linked] at checked
      cases checked
    | some approval =>
      rw [linked] at checked
      obtain ⟨-, record, leaseExpiresAt, updatedAt, here, named, -⟩ := acquires.object
      have sameId : (claimed.objects task).id = taskId := by
        rw [here]
        exact named
      obtain ⟨report, rfl, exact_⟩ := validateTask_exact holds sameId linked checked works
      refine ⟨report, rfl, ?_, ?_⟩
      · intro otherId other ⟨otherTask, token, world, again, otherLinked, _⟩
        obtain ⟨rfl, rfl, rfl, rfl⟩ := acquires.unique again
        rw [linked] at otherLinked
        cases otherLinked
        exact exact_
      · intro nothing
        exact (nothing taskId approval ⟨task, leaseToken, claimed, acquires, linked, checked⟩).elim

/-- The memory, and an executor that looks at what it was asked before. -/
def executing (runtime : Runtime) (executor : List CommandRun → String → CommandExecutionResult)
    (state : TaskWorld × List CommandRun) : (call : TaskCall) → call.Answer × (TaskWorld × List CommandRun)
  | .memory action => (((action.perform runtime).run state.1).1, ((action.perform runtime).run state.1).2, state.2)
  | .client (.runCommand command) =>
      (Except.ok (executor state.2 command), state.1, state.2 ++ [(command, executor state.2 command)])
  | .client _ => (Except.error .interrupt, state)

theorem executing_executes (executor : List CommandRun → String → CommandExecutionResult)
    (state : TaskWorld × List CommandRun) (call : TaskCall) :
    ExecutesCommands runtime state call (executing runtime executor state call).1 (executing runtime executor state call).2 := by
  cases call with
  | memory action => exact ⟨rfl, rfl⟩
  | client call =>
    cases call with
    | runCommand command => exact ⟨_, rfl, rfl⟩
    | _ => exact rfl

/-- An executor under which every command exits with zero. -/
def passing : List CommandRun → String → CommandExecutionResult :=
  fun _ command => ⟨command, 0, false, "1 passed", 12, false, 8, "UNKNOWN"⟩

/-- How a validation of the sample task ends when its command passes. -/
def passedValidation : Except TaskFailure (WorkerResult (List CommandExecutionResult)) × TaskWorld × List CommandRun :=
  (runAgentWorkerValidationCommands greetingRequest).converse (executing (.plain false) passing)
    (greetingWorld (.plain false), [])

theorem passedValidation_exact :
    ∃ report, passedValidation.1 = .ok report ∧
      (∀ taskId approval, Accepts (.plain false) greetingRequest (greetingWorld (.plain false)) taskId approval →
        VerdictExact taskId approval passedValidation.2.2 report passedValidation.2.1) ∧
        ((∀ taskId approval, ¬Accepts (.plain false) greetingRequest (greetingWorld (.plain false)) taskId approval) →
          passedValidation.2.2 = [] ∧ report.success = false) :=
  validation_verdict_exact _ _ _ _ _ (converses_converse (executing_executes passing) _ _)

/-- The sample task is approved after its validation. -/
example : (passedValidation.2.1.task? "task_1").map (·.status) = some .approved ∧
    passedValidation.2.2.map Prod.fst = ["pytest"] := by decide +kernel

end Main

end ControlTower
