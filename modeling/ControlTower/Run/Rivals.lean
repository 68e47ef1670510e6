import ControlTower.Run.Evolution
import ControlTower.Run.Progress

/-! What runs may not share. A task gets a run while it is approved, and none beside
a run that is live or has succeeded; a step belongs to one run. -/

set_option autoImplicit false

namespace ControlTower

open Foundation
open Foundation.Procedure
open Relation (ReflTransGen)

abbrev DurableRun.HasStep (durable : DurableRun) (stepId : String) : Prop := stepId ∈ durable.steps.map (·.id)

section Changed

variable {runtime : Runtime} {durable later : DurableRun}

/-- No change of the records gives a run to another task, or its steps to others. -/
theorem changes_keep (changes : ReflTransGen (DurableChange runtime) durable later) :
    later.run.binding = { durable.run.binding with capabilityLeaseId := later.run.capabilityLeaseId } ∧
      later.steps.map (·.id) = durable.steps.map (·.id) := by
  induction changes with
  | refl => exact ⟨rfl, rfl⟩
  | tail _ change ih =>
    obtain ⟨binding, steps⟩ := ih
    cases change with
    | @run run next steps change =>
      refine ⟨?_, steps⟩
      have kept : next.binding = { run.binding with capabilityLeaseId := next.capabilityLeaseId } := by cases change <;> rfl
      rw [kept, binding]
    | step found change => exact ⟨binding, (putStep_ids _ _).trans steps⟩

theorem changes_task (changes : ReflTransGen (DurableChange runtime) durable later) :
    later.run.taskId = durable.run.taskId :=
  congrArg RunBinding.taskId (changes_keep changes).1

theorem DurableRun.Occupies.task {taskId : String} (occupied : durable.Occupies taskId) : durable.run.taskId = taskId := by
  unfold DurableRun.Occupies AgentRun.occupies at occupied
  simp only [Bool.and_eq_true, beq_iff_eq] at occupied
  exact occupied.1.1.1

theorem DurableRun.New.occupies (new : durable.New) : durable.Occupies durable.run.taskId := by
  unfold DurableRun.Occupies AgentRun.occupies
  rw [new.status]
  simp

/-- A run that goes on occupies no other task, and a run that is over occupies none. -/
theorem DurableRun.GoesOn.occupies {durable later : DurableRun} (goesOn : durable.GoesOn later) {taskId : String}
    (occupied : later.Occupies taskId) : durable.Occupies taskId := by
  have task : later.run.taskId = durable.run.taskId := congrArg RunBinding.taskId goesOn.binding
  unfold DurableRun.Occupies AgentRun.occupies at occupied ⊢
  rw [task] at occupied
  cases ended : durable.run.status.isTerminal
  · have live : durable.run.status ≠ .failed ∧ durable.run.status ≠ .cancelled ∧ durable.run.status ≠ .blocked := by
      refine ⟨?_, ?_, ?_⟩ <;> intro same <;> rw [same] at ended <;> cases ended
    simp_all
  · rw [(goesOn.ended ended).1] at occupied
    exact occupied

end Changed

section Apart

variable {runtime : Runtime} {allowed : Store → RunRequest → Prop} {store : Store}

theorem tasks_exclusive (reachable : (runMachine runtime).Reachable allowed store) :
    Exclusive DurableRun.Occupies store.agentRuns := by
  apply runs_exclusive _ _ _ reachable
  · intro store request runId durable later reachable stored present taskId occupied
    obtain ⟨after, found, goesOn⟩ := next_goesOn reachable request runId durable stored
    obtain rfl : after = later := Option.some.inj (found.symm.trans present)
    exact goesOn.occupies occupied
  · intro durable later taskId new changes occupied
    have named : durable.run.taskId = taskId := (changes_task changes).symm.trans occupied.task
    exact named ▸ new.occupies
  · intro store payload newId durable after reachable creates taskId occupied
    obtain ⟨task, approval, -, -, -, -, named, -, free⟩ := creates.admits
    have named : durable.run.taskId = task.id := named
    rw [← occupied.task, named]
    exact free

theorem steps_exclusive (reachable : (runMachine runtime).Reachable allowed store) :
    Exclusive DurableRun.HasStep store.agentRuns := by
  apply runs_exclusive _ _ _ reachable
  · intro store request runId durable later reachable stored present stepId has
    unfold DurableRun.HasStep at has ⊢
    rw [← (changes_keep (next_changes runtime request stored present)).2]
    exact has
  · intro durable later stepId new changes has
    unfold DurableRun.HasStep at has ⊢
    rw [← (changes_keep changes).2]
    exact has
  · intro store payload newId durable after reachable creates stepId has runId other stored rival
    obtain ⟨step, member, rfl⟩ := List.mem_map.mp has
    apply creates.own step member
    unfold Store.stepIds
    rw [List.mem_flatMap]
    exact ⟨other, Table.mem_values.mpr ⟨runId, stored⟩, rival⟩

/-- The run that a creation finds is the one that occupies the task. -/
theorem existingRun_of_occupied (reachable : (runMachine runtime).Reachable allowed store) {runId taskId : String}
    {durable : DurableRun} (stored : store.agentRuns.get? runId = some durable) (occupied : durable.Occupies taskId) :
    ∃ existing, store.existingRun taskId = some existing ∧ existing.id = runId := by
  cases picked : store.existingRun taskId with
  | none => exact absurd occupied (existingRun_none picked runId durable stored)
  | some existing =>
    have member := Selection.pick_mem picked
    simp only [List.mem_filter, List.mem_map, Table.mem_values] at member
    obtain ⟨⟨other, ⟨key, found⟩, rfl⟩, rival⟩ := member
    obtain rfl := tasks_exclusive reachable key runId other durable taskId found stored rival occupied
    obtain ⟨course, named, -⟩ := steady_reachable reachable key other found
    exact ⟨other.run, rfl, named⟩

/-- A task has at most one run that is live or has succeeded. A run appears by a
creation for an approved task with an approved request and no such run; where there
is one, a creation answers with it and changes nothing. -/
theorem one_live_run (runtime : Runtime) (store : Store)
    (reachable : (runMachine runtime).Reachable Machine.anything store) :
    Exclusive DurableRun.Occupies store.agentRuns ∧
    (∀ request runId durable, store.agentRuns.get? runId = none →
      ((runMachine runtime).next store request).agentRuns.get? runId = some durable →
      ∃ payload, request = .createRun payload ∧ store.Opens payload durable.run.binding) ∧
    ∀ payload task approval runId durable, store.agentTasks.get? payload.taskId = some task → task.status = .approved →
      store.approvalRequests.get? (task.approvalRequestId.getD "") = some approval → approval.status = .approved →
      store.agentRuns.get? runId = some durable → durable.Occupies task.id →
      (createAgentRun runtime payload).run store = (.ok runId, store) := by
  refine ⟨tasks_exclusive reachable, ?_, ?_⟩
  · intro request runId durable absent stored
    -- a change brings no new run; a creation brings the one it admits
    cases next_serves runtime store request with
    | changed evolves =>
      rw [evolves.joined runId absent] at stored
      cases stored
    | created payload same newId created middle creates evolves =>
      obtain ⟨known, found, changes⟩ := evolves.back stored
      rw [creates.runs, Table.get?_set] at found
      split at found
      · obtain rfl := Option.some.inj found
        refine ⟨payload, same, ?_⟩
        rw [(changes_keep changes).1]
        exact creates.admits
      · rw [absent] at found
        cases found
  · intro payload task approval runId durable known ready found approved stored occupied
    -- the run that occupies the task is the one the search finds
    obtain ⟨existing, picked, named⟩ := existingRun_of_occupied reachable stored occupied
    have answers : (createAgentRun runtime payload).Ends store fun outcome after => outcome = .ok runId ∧ after = store := by
      unfold createAgentRun
      apply ends_read
      simp only [known, ends_bind, ends_found_some, continue_ok, ends_demand, ready, found, approved, picked,
        not_true_eq_false, false_implies, true_implies, and_true]
      exact ⟨congrArg Except.ok named, rfl⟩
    exact Prod.ext answers.1 answers.2

theorem Picture.findMember {run : AgentRun} {steps passed ahead : List AgentRunStep} {focus step : AgentRunStep}
    (picture : Picture run steps passed focus ahead) (member : step ∈ steps) : findStep steps step.id = some step := by
  cases found : findStep steps step.id with
  | none =>
    have absent := List.find?_eq_none.mp found step member
    simp at absent
  | some other =>
    obtain ⟨there, same⟩ := findStep_some found
    rw [picture.unique member there same]

/-- A step is found under its identifier, with the run that it belongs to. -/
theorem stepWithRun_own (reachable : (runMachine runtime).Reachable allowed store) {runId : String} {durable : DurableRun}
    {step : AgentRunStep} (stored : store.agentRuns.get? runId = some durable) (member : step ∈ durable.steps) :
    store.stepWithRun step.id = some (durable, step) := by
  have listed : durable ∈ store.agentRuns.values := Table.mem_values.mpr ⟨runId, stored⟩
  obtain ⟨course, -, ⟨passed, focus, ahead, picture, -⟩, -⟩ := steady_reachable reachable runId durable stored
  have here : findStep durable.steps step.id = some step := picture.findMember member
  unfold Store.stepWithRun
  cases found : store.agentRuns.values.findSome? fun durable =>
      (findStep durable.steps step.id).map fun step => (durable, step) with
  | none =>
    have missing := List.findSome?_eq_none_iff.mp found durable listed
    rw [here] at missing
    cases missing
  | some pair =>
    obtain ⟨other, there, finds⟩ := List.exists_of_findSome?_eq_some found
    obtain ⟨key, present⟩ := Table.mem_values.mp there
    obtain ⟨rival, met, rfl⟩ := Option.map_eq_some_iff.mp finds
    obtain ⟨holds, named⟩ := findStep_some met
    have same : runId = key := by
      apply steps_exclusive reachable runId key durable other step.id stored present
      · exact List.mem_map_of_mem member
      · exact named ▸ List.mem_map_of_mem holds
    subst same
    rw [stored] at present
    cases present
    rw [here] at met
    cases met
    rfl

/-- A retry that names a step of another run changes nothing. -/
theorem retryRun_foreign (reachable : (runMachine runtime).Reachable allowed store) {runId target : String}
    {durable : DurableRun} {step : AgentRunStep} (stored : store.agentRuns.get? runId = some durable)
    (member : step ∈ durable.steps) (named : Text.present (some step.id) = true) (other : target ≠ runId) (reason : String) :
    (retryRun runtime target (some step.id) reason).Ends store fun outcome after =>
      outcome.isOk = false ∧ after = store := by
  obtain ⟨course, identity, -⟩ := steady_reachable reachable runId durable stored
  have owner : durable.run.id ≠ target := by
    rw [identity]
    exact Ne.symm other
  apply ends_anyRun (fun _ => ⟨rfl, rfl⟩)
  intro asked _
  apply ends_guard ⟨rfl, rfl⟩
  intro _
  unfold retryTarget
  rw [if_pos named, ends_bind]
  apply ends_read
  simp only [Option.getD_some, stepWithRun_own reachable stored member, ends_bind, ends_found_some, continue_ok, ends_pure]
  rw [ends_demand]
  refine ⟨fun _ => ?_, fun _ => ⟨rfl, rfl⟩⟩
  rw [continue_ok, ends_bind]
  apply ends_relabel.mpr
  apply ends_gate
  · exact fun _ => ⟨rfl, rfl⟩
  · exact fun same => absurd same owner

/-- A step belongs to one run: the collection of all steps has it with that run, and a
retry of another run that names it is refused without effect. -/
theorem step_of_one_run (runtime : Runtime) (store : Store)
    (reachable : (runMachine runtime).Reachable Machine.anything store) (runId : String) (durable : DurableRun)
    (step : AgentRunStep) (stored : store.agentRuns.get? runId = some durable) (member : step ∈ durable.steps) :
    store.stepWithRun step.id = some (durable, step) ∧
      ∀ target reason, Text.present (some step.id) = true → target ≠ runId →
        (runMachine runtime).next store (.retry target (some step.id) reason) = store := by
  refine ⟨stepWithRun_own reachable stored member, ?_⟩
  intro target reason named other
  exact (retryRun_foreign reachable stored member named other reason).2

end Apart

section Sample

theorem one_live_run_created :
    Exclusive DurableRun.Occupies (storeAfter (.plain false) [createRequest 1 (by decide)]).agentRuns ∧
      (createAgentRun (.plain false) ⟨"task_1", none, 3, by decide, none⟩).run
        (storeAfter (.plain false) [createRequest 1 (by decide)]) =
          (.ok createdRunId, storeAfter (.plain false) [createRequest 1 (by decide)]) := by
  have tests : ((storeAfter (.plain false) [createRequest 1 (by decide)]).agentTasks.get? "task_1").any (fun task =>
      task.status == .approved && (((storeAfter (.plain false) [createRequest 1 (by decide)]).approvalRequests.get?
        (task.approvalRequestId.getD "")).any (·.status == .approved) &&
      ((storeAfter (.plain false) [createRequest 1 (by decide)]).agentRuns.get? createdRunId).any
        (·.run.occupies task.id))) = true := by decide +kernel
  simp only [Option.any_eq_true, Bool.and_eq_true, beq_iff_eq] at tests
  obtain ⟨task, known, ready, ⟨approval, found, approved⟩, durable, stored, occupied⟩ := tests
  obtain ⟨exclusive, -, answers⟩ := one_live_run (.plain false) _ (storeAfter_reachable (.plain false) _)
  exact ⟨exclusive, answers _ task approval createdRunId durable known ready found approved stored occupied⟩

theorem step_of_one_run_created : ∃ durable step,
    (storeAfter (.plain false) [createRequest 1 (by decide)]).agentRuns.get? createdRunId = some durable ∧
      step ∈ durable.steps ∧
      (storeAfter (.plain false) [createRequest 1 (by decide)]).stepWithRun step.id = some (durable, step) ∧
      (runMachine (.plain false)).next (storeAfter (.plain false) [createRequest 1 (by decide)])
        (.retry "agent_run_2" (some step.id) "Again") = storeAfter (.plain false) [createRequest 1 (by decide)] := by
  have tests : ((storeAfter (.plain false) [createRequest 1 (by decide)]).agentRuns.get? createdRunId).any (fun durable =>
      durable.steps.any fun step => Text.present (some step.id)) = true := by decide +kernel
  simp only [Option.any_eq_true, List.any_eq_true] at tests
  obtain ⟨durable, stored, step, member, named⟩ := tests
  obtain ⟨own, refused⟩ := step_of_one_run (.plain false) _ (storeAfter_reachable (.plain false) _) createdRunId durable step
    stored member
  exact ⟨durable, step, stored, member, own, refused "agent_run_2" "Again" named (by decide)⟩

end Sample

end ControlTower
