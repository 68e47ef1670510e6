import Mathlib.Data.List.Forall2
import ControlTower.Run.Frontier

/-! What is done in a run stays done. Steps keep their order, no attempt is taken
back, and neither a step nor a run leaves a terminal status. -/

set_option autoImplicit false

namespace ControlTower

open Foundation
open Foundation.Procedure

/-- A step without its times, texts and evidence. -/
structure StepRow where
  identity : StepIdentity
  status : AgentRunStepStatus
  attempts : Nat

def AgentRunStep.row (step : AgentRunStep) : StepRow := ⟨step.identity, step.status, step.attemptCount⟩

/-- The same step later. -/
structure StepRow.Onward (row later : StepRow) : Prop where
  identity : later.identity = row.identity
  attempts : row.attempts ≤ later.attempts
  final : row.status.isTerminal = true → later = row

theorem StepRow.onward_self (row : StepRow) : row.Onward row := ⟨rfl, Nat.le_refl _, fun _ => rfl⟩

theorem StepRow.Onward.trans {row middle last : StepRow} (start : row.Onward middle) (rest : middle.Onward last) :
    row.Onward last where
  identity := rest.identity.trans start.identity
  attempts := Nat.le_trans start.attempts rest.attempts
  final ended := by
    have same := start.final ended
    rw [same] at rest
    exact rest.final ended

abbrev RowsOnward : List StepRow → List StepRow → Prop := List.Forall₂ StepRow.Onward

theorem rowsOnward_self (rows : List StepRow) : RowsOnward rows rows :=
  List.forall₂_same.mpr fun row _ => row.onward_self

theorem RowsOnward.trans {rows middle last : List StepRow} (start : RowsOnward rows middle) (rest : RowsOnward middle last) :
    RowsOnward rows last := by
  induction start generalizing last with
  | nil => exact rest
  | cons here _ ih =>
    cases rest with
    | cons there further => exact .cons (here.trans there) (ih further)

section Courses

variable {course later : Course}

/-- All steps, in their order. -/
def Course.rows (course : Course) : List StepRow :=
  course.behind.map (fun passed => ⟨passed.1, .succeeded, passed.2⟩) ++
    ⟨course.focus, course.step, course.attempts⟩ ::
      course.waiting.map fun step => ⟨step, waitingStatus course.cancelRequested, 0⟩

theorem Depicts.rows {run : AgentRun} {steps : List AgentRunStep} (depicts : Depicts run steps course) :
    steps.map AgentRunStep.row = course.rows := by
  obtain ⟨passed, focus, ahead, picture, rfl⟩ := depicts
  rw [picture.arranged, List.map_append, List.map_cons]
  unfold Course.rows courseOf
  rw [List.map_map, List.map_map]
  have before : passed.map AgentRunStep.row =
      passed.map ((fun done => ⟨done.1, .succeeded, done.2⟩) ∘ fun step => (step.identity, step.attemptCount)) := by
    apply List.map_congr_left
    intro step member
    show StepRow.mk step.identity step.status step.attemptCount = _
    rw [(picture.done step member).1]
    rfl
  have behind : ahead.map AgentRunStep.row =
      ahead.map ((fun step => ⟨step, waitingStatus run.cancelRequested, 0⟩) ∘ AgentRunStep.identity) := by
    apply List.map_congr_left
    intro step member
    show StepRow.mk step.identity step.status step.attemptCount = _
    rw [(picture.waits step member).1, (picture.waits step member).2]
    rfl
  rw [before, behind]
  rfl

/-- The course later: nothing done is undone. -/
structure Course.GoesOn (course later : Course) : Prop where
  binding : later.binding = { course.binding with capabilityLeaseId := later.binding.capabilityLeaseId }
  rows : RowsOnward course.rows later.rows
  ended : course.run.isTerminal = true → later.run = course.run
  /-- A run that has ended starts no attempt. -/
  idle : course.run.isTerminal = true → later.rows.map (·.attempts) = course.rows.map (·.attempts)

theorem Course.goesOn_self (course : Course) : course.GoesOn course :=
  ⟨rfl, rowsOnward_self _, fun _ => rfl, fun _ => rfl⟩

theorem Course.GoesOn.trans {last : Course} (start : course.GoesOn later) (rest : later.GoesOn last) :
    course.GoesOn last where
  binding := by rw [rest.binding, start.binding]
  rows := start.rows.trans rest.rows
  ended ended := by
    have same := start.ended ended
    exact (rest.ended (same ▸ ended)).trans same
  idle ended := by
    have same := start.ended ended
    exact (rest.idle (same ▸ ended)).trans (start.idle ended)

/-- A step that has failed has ended its run. -/
def Course.FailsWhole (course : Course) : Prop := course.step = .failed → course.run = .failed

/-- A move that changes the step in focus at most. -/
theorem Course.goesOn_focus (keeps : course.Keeps later) (attempts : course.attempts ≤ later.attempts)
    (final : course.step.isTerminal = true → later.step = course.step ∧ later.attempts = course.attempts)
    (ended : course.run.isTerminal = true → later.run = course.run ∧ later.attempts = course.attempts) :
    course.GoesOn later := by
  obtain ⟨binding, cancelled, behind, focus, waiting, -⟩ := keeps
  refine ⟨by rw [binding], ?_, fun terminal => (ended terminal).1, ?_⟩
  · unfold Course.rows
    rw [cancelled, behind, focus, waiting]
    apply List.rel_append (rowsOnward_self _)
    apply List.Forall₂.cons _ (rowsOnward_self _)
    refine ⟨rfl, attempts, ?_⟩
    intro terminal
    obtain ⟨status, counted⟩ := final terminal
    rw [status, counted]
  · intro terminal
    unfold Course.rows
    rw [cancelled, behind, focus, waiting, (ended terminal).2]
    simp

end Courses

section Deeds

variable {course : Course}

/-- What a deed does to a course of the service. -/
structure Course.Continues (course later : Course) : Prop where
  goesOn : course.GoesOn later
  whole : later.FailsWhole

theorem Course.continues_self (whole : course.FailsWhole) : course.Continues course := ⟨course.goesOn_self, whole⟩

/-- A move that starts no attempt, and changes the step and the run only where they have not ended. -/
theorem Course.continues_focus {later : Course} (whole : course.FailsWhole) (keeps : course.Keeps later)
    (attempts : later.attempts = course.attempts)
    (step : later.step = course.step ∨ (course.step.isTerminal = false ∧ later.step ≠ .failed))
    (run : later.run = course.run ∨ course.run.isTerminal = false) : course.Continues later := by
  constructor
  · apply Course.goesOn_focus keeps (Nat.le_of_eq attempts.symm)
    · intro ended
      rcases step with same | ⟨active, -⟩
      · exact ⟨same, attempts⟩
      · rw [ended] at active
        cases active
    · intro ended
      rcases run with same | active
      · exact ⟨same, attempts⟩
      · rw [ended] at active
        cases active
  · intro failed
    rcases step with same | ⟨-, other⟩
    · have ended := whole (same ▸ failed)
      rcases run with kept | active
      · exact kept.trans ended
      · rw [ended] at active
        cases active
    · exact absurd failed other

theorem continues_toBoth (whole : course.FailsWhole) {goal : AgentRunStepStatus} {runGoal : AgentRunStatus}
    (pair : (goal, runGoal) ∈ [(.needsHuman, .needsHuman), (.blocked, .blocked)]) :
    course.Continues (course.after (Move.toBoth goal runGoal)) := by
  have quiet : goal ≠ .running ∧ goal ≠ .failed := by
    simp only [List.mem_cons, Prod.mk.injEq, List.not_mem_nil, or_false] at pair
    obtain ⟨rfl, -⟩ | ⟨rfl, -⟩ := pair <;> decide
  have keeps : course.Keeps (course.after (Move.toBoth goal runGoal)) := Move.toBoth_local goal runGoal course
  unfold Course.after at keeps ⊢
  rw [Move.run_toBoth] at keeps ⊢
  by_cases legal : canTransitionStep course.step goal = true
  · -- a terminal status accepts itself only
    have step : goal = course.step ∨ (course.step.isTerminal = false ∧ goal ≠ .failed) := by
      cases ended : course.step.isTerminal
      · exact .inr ⟨rfl, quiet.2⟩
      · exact .inl ((terminal_step_stuck course.step goal ended).mp legal)
    rw [if_pos legal] at keeps ⊢
    by_cases allowed : canTransitionRun course.run runGoal = true
    · have run : runGoal = course.run ∨ course.run.isTerminal = false := by
        cases ended : course.run.isTerminal
        · exact .inr rfl
        · exact .inl ((terminal_run_stuck course.run runGoal ended).mp allowed)
      rw [if_pos allowed] at keeps ⊢
      exact Course.continues_focus whole keeps (by simp [Course.ran, Course.stepped, quiet.1]) step run
    · rw [if_neg allowed] at keeps ⊢
      exact Course.continues_focus whole keeps (by simp [Course.stepped, quiet.1]) step (.inl rfl)
  · rw [if_neg legal]
    exact Course.continues_self whole

/-- A status that changes only from NEEDS_HUMAN to one that is not a failure. -/
theorem from_gate {status other : AgentRunStepStatus} (open_ : other ≠ .failed) :
    (if status = .needsHuman then other else status) = status ∨
      (status.isTerminal = false ∧ (if status = .needsHuman then other else status) ≠ .failed) := by
  by_cases gate : status = .needsHuman
  · subst gate
    exact .inr ⟨rfl, open_⟩
  · exact .inl (if_neg gate)

theorem from_held {status other : AgentRunStatus} :
    (if status = .needsHuman then other else status) = status ∨ status.isTerminal = false := by
  by_cases held : status = .needsHuman
  · subst held
    exact .inr rfl
  · exact .inl (if_neg held)

theorem continues_allow (whole : course.FailsWhole) : course.Continues (course.after Move.allow) := by
  have keeps : course.Keeps (course.after Move.allow) := Move.allow_local course
  unfold Course.after at keeps ⊢
  rw [Move.run_allow] at keeps ⊢
  exact Course.continues_focus whole keeps rfl (from_gate (by decide)) from_held

theorem continues_deny (whole : course.FailsWhole) : course.Continues (course.after Move.deny) := by
  have keeps : course.Keeps (course.after Move.deny) := Move.deny_local course
  unfold Course.after at keeps ⊢
  rw [Move.run_deny] at keeps ⊢
  exact Course.continues_focus whole keeps rfl (from_gate (by decide)) from_held

theorem continues_allowElsewhere (whole : course.FailsWhole) : course.Continues (course.after Move.allowElsewhere) := by
  have keeps : course.Keeps (course.after Move.allowElsewhere) := Move.allowElsewhere_local course
  unfold Course.after at keeps ⊢
  rw [Move.run_allowElsewhere] at keeps ⊢
  exact Course.continues_focus whole keeps rfl (.inl rfl) from_held

theorem continues_denyElsewhere (whole : course.FailsWhole) : course.Continues (course.after Move.denyElsewhere) := by
  have keeps : course.Keeps (course.after Move.denyElsewhere) := Move.denyElsewhere_local course
  unfold Course.after at keeps ⊢
  rw [Move.run_denyElsewhere] at keeps ⊢
  exact Course.continues_focus whole keeps rfl (.inl rfl) from_held

theorem continues_pause (whole : course.FailsWhole) : course.Continues (course.after Move.pause) := by
  unfold Course.after
  rw [Move.run_pause]
  split
  · exact Course.continues_self whole
  · next active =>
    have active : course.run.isTerminal = false := by simpa using active
    split
    · exact Course.continues_focus whole ⟨rfl, rfl, rfl, rfl, rfl, fun pointed => pointed⟩ rfl (.inl rfl) (.inr active)
    · exact Course.continues_focus whole ⟨rfl, rfl, rfl, rfl, rfl, fun pointed => pointed⟩ rfl (.inl rfl) (.inl rfl)

theorem continues_resume (whole : course.FailsWhole) : course.Continues (course.after Move.resume) := by
  unfold Course.after
  rw [Move.run_resume]
  split
  · next waits =>
    have active : course.run.isTerminal = false := by
      rcases waits with waits | waits | waits <;> rw [waits] <;> rfl
    refine Course.continues_focus whole ⟨rfl, rfl, rfl, rfl, rfl, fun pointed => pointed⟩ rfl ?_ (.inr active)
    by_cases away : course.step = .paused ∨ course.step = .needsHuman ∨ course.step = .retryWait
    · refine .inr ⟨?_, by simp [away]⟩
      rcases away with away | away | away <;> rw [away] <;> rfl
    · exact .inl (if_neg away)
  · exact Course.continues_self whole

theorem continues_retry (whole : course.FailsWhole) (owned : course.focus.runId = course.binding.id)
    (active : course.run.isTerminal = false) : course.Continues (course.after Move.retry) := by
  unfold Course.after
  rw [Move.run_retry course owned]
  split
  · next waits =>
    refine Course.continues_focus whole ⟨rfl, rfl, rfl, rfl, rfl, fun _ => rfl⟩ rfl ?_ (.inr active)
    refine .inr ⟨?_, by simp⟩
    rcases waits.1 with step | step | step
    · rw [step]
      rfl
    · rw [step]
      rfl
    · -- a failed step has ended its run
      rw [whole step] at active
      cases active
  · exact Course.continues_self whole

theorem continues_recover (steady : course.Steady) (whole : course.FailsWhole) :
    course.Continues (course.after Move.recover) := by
  unfold Course.after
  rw [Move.run_recover]
  split
  · next attempt =>
    obtain ⟨running, -⟩ := fits_running (attempt ▸ steady.fits)
    have idle : course.step.isTerminal = false := by rw [attempt]; rfl
    have active : course.run.isTerminal = false := by rw [running]; rfl
    split
    · exact Course.continues_focus whole ⟨rfl, rfl, rfl, rfl, rfl, fun pointed => pointed⟩ rfl (.inr ⟨idle, by simp⟩)
        (.inr active)
    · exact Course.continues_focus whole ⟨rfl, rfl, rfl, rfl, rfl, fun pointed => pointed⟩ rfl (.inr ⟨idle, by simp⟩)
        (.inr active)
  · exact Course.continues_focus whole ⟨rfl, rfl, rfl, rfl, rfl, fun pointed => pointed⟩ rfl (.inl rfl) (.inl rfl)

/-- Only an attempt adds to the attempts, and only a run that goes on starts one. -/
theorem continues_begin (workerId : String) (startable : course.Startable)
    (idle : course.step = .ready ∨ course.step = .retryWait) : course.Continues (course.after (Move.begin workerId)) := by
  have active : course.run.isTerminal = false := startable.active
  unfold Course.after
  rw [Move.run_begin course workerId idle, Move.run_start _ rfl]
  constructor
  · refine Course.goesOn_focus ⟨rfl, rfl, rfl, rfl, rfl, fun _ => rfl⟩ (Nat.le_succ _) ?_ ?_
    · intro ended
      rcases idle with step | step <;> rw [step] at ended <;> cases ended
    · intro ended
      rw [ended] at active
      cases active
  · intro failed
    cases failed

theorem rows_waiting {steps : List StepIdentity} {first second : AgentRunStepStatus} (open_ : first.isTerminal = false) :
    RowsOnward (steps.map fun step => ⟨step, first, 0⟩) (steps.map fun step => ⟨step, second, 0⟩) := by
  unfold RowsOnward
  rw [List.forall₂_map_left_iff, List.forall₂_map_right_iff]
  apply List.forall₂_same.mpr
  intro step _
  refine ⟨rfl, Nat.le_refl _, ?_⟩
  intro ended
  have ended : first.isTerminal = true := ended
  rw [open_] at ended
  cases ended

theorem continues_cancel (steady : course.Steady) (whole : course.FailsWhole) :
    course.Continues (course.after Move.cancel) := by
  unfold Course.after
  rw [Move.run_cancel]
  split
  · exact Course.continues_self whole
  · next other =>
    split
    · exact Course.continues_self whole
    · next active =>
      have active : course.run.isTerminal = false := by simpa using active
      -- a requested cancellation has cancelled the run
      have uncancelled : course.cancelRequested = false := by
        by_contra requested
        exact other (steady.fits.2.2.2.1.mp (by simpa using requested))
      refine ⟨⟨rfl, ?_, fun ended => ?_, fun ended => ?_⟩, fun failed => ?_⟩
      · unfold Course.rows
        rw [uncancelled]
        apply List.rel_append (rowsOnward_self _)
        apply List.Forall₂.cons _ (rows_waiting rfl)
        refine ⟨rfl, Nat.le_refl _, ?_⟩
        intro ended
        have ended : course.step.isTerminal = true := ended
        simp [ended]
      · rw [ended] at active
        cases active
      · rw [ended] at active
        cases active
      · -- a step that failed ends its run, so the run would be over
        by_cases ended : course.step.isTerminal = true
        · have failed : course.step = .failed := by simpa [ended] using failed
          rw [whole failed] at active
          cases active
        · simp [ended] at failed

theorem continues_finish (steady : course.Steady) (decision : VerificationDecision) (attempt : course.step = .running) :
    course.Continues (course.after (Move.finish decision)) := by
  obtain ⟨running, uncancelled⟩ := fits_running (attempt ▸ steady.fits)
  have inactive : ¬ course.run.isTerminal = true := by rw [running]; decide
  have unended : ¬ course.step.isTerminal = true := by rw [attempt]; decide
  unfold Course.after
  by_cases passing : decision = .pass
  · subst passing
    cases waiting : course.waiting with
    | nil =>
      -- the last step has passed: the run succeeds
      rw [Move.run_finish_last course attempt running waiting]
      refine ⟨Course.goesOn_focus ⟨rfl, rfl, rfl, rfl, rfl, fun pointed => pointed⟩ (Nat.le_refl _) ?_ ?_, ?_⟩
      · exact fun ended => absurd ended unended
      · exact fun ended => absurd ended inactive
      · intro failed
        cases failed
    | cons next rest =>
      rw [Move.run_finish_next course attempt waiting]
      refine ⟨⟨rfl, ?_, fun ended => absurd ended inactive, fun ended => absurd ended inactive⟩, ?_⟩
      · -- the focus goes one step on
        unfold Course.rows
        rw [waiting, uncancelled, List.map_append, List.append_assoc]
        apply List.rel_append (rowsOnward_self _)
        refine .cons ⟨rfl, Nat.le_refl _, fun ended => absurd ended unended⟩ (.cons ⟨rfl, Nat.le_refl _, ?_⟩ (rowsOnward_self _))
        intro ended
        cases ended
      · intro failed
        cases failed
  · -- any other verdict ends the attempt; only a permanent failure fails the step
    rw [Move.run_finish_failure course passing attempt running]
    refine ⟨Course.goesOn_focus ⟨rfl, rfl, rfl, rfl, rfl, fun pointed => pointed⟩ (Nat.le_refl _) ?_ ?_, ?_⟩
    · exact fun ended => absurd ended unended
    · exact fun ended => absurd ended inactive
    · intro failed
      cases decision with
      | pass => exact absurd rfl passing
      | retryTransient => by_cases spent : course.Spent <;> simp [Move.verdict, spent] at failed
      | needsRevision | needsHuman | blockPolicy => cases failed
      | failPermanent => rfl

theorem Course.Steady.continues (steady : course.Steady) (whole : course.FailsWhole) (deed : Deed)
    (enabled : deed.Enabled course) : course.Continues (course.after deed.move) := by
  cases deed with
  | bind leaseId => exact ⟨⟨rfl, rowsOnward_self _, fun _ => rfl, fun _ => rfl⟩, whole⟩
  | hold => exact continues_toBoth whole (by simp)
  | block => exact continues_toBoth whole (by simp)
  | clear => exact continues_allow whole
  | decided decision =>
    cases decision with
    | allow => exact continues_allow whole
    | block => exact continues_deny whole
  | decidedElsewhere decision =>
    cases decision with
    | allow => exact continues_allowElsewhere whole
    | block => exact continues_denyElsewhere whole
  | pause => exact continues_pause whole
  | resume => exact continues_resume whole
  | cancel => exact continues_cancel steady whole
  | retry => exact continues_retry whole enabled.1 enabled.2
  | recover => exact continues_recover steady whole
  | begin workerId => exact continues_begin workerId enabled.1 enabled.2.1
  | finish decision => exact continues_finish steady decision enabled

/-- A list of deeds continues a course. -/
theorem Performs.continues {last : Course} {deeds : List Deed} (performs : Performs course deeds last)
    (steady : course.Steady) (whole : course.FailsWhole) : course.Continues last := by
  induction performs with
  | done => exact Course.continues_self whole
  | deed deed enabled _ ih =>
    have first := steady.continues whole deed enabled
    have rest := ih (steady.deed deed enabled) first.whole
    exact ⟨first.goesOn.trans rest.goesOn, rest.whole⟩

end Deeds

section Runs

variable {runtime : Runtime} {allowed : Store → RunRequest → Prop}

theorem every_whole {store : Store} (reachable : (runMachine runtime).Reachable allowed store) :
    store.Every fun course => course.Steady ∧ course.FailsWhole := by
  apply every_reachable _ _ reachable
  · intro course deeds initial binds
    have whole : course.FailsWhole := by
      intro failed
      rw [initial.step] at failed
      cases failed
    exact (binds.performs.continues initial.steady whole).whole
  · intro store runId course request response deeds _ _ steady whole performs _
    exact (performs.continues steady whole).whole

/-- The stored run later: it is the same run, its steps went on, and a terminal status is final. -/
structure DurableRun.GoesOn (durable later : DurableRun) : Prop where
  binding : later.run.binding =
    { durable.run.binding with capabilityLeaseId := later.run.capabilityLeaseId }
  steps : RowsOnward (durable.steps.map AgentRunStep.row) (later.steps.map AgentRunStep.row)
  ended : durable.run.status.isTerminal = true → later.run.status = durable.run.status ∧
    later.steps.map (·.attemptCount) = durable.steps.map (·.attemptCount)

theorem DurableRun.goesOn_self (durable : DurableRun) : durable.GoesOn durable :=
  ⟨rfl, rowsOnward_self _, fun _ => ⟨rfl, rfl⟩⟩

theorem DurableRun.GoesOn.trans {durable middle last : DurableRun} (start : durable.GoesOn middle)
    (rest : middle.GoesOn last) : durable.GoesOn last where
  binding := by rw [rest.binding, start.binding]
  steps := start.steps.trans rest.steps
  ended ended := by
    obtain ⟨status, attempts⟩ := start.ended ended
    obtain ⟨kept, still⟩ := rest.ended (status ▸ ended)
    exact ⟨kept.trans status, still.trans attempts⟩

theorem Depicts.goesOn {durable later : DurableRun} {course reached : Course}
    (depicts : Depicts durable.run durable.steps course) (shows : Depicts later.run later.steps reached)
    (goesOn : course.GoesOn reached) : durable.GoesOn later := by
  have attempts (steps : List AgentRunStep) : steps.map (·.attemptCount) = (steps.map AgentRunStep.row).map (·.attempts) := by
    rw [List.map_map]
    rfl
  obtain ⟨status, -, -, -, binding, -⟩ := depicts.reads
  obtain ⟨statusLater, -, -, -, bindingLater, -⟩ := shows.reads
  constructor
  · have lease : later.run.capabilityLeaseId = reached.binding.capabilityLeaseId := by rw [← bindingLater]; rfl
    rw [bindingLater, binding, lease]
    exact goesOn.binding
  · rw [depicts.rows, shows.rows]
    exact goesOn.rows
  · intro ended
    rw [status] at ended
    refine ⟨?_, ?_⟩
    · rw [statusLater, status]
      exact goesOn.ended ended
    · rw [attempts, attempts, depicts.rows, shows.rows]
      exact goesOn.idle ended

/-- Every stored run is still there, and went on. -/
def Store.RunsGoOn (store later : Store) : Prop :=
  ∀ runId durable, store.agentRuns.get? runId = some durable →
    ∃ after, later.agentRuns.get? runId = some after ∧ durable.GoesOn after

theorem Store.RunsGoOn.trans {store middle last : Store} (start : store.RunsGoOn middle) (rest : middle.RunsGoOn last) :
    store.RunsGoOn last := by
  intro runId durable stored
  obtain ⟨between, found, first⟩ := start runId durable stored
  obtain ⟨after, present, second⟩ := rest runId between found
  exact ⟨after, present, first.trans second⟩

theorem next_goesOn {store : Store} (reachable : (runMachine runtime).Reachable allowed store) (request : RunRequest) :
    store.RunsGoOn ((runMachine runtime).next store request) := by
  intro runId durable stored
  obtain ⟨course, named, depicts, steady, whole⟩ := every_whole reachable runId durable stored
  obtain ⟨deeds, performs, ⟨after, present, _, shown⟩, _⟩ := perform_serves ⟨durable, stored, named, depicts⟩ steady request
  exact ⟨after, present, depicts.goesOn shown (performs.continues steady whole).goesOn⟩

/-- The history of a run is never taken back. In every later store the run is there with
the same steps in the same order, no step has lost an attempt, a step at a terminal
status stands as it was, and a run at a terminal status keeps it and starts no attempt. -/
theorem run_history_kept (runtime : Runtime) (store later : Store)
    (reachable : (runMachine runtime).Reachable Machine.anything store)
    (follows : (runMachine runtime).Follows Machine.anything store later) : store.RunsGoOn later := by
  induction follows with
  | done => exact fun runId durable stored => ⟨durable, stored, durable.goesOn_self⟩
  | step request before _ ih => exact ih.trans (next_goesOn (reachable.follow before) request)

end Runs

section Sample

theorem run_history_kept_cancelled :
    (storeAfter (.plain false) [createRequest 1 (by decide)]).RunsGoOn
      ((runMachine (.plain false)).runAll (storeAfter (.plain false) [createRequest 1 (by decide)])
        [.cancel createdRunId "Stop", .createRun ⟨"task_1", none, 1, by decide, none⟩]) :=
  run_history_kept (.plain false) _ _ (storeAfter_reachable _ _) (Machine.follows_anything _ _)

end Sample

end ControlTower
