import ControlTower.Run.Deed
import ControlTower.Run.Routes
import ControlTower.Trust.Verdict

/-! Runs in the store: the course that a stored run shows, and how procedures on
one run move it and spare the others. -/

set_option autoImplicit false

namespace ControlTower

open Foundation
open Foundation.Procedure

/-- The stored run shows a course. -/
def Store.Shows (store : Store) (runId : String) (course : Course) : Prop :=
  ∃ durable, store.agentRuns.get? runId = some durable ∧ durable.run.id = runId ∧
    Depicts durable.run durable.steps course

/-- A stored run is as it was. -/
def Store.Spares (runId : String) (before after : Store) : Prop :=
  after.agentRuns.get? runId = before.agentRuns.get? runId

theorem Store.Shows.of_same {store after : Store} {runId : String} {course : Course}
    (shows : store.Shows runId course) (same : after.agentRuns.get? runId = store.agentRuns.get? runId) :
    after.Shows runId course := by
  obtain ⟨durable, stored, named, depicts⟩ := shows
  exact ⟨durable, same.trans stored, named, depicts⟩

theorem Store.Shows.of_runs {store after : Store} {runId : String} {course : Course}
    (shows : store.Shows runId course) (same : after.agentRuns = store.agentRuns) : after.Shows runId course :=
  shows.of_same (by rw [same])

section Sparing

variable {α β : Type} {runtime : Runtime} {runId : String}

theorem Store.spares_self (runId : String) (store : Store) : Store.Spares runId store store := rfl

theorem Store.spares_trans (runId : String) (first middle last : Store) (start : Store.Spares runId first middle)
    (rest : Store.Spares runId middle last) : Store.Spares runId first last :=
  Eq.trans rest start

/-- A procedure that leaves a stored run alone. -/
abbrev Sparing (runId : String) (body : StoreProcedure α) : Prop := Guarantees (Store.Spares runId) body

theorem sparing_runs {body : StoreProcedure α} (same : ∀ store, (body.run store).2.agentRuns = store.agentRuns) :
    Sparing runId body := fun store => by rw [Store.Spares, same store]

theorem Quiet.sparing {body : StoreProcedure α} (quiet : Quiet body) : Sparing runId body :=
  sparing_runs fun store => (quiet store).runs

theorem sparing_bind {first : StoreProcedure α} {next : α → StoreProcedure β} (start : Sparing runId first)
    (rest : ∀ value, Sparing runId (next value)) : Sparing runId (first >>= next) :=
  guarantees_bind (Store.spares_trans runId) start rest

theorem sparing_read {next : Store → StoreProcedure β} (rest : ∀ store, Sparing runId (next store)) :
    Sparing runId (Procedure.state >>= next) :=
  sparing_bind (guarantees_state (Store.spares_self runId)) rest

theorem sparing_demand {condition : Prop} [Decidable condition] (error : Raised) :
    Sparing runId (demand condition error) :=
  guarantees_demand (Store.spares_self runId) error

theorem sparing_found (value : Option α) (error : Raised) : Sparing runId (found value error) :=
  guarantees_found (Store.spares_self runId) value error

theorem sparing_pure (value : α) : Sparing runId (pure value) := guarantees_pure (Store.spares_self runId) value

theorem sparing_raise (error : Raised) : Sparing runId (raise error : StoreProcedure α) :=
  guarantees_raise (Store.spares_self runId) error

theorem sparing_runOr404 (target : String) : Sparing runId (runOr404 target) :=
  sparing_read fun _ => sparing_found _ _

theorem Store.Shows.spared {store after : Store} {course : Course} (shows : store.Shows runId course)
    (spares : Store.Spares runId store after) : after.Shows runId course := shows.of_same spares

end Sparing

section Facts

variable {run : AgentRun} {steps : List AgentRunStep} {course : Course}

theorem Depicts.owned (depicts : Depicts run steps course) : course.focus.runId = course.binding.id := by
  obtain ⟨passed, focus, ahead, picture, rfl⟩ := depicts
  have member : focus.identity ∈ steps.map AgentRunStep.identity := by
    rw [picture.arranged]
    simp
  exact picture.lineup.owned _ member

/-- The current step of a run is the step in focus. -/
theorem Depicts.current (depicts : Depicts run steps course) :
    ∃ focus, DurableRun.currentStep ⟨run, steps⟩ = some focus ∧ focus.identity = course.focus ∧
      focus.status = course.step ∧ focus.attemptCount = course.attempts := by
  obtain ⟨passed, focus, ahead, picture, rfl⟩ := depicts
  refine ⟨focus, ?_, rfl, rfl, rfl⟩
  have found : findStep steps focus.id = some focus := by
    have distinct := picture.lineup.distinct_ids
    rw [picture.arranged] at distinct ⊢
    exact findStep_focus distinct
  simp [DurableRun.currentStep, picture.pointed, found]

/-- A step with the identifier in focus is the current step. -/
theorem Depicts.finds (depicts : Depicts run steps course) :
    ∃ focus, findStep steps course.focus.id = some focus ∧ focus.identity = course.focus ∧
      focus.status = course.step ∧ focus.attemptCount = course.attempts := by
  obtain ⟨focus, current, identity, status, attempts⟩ := depicts.current
  refine ⟨focus, ?_, identity, status, attempts⟩
  have pointed := depicts.reads.2.2.2.2.2
  simpa [DurableRun.currentStep, pointed] using current

/-- Away from the focus every step has passed or waits untouched. -/
theorem Depicts.elsewhere (depicts : Depicts run steps course) {step : AgentRunStep} (here : step ∈ steps)
    (other : step.id ≠ course.focus.id) :
    step.status = .succeeded ∨ (step.status = waitingStatus course.cancelRequested ∧ step.attemptCount = 0) := by
  obtain ⟨passed, focus, ahead, picture, rfl⟩ := depicts
  rw [picture.arranged] at here
  rcases List.mem_append.mp here with earlier | later
  · exact .inl (picture.done step earlier).1
  · rcases List.mem_cons.mp later with rfl | behind
    · exact absurd rfl other
    · exact .inr (picture.waits step behind)

theorem Depicts.boundary (depicts : Depicts run steps course) (boundary : DurableRun.AtBoundary ⟨run, steps⟩) :
    course.step ≠ .running ∧ course.holder = none := by
  obtain ⟨focus, current, -, status, -⟩ := depicts.current
  obtain ⟨still, free, -⟩ := boundary
  refine ⟨?_, depicts.reads.2.2.2.1.symm.trans free⟩
  rw [current] at still
  simpa [status] using still

end Facts

section OnRun

variable {runtime : Runtime} {store : Store} {runId : String} {course : Course} {α : Type}

theorem ends_runOr404 {next : DurableRun → StoreProcedure α} {post : Except Raised α → Store → Prop}
    {durable : DurableRun} (stored : store.agentRuns.get? runId = some durable)
    (passes : (next durable).Ends store post) : (runOr404 runId >>= next).Ends store post := by
  simpa only [runOr404, ends_bind, ends_state, continue_ok, stored, ends_found_some] using passes

theorem ends_anyRun {next : DurableRun → StoreProcedure α} {post : Except Raised α → Store → Prop}
    (refused : ∀ error, post (.error error) store)
    (passes : ∀ durable, store.agentRuns.get? runId = some durable → (next durable).Ends store post) :
    (runOr404 runId >>= next).Ends store post := by
  cases stored : store.agentRuns.get? runId with
  | none =>
    simp only [runOr404, ends_bind, ends_state, continue_ok, stored]
    exact refused _
  | some durable => exact ends_runOr404 stored (passes durable stored)

theorem onRun_ends {body : RunProcedure α} {post : Except Raised α → Store → Prop} {durable : DurableRun}
    (stored : store.agentRuns.get? runId = some durable) :
    (onRun runId body).Ends store post ↔
      body.Ends ⟨durable.run, durable.steps, store.ticks⟩ fun outcome scope =>
        post outcome { store with
          agentRuns := store.agentRuns.set runId ⟨scope.run, scope.steps⟩
          ticks := scope.ticks } := by
  simp only [Ends, onRun, stored]

/-- Work on a run changes the runs and the clock, and nothing else. -/
theorem onRun_frame (body : RunProcedure α) :
    Guarantees (fun before after : Store => ∃ runs ticks, after = { before with agentRuns := runs, ticks := ticks })
      (onRun runId body) := by
  intro store
  cases stored : store.agentRuns.get? runId with
  | none =>
    simp only [onRun, stored]
    exact ⟨store.agentRuns, store.ticks, rfl⟩
  | some durable =>
    simp only [onRun, stored]
    exact ⟨_, _, rfl⟩

theorem onRun_spares (body : RunProcedure α) {other : String} (different : other ≠ runId) :
    Guarantees (Store.Spares other) (onRun runId body) := by
  intro store
  cases stored : store.agentRuns.get? runId with
  | none => simp only [onRun, stored, Store.Spares]
  | some durable => simp only [onRun, stored, Store.Spares, Table.get?_set_other _ _ different]

theorem onRun_time {body : RunProcedure α} (onward : RunOnward body) :
    Guarantees (fun before after : Store => before.ticks ≤ after.ticks) (onRun runId body) := by
  intro store
  cases stored : store.agentRuns.get? runId with
  | none => simp only [onRun, stored, Nat.le_refl]
  | some durable =>
    simp only [onRun, stored]
    exact (onward ⟨durable.run, durable.steps, store.ticks⟩).2.2

/-- A procedure on a run that shows a course ends in a run that shows a course. -/
theorem onRun_shows {body : RunProcedure α} {post : Except Raised α → Course → Prop}
    (shows : store.Shows runId course) (onward : RunOnward body)
    (ends : ∀ scope : RunScope, Depicts scope.run scope.steps course → body.Ends scope fun outcome after =>
      ∃ reached, Depicts after.run after.steps reached ∧ post outcome reached) :
    (onRun runId body).Ends store fun outcome after =>
      ∃ reached, after.Shows runId reached ∧ post outcome reached := by
  obtain ⟨durable, stored, named, depicts⟩ := shows
  rw [onRun_ends stored]
  have went := onward ⟨durable.run, durable.steps, store.ticks⟩
  have reached := ends ⟨durable.run, durable.steps, store.ticks⟩ depicts
  obtain ⟨last, shown, holds⟩ := reached
  exact ⟨last, ⟨_, Table.get?_set_self _ _ _, went.1.trans named, shown⟩, holds⟩

/-- The same for a move, on the run as it is stored. -/
theorem onRun_carriesAt {body : RunProcedure α} {move : Move} {durable : DurableRun}
    (stored : store.agentRuns.get? runId = some durable) (named : durable.run.id = runId) (onward : RunOnward body)
    (carries : body.Ends ⟨durable.run, durable.steps, store.ticks⟩ (Carries course move)) :
    (onRun runId body).Ends store fun outcome after =>
      after.Shows runId (course.after move) ∧ outcome.isOk = course.accepts move := by
  rw [onRun_ends stored]
  have went := onward ⟨durable.run, durable.steps, store.ticks⟩
  exact ⟨⟨_, Table.get?_set_self _ _ _, went.1.trans named, carries.1⟩, carries.2⟩

theorem onRun_carries {body : RunProcedure α} {move : Move} (shows : store.Shows runId course)
    (onward : RunOnward body)
    (carries : ∀ scope : RunScope, Depicts scope.run scope.steps course → body.Ends scope (Carries course move)) :
    (onRun runId body).Ends store fun outcome after =>
      after.Shows runId (course.after move) ∧ outcome.isOk = course.accepts move := by
  obtain ⟨durable, stored, named, depicts⟩ := shows
  exact onRun_carriesAt stored named onward (carries _ depicts)

/-- The same for a procedure on the step in focus. -/
theorem onFocus_carries {body : StepProcedure Unit} {move : Move} (shows : store.Shows runId course)
    (onward : StepOnward body) (stays : move.Local)
    (projects : ∀ passed ahead state, ProjectsAt (seen passed ahead) body move state) :
    (onRun runId (atStep course.focus.id body)).Ends store fun outcome after =>
      after.Shows runId (course.after move) ∧ outcome.isOk = course.accepts move := by
  refine onRun_carries shows (atStep_onward _ onward) fun scope depicts => ?_
  obtain ⟨passed, focus, ahead, picture, rfl⟩ := depicts
  exact atStep_carries picture (projects _ _ _) stays

end OnRun

end ControlTower
