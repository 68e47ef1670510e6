import ControlTower.Foundation.Tally
import ControlTower.Run.Refusals

/-! The attempt budget of a step. Retries, the watchdog and the verdicts of the supervisor
respect it; an operator, a decision or an authorization that lets a step through a gate
does not look at it, and so each may grant one attempt more. -/

set_option autoImplicit false

namespace ControlTower

open Foundation
open Foundation.Procedure

/-- No step was tried more often than its budget and the attempts granted to it beyond it. -/
structure Course.Budgeted (granted : String → Nat) (course : Course) : Prop where
  behind : ∀ passed ∈ course.behind, passed.2 ≤ passed.1.maxAttempts + granted passed.1.id
  tried : course.attempts ≤ course.focus.maxAttempts + granted course.focus.id
  left : course.step = .ready ∨ course.step = .retryWait →
    course.attempts < course.focus.maxAttempts + granted course.focus.id
  ahead : ∀ step ∈ course.waiting, 1 ≤ step.maxAttempts

/-- The deed lets a step through its gate. -/
def Deed.Opens : Deed → Prop
  | .clear | .decided .allow | .resume => True
  | _ => False

/-- A deed that opens a gate finds an attempt left, or brings one. -/
def Deed.Affords (granted : String → Nat) (course : Course) (deed : Deed) : Prop :=
  deed.Opens → course.step = .needsHuman → course.attempts < course.focus.maxAttempts + granted course.focus.id

section Budgeted

variable {granted : String → Nat} {course : Course}

theorem Course.Budgeted.more {further : String → Nat} (budgeted : course.Budgeted granted)
    (more : ∀ stepId, granted stepId ≤ further stepId) : course.Budgeted further where
  behind passed member := (budgeted.behind passed member).trans (Nat.add_le_add_left (more _) _)
  tried := budgeted.tried.trans (Nat.add_le_add_left (more _) _)
  left idle := (budgeted.left idle).trans_le (Nat.add_le_add_left (more _) _)
  ahead := budgeted.ahead

theorem Course.Budgeted.row (budgeted : course.Budgeted granted) {row : StepRow} (member : row ∈ course.rows) :
    row.attempts ≤ row.identity.maxAttempts + granted row.identity.id := by
  unfold Course.rows at member
  rcases List.mem_append.mp member with before | later
  · obtain ⟨passed, listed, rfl⟩ := List.mem_map.mp before
    exact budgeted.behind passed listed
  · rcases List.mem_cons.mp later with rfl | after
    · exact budgeted.tried
    · obtain ⟨waits, listed, rfl⟩ := List.mem_map.mp after
      exact Nat.zero_le _

/-- A change of the statuses that makes a step ready only where an attempt is left. -/
theorem Course.Budgeted.beside {last : Course} (budgeted : course.Budgeted granted) (beside : course.Beside last)
    (idle : last.step = .ready ∨ last.step = .retryWait →
      course.attempts < course.focus.maxAttempts + granted course.focus.id) : last.Budgeted granted where
  behind := by
    rw [beside.behind]
    exact budgeted.behind
  tried := by
    rw [beside.attempts, beside.focus]
    exact budgeted.tried
  left ready := by
    rw [beside.attempts, beside.focus]
    exact idle ready
  ahead := by
    rw [beside.waiting]
    exact budgeted.ahead

theorem Course.Budgeted.toBoth (budgeted : course.Budgeted granted) {goal : AgentRunStepStatus} {runGoal : AgentRunStatus}
    (pair : (goal, runGoal) ∈ [(.needsHuman, .needsHuman), (.blocked, .blocked)]) :
    (course.after (Move.toBoth goal runGoal)).Budgeted granted := by
  have quiet : goal ≠ .running ∧ goal ≠ .ready ∧ goal ≠ .retryWait := by
    simp only [List.mem_cons, Prod.mk.injEq, List.not_mem_nil, or_false] at pair
    obtain ⟨rfl, -⟩ | ⟨rfl, -⟩ := pair <;> decide
  apply budgeted.beside (beside_toBoth goal runGoal quiet.1)
  have ends : (course.after (Move.toBoth goal runGoal)).step = goal ∨
      (course.after (Move.toBoth goal runGoal)).step = course.step := by
    unfold Course.after
    rw [Move.run_toBoth]
    split
    · split <;> exact .inl rfl
    · exact .inr rfl
  intro idle
  rcases ends with moved | same
  · rw [moved] at idle
    exact (idle.elim quiet.2.1 quiet.2.2).elim
  · rw [same] at idle
    exact budgeted.left idle

theorem Course.Budgeted.allow (budgeted : course.Budgeted granted)
    (affords : course.step = .needsHuman → course.attempts < course.focus.maxAttempts + granted course.focus.id) :
    (course.after Move.allow).Budgeted granted := by
  apply budgeted.beside beside_allow
  unfold Course.after
  rw [Move.run_allow]
  by_cases gate : course.step = .needsHuman
  · exact fun _ => affords gate
  · simp only [gate, if_false]
    exact budgeted.left

theorem Course.Budgeted.begin (budgeted : course.Budgeted granted) (workerId : String)
    (idle : course.step = .ready ∨ course.step = .retryWait) :
    (course.after (Move.begin workerId)).Budgeted granted := by
  have left := budgeted.left idle
  unfold Course.after
  rw [Move.run_begin course workerId idle, Move.run_start _ rfl]
  exact ⟨budgeted.behind, left, by simp, budgeted.ahead⟩

theorem Course.Budgeted.finish (budgeted : course.Budgeted granted) (steady : course.Steady) (decision : VerificationDecision)
    (attempt : course.step = .running) : (course.after (Move.finish decision)).Budgeted granted := by
  obtain ⟨active, -⟩ := fits_running (attempt ▸ steady.fits)
  unfold Course.after
  by_cases passing : decision = .pass
  · subst passing
    cases waiting : course.waiting with
    | nil =>
      rw [Move.run_finish_last course attempt active waiting]
      exact ⟨budgeted.behind, budgeted.tried, by simp, budgeted.ahead⟩
    | cons next rest =>
      have ahead := budgeted.ahead
      rw [waiting] at ahead
      rw [Move.run_finish_next course attempt waiting]
      refine ⟨?_, Nat.zero_le _, fun _ => ?_, fun step member => ahead step (List.mem_cons_of_mem _ member)⟩
      · intro passed member
        rcases List.mem_append.mp member with before | here
        · exact budgeted.behind passed before
        · rw [List.mem_singleton] at here
          subst here
          exact budgeted.tried
      · exact Nat.lt_of_lt_of_le (ahead next List.mem_cons_self) (Nat.le_add_right _ _)
  · rw [Move.run_finish_failure course passing attempt active]
    refine ⟨budgeted.behind, budgeted.tried, fun idle => ?_, budgeted.ahead⟩
    -- only a transient failure with an attempt left makes the step wait for a retry
    have left : ¬ course.Spent := by
      intro spent
      revert idle
      cases decision <;> simp [Move.verdict, spent]
    exact Nat.lt_of_lt_of_le (Nat.not_le.mp left) (Nat.le_add_right _ _)

theorem Course.Budgeted.deed (budgeted : course.Budgeted granted) (steady : course.Steady) (deed : Deed)
    (enabled : deed.Enabled course) (affords : deed.Affords granted course) : (course.after deed.move).Budgeted granted := by
  -- a clearance, an allow and a resume take the step through its human gate, which a grant has to pay for
  cases deed with
  | bind leaseId => exact budgeted.beside ⟨rfl, rfl, rfl, rfl, rfl⟩ budgeted.left
  | hold => exact budgeted.toBoth (by simp)
  | block => exact budgeted.toBoth (by simp)
  | clear => exact budgeted.allow (affords trivial)
  | decided decision =>
    cases decision with
    | allow => exact budgeted.allow (affords trivial)
    | block =>
      simp only [Deed.move, Course.after, Move.run_deny]
      refine budgeted.beside ⟨rfl, rfl, rfl, rfl, rfl⟩ ?_
      by_cases gate : course.step = .needsHuman
      · simp [gate]
      · simp only [gate, if_false]
        exact budgeted.left
  | decidedElsewhere decision =>
    cases decision with
    | allow =>
      simp only [Deed.move, Course.after, Move.run_allowElsewhere]
      exact budgeted.beside ⟨rfl, rfl, rfl, rfl, rfl⟩ budgeted.left
    | block =>
      simp only [Deed.move, Course.after, Move.run_denyElsewhere]
      exact budgeted.beside ⟨rfl, rfl, rfl, rfl, rfl⟩ budgeted.left
  | pause =>
    simp only [Deed.move, Course.after, Move.run_pause]
    split
    · exact budgeted
    · split <;> exact budgeted.beside ⟨rfl, rfl, rfl, rfl, rfl⟩ budgeted.left
  | resume =>
    simp only [Deed.move, Course.after, Move.run_resume]
    split
    · refine budgeted.beside ⟨rfl, rfl, rfl, rfl, rfl⟩ ?_
      by_cases away : course.step = .paused ∨ course.step = .needsHuman ∨ course.step = .retryWait
      · intro _
        -- a wait for a retry is left with attempts to spare, a gate only with a grant
        rcases away with paused | gate | waits
        · exact absurd paused steady.fits.2.2.2.2.2.2.2.1
        · exact affords trivial gate
        · exact budgeted.left (.inr waits)
      · simp only [away, if_false]
        exact budgeted.left
    · exact budgeted
  | cancel =>
    simp only [Deed.move, Course.after, Move.run_cancel]
    split
    · exact budgeted
    · split
      · exact budgeted
      · refine ⟨budgeted.behind, budgeted.tried, fun idle => ?_, budgeted.ahead⟩
        by_cases gone : course.step.isTerminal = true
        · simp only [gone, if_true] at idle
          exact budgeted.left idle
        · simp [gone] at idle
  | retry =>
    simp only [Deed.move, Course.after, Move.run_retry course enabled.1]
    split
    · -- a retry is taken only where attempts are left
      next waits =>
      have left : course.attempts < course.focus.maxAttempts := Nat.not_le.mp waits.2
      exact budgeted.beside ⟨rfl, rfl, rfl, rfl, rfl⟩ fun _ => Nat.lt_of_lt_of_le left (Nat.le_add_right _ _)
    · exact budgeted
  | recover =>
    simp only [Deed.move, Course.after, Move.run_recover]
    split
    · split
      · exact budgeted.beside ⟨rfl, rfl, rfl, rfl, rfl⟩ (by simp)
      · next unspent =>
        have left : course.attempts < course.focus.maxAttempts := Nat.not_le.mp unspent
        exact budgeted.beside ⟨rfl, rfl, rfl, rfl, rfl⟩ fun _ => Nat.lt_of_lt_of_le left (Nat.le_add_right _ _)
    · exact budgeted.beside ⟨rfl, rfl, rfl, rfl, rfl⟩ budgeted.left
  | begin workerId => exact budgeted.begin workerId enabled.2.1
  | finish decision => exact budgeted.finish steady decision enabled

end Budgeted

/-- The requests that can let this step of a run through its gate. -/
def RunRequest.lets (runtime : Runtime) (store : Store) (runId : String) (step : AgentRunStep) : RunRequest → Bool
  | .resume target _ => target = runId
  | .executeNext target _ _ _ | .authorize target _ _ =>
      target = runId && runtime.trustEnforcement && step.stepType.hasSideEffect
  | .decide actionId payload _ =>
      store.namedByAction runtime actionId = some (runId, step.id) &&
        store.verdictOn actionId payload.decision = .allow
  | _ => false

/-- The request can let a step of the run through that waits for a human with its budget used up. -/
def RunRequest.reopens (runtime : Runtime) (store : Store) (runId stepId : String) (request : RunRequest) : Bool :=
  (store.agentRuns.get? runId).any fun durable => durable.currentStep.any fun step =>
    step.id = stepId && step.status = .needsHuman && step.maxAttempts ≤ step.attemptCount &&
      request.lets runtime store runId step

/-- The attempt that a request may grant to a step beyond its budget. -/
def reopening (runtime : Runtime) (runId : String) (store : Store) (request : RunRequest) : String → Nat :=
  fun stepId => if request.reopens runtime store runId stepId = true then 1 else 0

section Requests

variable {runtime : Runtime} {store : Store} {runId : String} {course : Course} {granted : String → Nat}
  {request : RunRequest}

theorem affords_alone (course : Course) {deed : Deed} (closed : ¬ deed.Opens) : deed.Affords granted course :=
  fun opens => absurd opens closed

/-- What a request does to a run affords an attempt for the gates it opens. -/
theorem Serves.affords {focus : AgentRunStep} {response : Except Raised Unit} {deeds : List Deed}
    (here : focus.identity = course.focus)
    (gate : request.lets runtime store runId focus = true → course.step = .needsHuman →
      course.attempts < course.focus.maxAttempts + granted course.focus.id)
    (serves : Serves runtime store runId course request response deeds) :
    course.Along (Deed.Affords granted) deeds := by
  have named : focus.id = course.focus.id := congrArg StepIdentity.id here
  have kind : focus.stepType = course.focus.stepType := congrArg StepIdentity.stepType here
  -- a capability lease and a refusal open no gate
  have binding : ∀ {course : Course} {bound : List Deed}, Bound course bound → course.Along (Deed.Affords granted) bound := by
    intro course bound binds
    cases binds with
    | unchanged => trivial
    | leased leaseId => exact ⟨affords_alone _ id, trivial⟩
  have refusing : ∀ {course : Course} {error : Raised} {after : Store} {ruled : List Deed},
      Refuses runId course error after ruled → course.Along (Deed.Affords granted) ruled := by
    intro course error after ruled refuses
    cases refuses with
    | plainly => trivial
    | held => exact ⟨affords_alone _ id, trivial⟩
    | blocked => exact ⟨affords_alone _ id, trivial⟩
  cases serves with
  | idle => trivial
  | bound _ _ _ binds => exact binding binds
  | paused | cancelled | retried | recovered => exact ⟨affords_alone _ id, trivial⟩
  | resumed => exact ⟨fun _ => gate (by simp [RunRequest.lets]), trivial⟩
  | decided actionId payload user _ _ _ decided =>
    cases decided with
    | apart => trivial
    | focus addressed =>
      refine ⟨fun opens => gate ?_, trivial⟩
      -- of the verdicts only an allow opens the gate
      have allows : store.verdictOn actionId payload.decision = .allow := by
        revert opens
        cases store.verdictOn actionId payload.decision <;> simp [Deed.Opens]
      simp [RunRequest.lets, allows, named, addressed]
    | beside => exact ⟨affords_alone _ id, trivial⟩
  | withheld _ _ _ _ _ refuses => exact refusing refuses
  | authorized _ _ _ _ rules =>
    cases rules with
    | exempt => trivial
    | cleared governed =>
      exact ⟨fun _ => gate (by simp [RunRequest.lets, governed.1, kind, governed.2.1]), trivial⟩
  | executed _ _ _ _ _ executes =>
    cases executes with
    | declined _ _ binds => exact binding binds
    | withheld _ _ bound ruled binds refuses => exact Course.along_two _ _ _ (binding binds) (refusing refuses)
    | attempted bound ruled tail _ _ binds rules attempt =>
      -- binding the lease leaves the step and its attempts as they were
      obtain ⟨beside, step, -, -⟩ := binds.beside
      have cleared : (course.along bound).Along (Deed.Affords granted) ruled := by
        cases rules with
        | exempt => trivial
        | cleared governed =>
          refine ⟨fun _ gated => ?_, trivial⟩
          have sideEffect := governed.2.1
          rw [beside.focus] at sideEffect ⊢
          rw [step] at gated
          rw [beside.attempts]
          exact gate (by simp [RunRequest.lets, governed.1, kind, sideEffect]) gated
      apply Course.along_two _ _ _ (Course.along_two _ _ _ (binding binds) cleared)
      cases attempt with
      | refused | waiting => trivial
      | crashed => exact ⟨affords_alone _ id, trivial⟩
      | finished => exact ⟨affords_alone _ id, affords_alone _ id, trivial⟩

/-- A steady course within its budgets. -/
def Course.Solvent (granted : String → Nat) (course : Course) : Prop := course.Steady ∧ course.Budgeted granted

/-- The stored run shows a solvent course. -/
def Store.WithinGrants (runId : String) (granted : String → Nat) (store : Store) : Prop :=
  ∀ durable, store.agentRuns.get? runId = some durable →
    ∃ course, durable.run.id = runId ∧ Depicts durable.run durable.steps course ∧ course.Solvent granted

theorem Course.Initial.withinBudget {deeds : List Deed} (initial : course.Initial) (binds : Bound course deeds) :
    (course.along deeds).Budgeted granted := by
  obtain ⟨beside, step, -, -⟩ := binds.beside
  have fresh : course.Budgeted granted := by
    refine ⟨?_, ?_, fun _ => ?_, fun step member => initial.budgeted step (List.mem_cons_of_mem _ member)⟩
    · rw [initial.behind]
      exact fun _ member => by cases member
    · rw [initial.attempts]
      exact Nat.zero_le _
    · rw [initial.attempts]
      exact Nat.lt_of_lt_of_le (initial.budgeted course.focus List.mem_cons_self) (Nat.le_add_right _ _)
  apply fresh.beside beside
  rw [step]
  exact fresh.left

/-- A gate that a request can open has an attempt left, or the request grants it one. -/
theorem Course.Budgeted.gate {durable : DurableRun} {focus : AgentRunStep} (budgeted : course.Budgeted granted)
    (stored : store.agentRuns.get? runId = some durable) (current : durable.currentStep = some focus)
    (here : focus.identity = course.focus) (status : focus.status = course.step) (tries : focus.attemptCount = course.attempts)
    (lets : request.lets runtime store runId focus = true) (gated : course.step = .needsHuman) :
    course.attempts < course.focus.maxAttempts + (granted + reopening runtime runId store request) course.focus.id := by
  have named : focus.id = course.focus.id := congrArg StepIdentity.id here
  have budget : focus.maxAttempts = course.focus.maxAttempts := congrArg StepIdentity.maxAttempts here
  have tried := budgeted.tried
  by_cases spent : course.focus.maxAttempts ≤ course.attempts
  · have reopens : request.reopens runtime store runId course.focus.id = true := by
      simp [RunRequest.reopens, stored, current, named, status, gated, budget, tries, spent, lets]
    have one : reopening runtime runId store request course.focus.id = 1 := if_pos reopens
    rw [Pi.add_apply, one]
    omega
  · rw [Pi.add_apply]
    omega

theorem next_withinGrants (granting : store.WithinGrants runId granted) :
    ((runMachine runtime).next store request).WithinGrants runId (granted + reopening runtime runId store request) := by
  intro later present
  cases before : store.agentRuns.get? runId with
  | none =>
    have arrives : (perform runtime request).Ends store fun _ after => Arrives runId after := perform_arrives before request
    obtain missing | ⟨course, deeds, initial, binds, shown⟩ := arrives
    · exact absurd (missing.symm.trans present) (by simp)
    · obtain ⟨named, depicts⟩ := shown.unfold present
      exact ⟨_, named, depicts, binds.performs.steady initial.steady, initial.withinBudget binds⟩
  | some durable =>
    obtain ⟨course, named, depicts, steady, budgeted⟩ := granting durable before
    obtain ⟨focus, current, here, status, tries⟩ := depicts.current
    have served : (perform runtime request).Ends store (Served runtime store runId course request) :=
      perform_serves ⟨durable, before, named, depicts⟩ steady request
    obtain ⟨deeds, performs, shown, serves⟩ := served
    obtain ⟨named, depicts⟩ := shown.unfold present
    have affords : course.Along (Deed.Affords (granted + reopening runtime runId store request)) deeds :=
      serves.affords here (budgeted.gate before current here status tries)
    have start : course.Solvent (granted + reopening runtime runId store request) :=
      ⟨steady, budgeted.more fun stepId => Nat.le_add_right _ _⟩
    have kept : (course.along deeds).Solvent (granted + reopening runtime runId store request) := by
      apply performs.keepsAlong affords start
      intro course deed enabled affords holds
      exact ⟨holds.1.deed deed enabled, holds.2.deed holds.1 deed enabled affords⟩
    exact ⟨_, named, depicts, kept⟩

end Requests

section Sample

theorem oneAttempt_fits : 1 ≤ 1 ∧ 1 ≤ 10 := by decide

/-- A budget of one attempt, a failure that waits for a human, a resumption and a second attempt. -/
def resumedRequests : List RunRequest :=
  [createRequest 1 oneAttempt_fits, lostRequest, .resume createdRunId "again", lostRequest]

end Sample

end ControlTower
