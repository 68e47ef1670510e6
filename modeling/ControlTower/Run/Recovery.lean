import ControlTower.Run.Rivals

/-! Recovery from a crash. The records of a run say when its worker has to be back, and
the watchdog frees a run whose worker is not: no run stays in flight. -/

set_option autoImplicit false

namespace ControlTower

open Foundation
open Foundation.Procedure
open Relation (ReflTransGen)

/-- A lease is held with a holder, a token and an end, or not at all; a run that is over
holds none and says when it ended. -/
structure AgentRun.Whole (run : AgentRun) : Prop where
  owner : run.leaseOwner = none ↔ run.leaseExpiresAt = none
  token : run.leaseToken = none ↔ run.leaseExpiresAt = none
  ended : run.status.isTerminal = true → run.leaseExpiresAt = none ∧ run.completedAt ≠ none

/-- A step that was tried says when, a step that is over says when, and the evidence of a
verdict is the one that its hash was taken of. -/
structure AgentRunStep.Whole (runtime : Runtime) (step : AgentRunStep) : Prop where
  started : 1 ≤ step.attemptCount → step.startedAt ≠ none
  ended : step.status.isTerminal = true → step.completedAt ≠ none
  evidenced : step.evidenceHash = if step.decision = none then none else some (runtime.sha256Hex step.evidence)

structure DurableRun.Whole (runtime : Runtime) (durable : DurableRun) : Prop where
  run : durable.run.Whole
  steps : ∀ step ∈ durable.steps, step.Whole runtime

section Records

variable {runtime : Runtime}

theorem RunChange.whole {run later : AgentRun} (change : RunChange run later) (whole : run.Whole) : later.Whole := by
  obtain ⟨owner, token, ended⟩ := whole
  cases change with
  | moved goal now reason =>
    cases gone : goal.isTerminal
    · exact ⟨by simpa [AgentRun.moved, gone] using owner, by simpa [AgentRun.moved, gone] using token,
        by simp [AgentRun.moved, gone]⟩
    · exact ⟨by simp [AgentRun.moved, gone], by simp [AgentRun.moved, gone], by simp [AgentRun.moved, gone]⟩
  | resumed now => exact ⟨owner, token, by simp⟩
  | leased active workerId leaseToken now leaseSeconds => exact ⟨by simp, by simp, by simp [active]⟩
  | extended workerId leaseToken held now leaseSeconds =>
    refine ⟨by simp [AgentRun.extended, held.1], by simp [AgentRun.extended, held.2], ?_⟩
    intro gone
    -- a run that is over is held by nobody
    rw [owner.mpr (ended gone).1] at held
    cases held.1
  | released heartbeatAt updatedAt =>
    exact ⟨by simp [AgentRun.withoutLease], by simp [AgentRun.withoutLease], fun gone => ⟨rfl, (ended gone).2⟩⟩
  | marked => exact ⟨owner, token, ended⟩

theorem StepChange.whole {step later : AgentRunStep} (change : StepChange runtime step later)
    (whole : step.Whole runtime) : later.Whole runtime := by
  obtain ⟨started, ended, evidenced⟩ := whole
  cases change with
  | same => exact ⟨started, ended, evidenced⟩
  | moved goal now reason =>
    refine ⟨?_, by cases gone : goal.isTerminal <;> simp [AgentRunStep.moved, gone], evidenced⟩
    by_cases attempt : goal = .running
    · by_cases first : step.startedAt = none <;> simp [AgentRunStep.moved, attempt, first]
    · simpa [AgentRunStep.moved, attempt] using started
  | recorded result now => exact ⟨started, ended, by simp⟩
  | leased | extended | released | delayed => exact ⟨started, ended, evidenced⟩
  | reopened => exact ⟨started, by simp [AgentRunStepStatus.isTerminal], evidenced⟩

theorem mem_putStep {steps : List AgentRunStep} {step changed : AgentRunStep} (member : changed ∈ putStep steps step) :
    changed = step ∨ changed ∈ steps := by
  obtain ⟨other, present, rfl⟩ := List.mem_map.mp member
  by_cases here : other.id = step.id
  · rw [if_pos here]
    exact .inl rfl
  · rw [if_neg here]
    exact .inr present

theorem DurableChange.whole {durable later : DurableRun} (change : DurableChange runtime durable later)
    (whole : durable.Whole runtime) : later.Whole runtime := by
  cases change with
  | run change => exact ⟨change.whole whole.run, whole.steps⟩
  | step found change =>
    refine ⟨whole.run, ?_⟩
    intro changed member
    rcases mem_putStep member with rfl | present
    · exact change.whole (whole.steps _ (findStep_some found).1)
    · exact whole.steps changed present

theorem DurableRun.New.whole {durable : DurableRun} (new : durable.New) : durable.Whole runtime := by
  obtain ⟨status, ⟨owner, token, expires⟩, steps⟩ := new
  refine ⟨⟨by simp [owner, expires], by simp [token, expires], by simp [status]⟩, ?_⟩
  intro step member
  obtain ⟨active, attempts, undecided, unhashed⟩ := steps step member
  exact ⟨by simp [attempts], by simp [active], by simp [undecided, unhashed]⟩

/-- Every stored record is whole. -/
theorem records_whole (runtime : Runtime) (store : Store)
    (reachable : (runMachine runtime).Reachable Machine.anything store) (runId : String) (durable : DurableRun)
    (stored : store.agentRuns.get? runId = some durable) : durable.Whole runtime := by
  apply records_reachable _ _ reachable runId durable stored
  · exact fun _ new => new.whole
  · exact fun _ _ change whole => change.whole whole

end Records

/-- A step that runs has a worker. -/
def Course.Manned (course : Course) : Prop := course.step = .running → course.holder ≠ none

/-- What every course of the service keeps. -/
def Course.Attended (course : Course) : Prop := course.Steady ∧ course.Manned

section Manned

variable {course : Course}

/-- A move that starts no attempt, and takes no worker from one. -/
theorem Course.Manned.calm {later : Course} (manned : course.Manned) (step : later.step = .running → course.step = .running)
    (holder : course.step = .running → later.holder = course.holder) : later.Manned := by
  intro attempt
  rw [holder (step attempt)]
  exact manned (step attempt)

/-- No verdict leaves the step running. -/
theorem verdict_rests (decision : VerificationDecision) : (Move.verdict course decision).1 ≠ .running := by
  cases decision with
  | retryTransient =>
    unfold Move.verdict
    dsimp only
    split <;> decide
  | pass | needsRevision | needsHuman | blockPolicy | failPermanent => exact fun same => by cases same

theorem Course.Manned.deed (manned : course.Manned) (steady : course.Steady) (deed : Deed) (enabled : deed.Enabled course) :
    (course.after deed.move).Manned := by
  -- a running step has a running run that is not cancelled
  have active : course.step = .running → course.run = .running ∧ course.cancelRequested = false := by
    intro attempt
    exact fits_running (attempt ▸ steady.fits)
  -- a verdict on the step starts nothing
  have idle : ∀ goal runGoal, goal ≠ .running → (course.after (Move.toBoth goal runGoal)).Manned := by
    intro goal runGoal quiet
    unfold Course.after
    rw [Move.run_toBoth]
    split
    · split <;> exact fun attempt => absurd attempt quiet
    · exact manned
  -- only a start makes a step run, and it has its worker by then
  cases deed with
  | bind leaseId => exact manned
  | hold => exact idle _ _ (by decide)
  | block => exact idle _ _ (by decide)
  | clear =>
    simp only [Deed.move, Course.after, Move.run_allow]
    exact manned.calm (by by_cases gate : course.step = .needsHuman <;> simp [gate]) fun _ => rfl
  | decided decision =>
    cases decision with
    | allow =>
      simp only [Deed.move, Course.after, Move.run_allow]
      exact manned.calm (by by_cases gate : course.step = .needsHuman <;> simp [gate]) fun _ => rfl
    | block =>
      simp only [Deed.move, Course.after, Move.run_deny]
      refine manned.calm (by by_cases gate : course.step = .needsHuman <;> simp [gate]) fun attempt => ?_
      simp [(active attempt).1]
  | decidedElsewhere decision =>
    cases decision with
    | allow =>
      simp only [Deed.move, Course.after, Move.run_allowElsewhere]
      exact manned.calm (fun attempt => attempt) fun _ => rfl
    | block =>
      simp only [Deed.move, Course.after, Move.run_denyElsewhere]
      refine manned.calm (fun attempt => attempt) fun attempt => ?_
      simp [(active attempt).1]
  | pause =>
    simp only [Deed.move, Course.after, Move.run_pause]
    split
    · exact manned
    · split <;> exact manned.calm (fun attempt => attempt) fun _ => rfl
  | resume =>
    simp only [Deed.move, Course.after, Move.run_resume]
    split
    · refine manned.calm (fun attempt => ?_) fun _ => rfl
      by_cases away : course.step = .paused ∨ course.step = .needsHuman ∨ course.step = .retryWait
      · simp [away] at attempt
      · simpa [away] using attempt
    · exact manned
  | cancel =>
    simp only [Deed.move, Course.after, Move.run_cancel]
    split
    · exact manned
    · split
      · exact manned
      · -- a step that ran is cancelled, so it runs no longer
        intro attempt
        by_cases gone : course.step.isTerminal = true
        · simp only [gone, if_true] at attempt
          exact absurd attempt enabled.1
        · simp [gone] at attempt
  | retry =>
    simp only [Deed.move, Course.after, Move.run_retry course enabled.1]
    split
    · intro attempt
      cases attempt
    · exact manned
  | recover =>
    simp only [Deed.move, Course.after, Move.run_recover]
    split
    · split <;> (intro attempt; cases attempt)
    · next still => exact fun attempt => absurd attempt still
  | begin workerId =>
    unfold Course.after
    show Course.Manned ((Move.begin workerId).run course).2
    rw [Move.run_begin course workerId enabled.2.1, Move.run_start _ rfl]
    intro _ free
    cases free
  | finish decision =>
    obtain ⟨running, -⟩ := active enabled
    unfold Course.after
    show Course.Manned ((Move.finish decision).run course).2
    by_cases passing : decision = .pass
    · subst passing
      cases waiting : course.waiting with
      | nil =>
        rw [Move.run_finish_last course enabled running waiting]
        intro attempt
        cases attempt
      | cons next rest =>
        rw [Move.run_finish_next course enabled waiting]
        intro attempt
        cases attempt
    · -- no verdict leaves the step running
      rw [Move.run_finish_failure course passing enabled running]
      exact fun attempt => absurd attempt (verdict_rests decision)

theorem manned_reachable {runtime : Runtime} {allowed : Store → RunRequest → Prop} {store : Store}
    (reachable : (runMachine runtime).Reachable allowed store) :
    store.Every fun course => course.Steady ∧ course.Manned := by
  have kept : ∀ course deeds, course.Steady → course.Manned → Performs course deeds (course.along deeds) →
      (course.along deeds).Steady ∧ (course.along deeds).Manned := by
    intro course deeds steady manned performs
    have start : course.Attended := ⟨steady, manned⟩
    apply performs.keeps start
    intro course deed _ enabled holds
    exact ⟨holds.1.deed deed enabled, holds.2.deed holds.1 deed enabled⟩
  apply every_reachable _ _ reachable
  · intro course deeds initial binds
    have unstarted : course.Manned := by
      intro attempt
      rw [initial.step] at attempt
      cases attempt
    exact (kept course deeds initial.steady unstarted binds.performs).2
  · intro store runId course request response deeds _ _ steady manned performs _
    exact (kept course deeds steady manned performs).2

end Manned

section Sweep

variable {runtime : Runtime} {store : Store} {now : Instant}

/-- The worker of the run has time left, or there is none. -/
def AgentRun.OnTime (run : AgentRun) (now : Instant) : Prop := (run.leaseExpiresAt.all fun expires => now < expires) = true

/-- What the watchdog does to a run. -/
structure Recovers (now : Instant) (durable later : DurableRun) : Prop where
  spared : durable.run.OnTime now → later = durable
  freed : ¬ durable.run.OnTime now → ∀ course, Depicts durable.run durable.steps course →
    Depicts later.run later.steps (course.after Move.recover)

theorem recoverStaleLease_late {scope : RunScope} {course : Course} (late : ¬ scope.run.OnTime now)
    (depicts : Depicts scope.run scope.steps course) :
    (recoverStaleLease runtime now).Ends scope (Carries course Move.recover) := by
  apply ends_read
  dsimp only
  rw [ends_ite]
  refine ⟨fun spared => absurd spared late, fun _ => ?_⟩
  refine carries_bind (carries_modifyRun depicts rfl rfl rfl fun passed focus ahead same => ?_) fun _ after shows => ?_
  · rw [← same]
    rfl
  · apply carries_answer true
    apply atCurrentStep_carries shows
    · exact Move.reads_local fun _ => Move.onlyIf_local Move.recoverStep_local
    · exact fun _ _ _ _ => recoverCurrent_projects now

/-- The store shows all its runs. -/
abbrev Store.Shown (store : Store) : Prop := store.Every fun _ => True

/-- The watchdog finishes its visit to a run. -/
theorem recoverVisit_recovers (shown : store.Shown) {target : String} {durable : DurableRun}
    (stored : store.agentRuns.get? target = some durable) :
    (onRun target (recoverStaleLease runtime now)).Ends store fun outcome after => outcome.isOk = true ∧ after.Shown ∧
      ∃ later, after.agentRuns = store.agentRuns.set target later ∧ Recovers now durable later := by
  obtain ⟨course, named, depicts, -⟩ := shown target durable stored
  have puts : ∀ (later : DurableRun) (reached : Course) (ticks : Nat), later.run.id = target →
      Depicts later.run later.steps reached →
      Store.Shown { store with agentRuns := store.agentRuns.set target later, ticks := ticks } := by
    intro later reached ticks identity shows runId known present
    rw [Table.get?_set] at present
    split at present
    · next here =>
      cases present
      exact ⟨reached, here ▸ identity, shows, trivial⟩
    · exact shown runId known present
  rw [onRun_ends stored]
  by_cases onTime : durable.run.OnTime now
  · apply ends_read
    dsimp only
    rw [ends_ite]
    refine ⟨fun _ => ?_, fun late => absurd onTime late⟩
    exact ⟨rfl, puts durable course _ named depicts, durable, rfl, ⟨fun _ => rfl, fun late => absurd onTime late⟩⟩
  · have onward : RunOnward (recoverStaleLease runtime now) := recoverStaleLease_onward now
    have carries : ∀ course, Depicts durable.run durable.steps course →
        (recoverStaleLease runtime now).Ends ⟨durable.run, durable.steps, store.ticks⟩ (Carries course Move.recover) :=
      fun course shows => recoverStaleLease_late onTime shows
    refine ⟨?_, puts _ _ _ ((onward _).1.trans named) (carries course depicts).1, _, rfl, ?_⟩
    · rw [(carries course depicts).2]
      simp [Course.accepts, Move.run_recover, Except.isOk, Except.toBool]
    · exact ⟨fun spared => absurd spared onTime, fun _ course shows => (carries course shows).1⟩

/-- A sweep visits every run it was given, once. -/
theorem recoverEach_recovers (runIds : List String) (distinct : runIds.Nodup) (shown : store.Shown)
    (known : ∀ runId ∈ runIds, ∃ durable, store.agentRuns.get? runId = some durable) :
    (each (fun target => do
        let _ ← onRun target (recoverStaleLease runtime now)
        pure ()) runIds).Ends store fun outcome after => outcome = .ok () ∧
      (∀ runId ∈ runIds, ∀ durable, store.agentRuns.get? runId = some durable →
        ∃ later, after.agentRuns.get? runId = some later ∧ Recovers now durable later) ∧
      ∀ runId, runId ∉ runIds → after.agentRuns.get? runId = store.agentRuns.get? runId := by
  induction runIds generalizing store with
  | nil => exact ⟨rfl, by simp, fun _ _ => rfl⟩
  | cons target rest ih =>
    obtain ⟨absent, distinct⟩ := List.nodup_cons.mp distinct
    obtain ⟨durable, stored⟩ := known target List.mem_cons_self
    -- one visit changes the record of its target alone
    have visit : (onRun target (recoverStaleLease runtime now) >>= fun _ => pure ()).Ends store fun outcome after =>
        outcome = .ok () ∧ after.Shown ∧
          ∃ later, after.agentRuns = store.agentRuns.set target later ∧ Recovers now durable later :=
      Ends.bind (recoverVisit_recovers shown stored) (fun _ _ ends => ⟨rfl, ends.2⟩) fun _ _ ends => by
        simp [Except.isOk, Except.toBool] at ends
    apply Ends.bind visit
    · intro _ middle ends
      obtain ⟨-, shown, later, runs, recovers⟩ := ends
      have others : ∀ runId, runId ≠ target → middle.agentRuns.get? runId = store.agentRuns.get? runId :=
        fun runId other => by rw [runs, Table.get?_set_other _ _ other]
      have apart : ∀ runId ∈ rest, runId ≠ target := fun runId member same => absent (same ▸ member)
      apply (ih distinct shown ?_).mono
      · intro outcome after ends
        obtain ⟨ok, visited, left⟩ := ends
        refine ⟨ok, ?_, ?_⟩
        · intro runId member known found
          rcases List.mem_cons.mp member with rfl | member
          · -- the rest of the sweep does not come back to the run
            rw [stored] at found
            cases found
            exact ⟨later, by rw [left runId absent, runs, Table.get?_set_self], recovers⟩
          · exact visited runId member known (by rw [others runId (apart runId member), found])
        · intro runId unlisted
          rw [List.mem_cons, not_or] at unlisted
          rw [left runId unlisted.2, others runId unlisted.1]
      · intro runId member
        obtain ⟨known, found⟩ := known runId (List.mem_cons_of_mem _ member)
        exact ⟨known, by rw [others runId (apart runId member), found]⟩
    · intro error after ends
      cases ends.1

theorem sweep_recovers {allowed : Store → RunRequest → Prop} (reachable : (runMachine runtime).Reachable allowed store)
    {runId : String} {durable : DurableRun} (stored : store.agentRuns.get? runId = some durable) :
    ∃ later, ((runMachine runtime).next store .recoverStale).agentRuns.get? runId = some later ∧
      Recovers (runtime.clock store.ticks) durable later := by
  have shown : store.Shown := by
    intro runId durable stored
    obtain ⟨course, named, depicts, -⟩ := steady_reachable reachable runId durable stored
    exact ⟨course, named, depicts, trivial⟩
  have sweeps : (recoverStaleLeases runtime).Ends store fun _ after => ∃ later, after.agentRuns.get? runId = some later ∧
      Recovers (runtime.clock store.ticks) durable later := by
    rw [recoverStaleLeases, ends_bind, ends_readClock, continue_ok]
    apply ends_read
    have visits := @recoverEach_recovers runtime (Clocked.tick store) (runtime.clock store.ticks)
      store.agentRuns.keys store.agentRuns.distinct shown fun runId member => Table.mem_keys.mp member
    have listed : runId ∈ store.agentRuns.keys := Table.mem_keys.mpr ⟨durable, stored⟩
    exact Ends.bind visits (fun _ after ends => ends.2.1 runId listed durable stored) fun _ after ends => by cases ends.1
  exact sweeps

end Sweep

section Rows

/-- A running step without its worker: it waits for its next attempt while its budget
lasts, and for a human then. -/
def StepRow.recovered (row : StepRow) : StepRow :=
  if row.status = .running then
    { row with status := if row.attempts < row.identity.maxAttempts then .retryWait else .needsHuman }
  else row

variable {course : Course}

theorem waiting_rests (cancelRequested : Bool) : waitingStatus cancelRequested ≠ .running := by
  cases cancelRequested <;> decide

theorem rows_recovered : (course.after Move.recover).rows = course.rows.map StepRow.recovered := by
  have behind : (course.behind.map fun passed => StepRow.mk passed.1 .succeeded passed.2).map StepRow.recovered =
      course.behind.map fun passed => StepRow.mk passed.1 .succeeded passed.2 := by
    rw [List.map_map]
    rfl
  have ahead : (course.waiting.map fun step => StepRow.mk step (waitingStatus course.cancelRequested) 0).map
      StepRow.recovered = course.waiting.map fun step => StepRow.mk step (waitingStatus course.cancelRequested) 0 := by
    rw [List.map_map]
    apply List.map_congr_left
    intro step _
    exact if_neg (waiting_rests course.cancelRequested)
  have focus : StepRow.recovered ⟨course.focus, course.step, course.attempts⟩ =
      ⟨course.focus, (course.after Move.recover).step, course.attempts⟩ := by
    unfold Course.after StepRow.recovered
    rw [Move.run_recover]
    by_cases attempt : course.step = .running
    · by_cases spent : course.Spent
      · have left : ¬ course.attempts < course.focus.maxAttempts := Nat.not_lt.mpr spent
        simp [attempt, spent, left]
      · have left : course.attempts < course.focus.maxAttempts := Nat.not_le.mp spent
        simp [attempt, spent, left]
    · simp [attempt]
  have kept : (course.after Move.recover).behind = course.behind ∧ (course.after Move.recover).focus = course.focus ∧
      (course.after Move.recover).waiting = course.waiting ∧
      (course.after Move.recover).attempts = course.attempts ∧
      (course.after Move.recover).cancelRequested = course.cancelRequested := by
    unfold Course.after
    rw [Move.run_recover]
    split
    · split <;> exact ⟨rfl, rfl, rfl, rfl, rfl⟩
    · exact ⟨rfl, rfl, rfl, rfl, rfl⟩
  unfold Course.rows
  rw [List.map_append, List.map_cons, behind, ahead, focus, kept.1, kept.2.1, kept.2.2.1, kept.2.2.2.1, kept.2.2.2.2]

theorem recover_frees : (course.after Move.recover).holder = none ∧ (course.after Move.recover).step ≠ .running := by
  unfold Course.after
  rw [Move.run_recover]
  split
  · split <;> exact ⟨rfl, by simp⟩
  · next still => exact ⟨rfl, still⟩

end Rows

section Crash

variable {runtime : Runtime} {allowed : Store → RunRequest → Prop} {store : Store} {runId : String} {durable : DurableRun}

/-- A run in flight says when its worker has to be back. -/
theorem in_flight_leased (whole : durable.Whole runtime) {course : Course} (depicts : Depicts durable.run durable.steps course)
    (manned : course.Manned) (flight : ¬ durable.AtBoundary) : durable.run.leaseExpiresAt ≠ none := by
  intro none_
  have free : durable.run.leaseOwner = none := whole.run.owner.mpr none_
  apply flight
  refine ⟨?_, free, whole.run.token.mpr none_⟩
  obtain ⟨focus, current, -, status, -⟩ := depicts.current
  have current : durable.currentStep = some focus := current
  rw [current]
  by_contra attempt
  have attempt : course.step = .running := by
    rw [← status]
    simpa using attempt
  exact manned attempt (depicts.reads.2.2.2.1.symm.trans free)

end Crash

section Sample

/-- An attempt whose worker does not come back. -/
def crashRequest : RunRequest :=
  .executeNext createdRunId ⟨"worker", 10, by decide, 1, by decide⟩ .crashed sampleOwner

/-- Sweeps that come too early, until the lease of the attempt has ended. -/
def overdueStore : Store :=
  storeAfter (.plain false) ([createRequest 1 (by decide), crashRequest] ++ List.replicate 66 .recoverStale)

theorem records_whole_overdue : ∃ durable, overdueStore.agentRuns.get? createdRunId = some durable ∧
    durable.Whole (.plain false) := by
  have stored : (overdueStore.agentRuns.get? createdRunId).isSome = true := by decide +kernel
  obtain ⟨durable, found⟩ := Option.isSome_iff_exists.mp stored
  exact ⟨durable, found, records_whole (.plain false) overdueStore (storeAfter_reachable _ _) createdRunId durable found⟩

end Sample

end ControlTower
