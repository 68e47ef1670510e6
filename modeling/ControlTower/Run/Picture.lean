import ControlTower.Run.Simulation

/-! The picture of a whole run: the steps that passed, the step in focus, the
steps that wait. Every supervisor procedure keeps the picture and carries out
its move on the course that the picture shows. -/

set_option autoImplicit false

namespace ControlTower

open Foundation
open Foundation.Procedure

/-- What holds of the steps of a run for as long as the run exists. -/
structure Lineup (runId : String) (line : List StepIdentity) : Prop where
  distinct : (line.map (·.id)).Nodup
  ascending : line.Pairwise fun earlier later => earlier.sequence < later.sequence
  owned : ∀ step ∈ line, step.runId = runId
  budgeted : ∀ step ∈ line, 1 ≤ step.maxAttempts

/-- The status of a step that no attempt has reached. -/
def waitingStatus (cancelRequested : Bool) : AgentRunStepStatus :=
  if cancelRequested then .cancelled else .pending

structure Picture (run : AgentRun) (steps passed : List AgentRunStep) (focus : AgentRunStep)
    (ahead : List AgentRunStep) : Prop where
  arranged : steps = passed ++ focus :: ahead
  lineup : Lineup run.id (steps.map AgentRunStep.identity)
  done : ∀ step ∈ passed, step.status = .succeeded ∧ 1 ≤ step.attemptCount
  waits : ∀ step ∈ ahead, step.status = waitingStatus run.cancelRequested ∧ step.attemptCount = 0
  pointed : run.currentStepId = some focus.id

/-- The run shows this course. -/
def Depicts (run : AgentRun) (steps : List AgentRunStep) (course : Course) : Prop :=
  ∃ passed focus ahead, Picture run steps passed focus ahead ∧ courseOf run passed focus ahead = course

/-- The outcome of a procedure on a run agrees with a move on its course. -/
def Carries {α : Type} (course : Course) (move : Move) (outcome : Except Raised α) (after : RunScope) : Prop :=
  Depicts after.run after.steps (course.after move) ∧ outcome.isOk = course.accepts move

section Keeps

/-- What no move on the focused step changes. -/
def Course.Keeps (before after : Course) : Prop :=
  after.binding = before.binding ∧ after.cancelRequested = before.cancelRequested ∧
    after.behind = before.behind ∧ after.focus = before.focus ∧ after.waiting = before.waiting ∧
    (before.pointer = some before.focus.id → after.pointer = some before.focus.id)

theorem Course.keeps_self (course : Course) : course.Keeps course := ⟨rfl, rfl, rfl, rfl, rfl, id⟩

theorem Course.keeps_trans (first middle last : Course) (start : first.Keeps middle)
    (rest : middle.Keeps last) : first.Keeps last := by
  obtain ⟨binding, cancelled, behind, focus, waiting, pointer⟩ := start
  obtain ⟨binding', cancelled', behind', focus', waiting', pointer'⟩ := rest
  refine ⟨binding'.trans binding, cancelled'.trans cancelled, behind'.trans behind, focus'.trans focus,
    waiting'.trans waiting, fun pointed => ?_⟩
  rw [focus] at pointer'
  exact pointer' (pointer pointed)

/-- A move on the focused step and on the run alone. -/
abbrev Move.Local (move : Move) : Prop := Guarantees Course.Keeps move

namespace Move

theorem change_local {change : Course → Course} (keeps : ∀ course : Course, course.Keeps (change course)) :
    Local (.modify change) :=
  guarantees_modify keeps

theorem reads_local {next : Course → Move} (rest : ∀ course, Local (next course)) :
    Local (Procedure.state >>= next) :=
  guarantees_bind Course.keeps_trans (guarantees_state Course.keeps_self) rest

theorem then_local {first second : Move} (start : Local first) (rest : Local second) :
    Local (first >>= fun _ => second) :=
  guarantees_bind Course.keeps_trans start fun _ => rest

theorem onlyIf_local {condition : Prop} [Decidable condition] {move : Move} (changes : Local move) :
    Local (onlyIf condition move) :=
  guarantees_onlyIf Course.keeps_self changes

theorem demand_local {condition : Prop} [Decidable condition] : Local (demand condition ()) :=
  guarantees_demand Course.keeps_self ()

theorem idle_local : Local (pure ()) := guarantees_pure Course.keeps_self ()

theorem toRun_local (target : AgentRunStatus) : Local (toRun target) :=
  reads_local fun _ => guarantees_ite idle_local
    (then_local demand_local (change_local fun _ => ⟨rfl, rfl, rfl, rfl, rfl, id⟩))

theorem toStep_local (target : AgentRunStepStatus) : Local (toStep target) :=
  reads_local fun _ => then_local demand_local (change_local fun _ => ⟨rfl, rfl, rfl, rfl, rfl, id⟩)

theorem toBoth_local (step : AgentRunStepStatus) (run : AgentRunStatus) : Local (toBoth step run) :=
  then_local (toStep_local step) (toRun_local run)

theorem point_local : Local point := change_local fun _ => ⟨rfl, rfl, rfl, rfl, rfl, fun _ => rfl⟩

theorem release_local : Local release := change_local fun _ => ⟨rfl, rfl, rfl, rfl, rfl, id⟩

theorem allow_local : Local allow :=
  reads_local fun _ => then_local (onlyIf_local (toStep_local _)) (onlyIf_local (toRun_local _))

theorem deny_local : Local deny :=
  reads_local fun _ => then_local (onlyIf_local (toStep_local _)) (onlyIf_local (toRun_local _))

theorem allowElsewhere_local : Local allowElsewhere := reads_local fun _ => onlyIf_local (toRun_local _)

theorem denyElsewhere_local : Local denyElsewhere := reads_local fun _ => onlyIf_local (toRun_local _)

theorem retry_local : Local retry := by
  refine reads_local fun _ => then_local demand_local (then_local demand_local (then_local demand_local ?_))
  refine then_local (change_local fun _ => ⟨rfl, rfl, rfl, rfl, rfl, id⟩) (then_local (toStep_local _) ?_)
  refine then_local point_local (then_local (change_local fun _ => ⟨rfl, rfl, rfl, rfl, rfl, id⟩) ?_)
  exact onlyIf_local (toRun_local _)

theorem resumeStep_local : Local resumeStep :=
  reads_local fun _ => onlyIf_local (toStep_local _)

theorem recoverStep_local : Local recoverStep := by
  refine reads_local fun _ => guarantees_ite ?_ ?_
  · exact then_local (toStep_local _) (onlyIf_local (toRun_local _))
  · exact then_local (toStep_local _) (onlyIf_local (toRun_local _))

theorem start_local : Local start :=
  then_local (toStep_local _) (reads_local fun _ => then_local point_local (onlyIf_local (toRun_local _)))

theorem settle_local {decision : VerificationDecision} (failure : decision ≠ .pass) : Local (settle decision) := by
  refine reads_local fun _ => ?_
  cases decision with
  | pass => exact absurd rfl failure
  | retryTransient => exact guarantees_ite (toBoth_local _ _) (toBoth_local _ _)
  | needsRevision => exact toBoth_local _ _
  | needsHuman => exact toBoth_local _ _
  | blockPolicy => exact toBoth_local _ _
  | failPermanent => exact toBoth_local _ _

end Move

end Keeps

section Steps

variable {passed ahead steps : List AgentRunStep} {focus step : AgentRunStep}

theorem findStep_some {stepId : String} (present : findStep steps stepId = some step) :
    step ∈ steps ∧ step.id = stepId :=
  ⟨List.mem_of_find?_eq_some present, by simpa using List.find?_some present⟩

/-- The identifiers of the other steps differ from the identifier in focus. -/
theorem ids_apart (distinct : ((passed ++ focus :: ahead).map (·.id)).Nodup) :
    (∀ step ∈ passed, step.id ≠ focus.id) ∧ ∀ step ∈ ahead, step.id ≠ focus.id := by
  simp only [List.map_append, List.map_cons, List.nodup_append, List.nodup_cons, List.mem_map,
    List.mem_cons] at distinct
  obtain ⟨-, ⟨absent, -⟩, apart⟩ := distinct
  refine ⟨fun step member same => ?_, fun step member same => absent ⟨step, member, same⟩⟩
  exact apart step.id ⟨step, member, rfl⟩ focus.id (.inl rfl) same

theorem findStep_focus (distinct : ((passed ++ focus :: ahead).map (·.id)).Nodup) :
    findStep (passed ++ focus :: ahead) focus.id = some focus := by
  have behind : passed.find? (fun step => step.id == focus.id) = none := by
    simpa using (ids_apart distinct).1
  simp [findStep, List.find?_append, behind]

theorem putStep_focus (distinct : ((passed ++ focus :: ahead).map (·.id)).Nodup)
    (same : step.id = focus.id) : putStep (passed ++ focus :: ahead) step = passed ++ step :: ahead := by
  obtain ⟨behind, front⟩ := ids_apart distinct
  have keep : ∀ others : List AgentRunStep, (∀ other ∈ others, other.id ≠ focus.id) →
      others.map (fun other => if other.id = focus.id then step else other) = others := by
    intro others apart
    have fixed : ∀ other ∈ others, (if other.id = focus.id then step else other) = id other :=
      fun other member => if_neg (apart other member)
    rw [List.map_congr_left fixed, List.map_id]
  simp [putStep, same, keep passed behind, keep ahead front]

end Steps

section Focus

variable {runtime : Runtime} {scope : RunScope} {passed ahead : List AgentRunStep} {focus : AgentRunStep}
  {course : Course}

theorem Lineup.distinct_ids {runId : String} {steps : List AgentRunStep}
    (lineup : Lineup runId (steps.map AgentRunStep.identity)) : (steps.map (·.id)).Nodup := by
  have names : (steps.map AgentRunStep.identity).map (·.id) = steps.map (·.id) := by
    simp [AgentRunStep.identity]
  exact names ▸ lineup.distinct

theorem Picture.findFocus (picture : Picture scope.run scope.steps passed focus ahead) :
    findStep scope.steps focus.id = some focus := by
  have distinct := picture.lineup.distinct_ids
  rw [picture.arranged] at distinct ⊢
  exact findStep_focus distinct

theorem identity_id {step other : AgentRunStep} (same : step.identity = other.identity) :
    step.id = other.id := congrArg StepIdentity.id same

/-- Put another version of the focused step in its place. -/
theorem Picture.replace {run run' : AgentRun} {steps : List AgentRunStep} {step : AgentRunStep}
    (picture : Picture run steps passed focus ahead) (identity : step.identity = focus.identity)
    (sameId : run'.id = run.id) (sameCancel : run'.cancelRequested = run.cancelRequested)
    (pointed : run'.currentStepId = some focus.id) :
    Picture run' (putStep steps step) passed step ahead := by
  have distinct := picture.lineup.distinct_ids
  rw [picture.arranged] at distinct
  have line : (passed ++ step :: ahead).map AgentRunStep.identity = steps.map AgentRunStep.identity := by
    simp [picture.arranged, identity]
  have placed : putStep steps step = passed ++ step :: ahead := by
    rw [picture.arranged]
    exact putStep_focus distinct (identity_id identity)
  exact
    { arranged := placed
      lineup := by
        rw [placed, line, sameId]
        exact picture.lineup
      done := picture.done
      waits := by
        rw [sameCancel]
        exact picture.waits
      pointed := by
        rw [identity_id identity]
        exact pointed }

/-- A procedure on the focused step carries out its move on the picture. -/
theorem Picture.returning {γ : Type} {body : StepProcedure Unit} {move : Procedure Course Unit γ}
    (picture : Picture scope.run scope.steps passed focus ahead)
    (projects : ProjectsAt (seen passed ahead) body move ⟨scope.run, focus, scope.ticks⟩)
    (stays : Guarantees Course.Keeps move) :
    (atStep focus.id (returningStep body)).Ends scope fun outcome after =>
      ∃ step, Picture after.run after.steps passed step ahead ∧
        courseOf after.run passed step ahead = (move.run (courseOf scope.run passed focus ahead)).2 ∧
        outcome.isOk = (move.run (courseOf scope.run passed focus ahead)).1.isOk ∧
        ∀ answer, outcome = .ok answer → answer = step := by
  have shown := projects.ends
  have keeps := stays (courseOf scope.run passed focus ahead)
  simp only [Ends, seen, atStep, picture.findFocus, returningStep, run_bind] at shown ⊢
  rcases outcome : body.run ⟨scope.run, focus, scope.ticks⟩ with ⟨error | value, after⟩ <;>
    simp only [outcome, run_state, run_pure] at shown ⊢ <;>
    refine ⟨after.step, ?_, shown.1, shown.2, by simp⟩ <;>
    rw [← shown.1] at keeps <;>
    obtain ⟨binding, cancelled, -, identity, -, pointer⟩ := keeps <;>
    exact picture.replace identity (congrArg RunBinding.id binding) cancelled (pointer picture.pointed)

theorem Picture.atStep_focus {γ : Type} {body : StepProcedure Unit} {move : Procedure Course Unit γ}
    (picture : Picture scope.run scope.steps passed focus ahead)
    (projects : ProjectsAt (seen passed ahead) body move ⟨scope.run, focus, scope.ticks⟩)
    (stays : Guarantees Course.Keeps move) :
    (atStep focus.id body).Ends scope fun outcome after =>
      ∃ step, Picture after.run after.steps passed step ahead ∧
        courseOf after.run passed step ahead = (move.run (courseOf scope.run passed focus ahead)).2 ∧
        outcome.isOk = (move.run (courseOf scope.run passed focus ahead)).1.isOk := by
  have shown := projects.ends
  have keeps := stays (courseOf scope.run passed focus ahead)
  simp only [Ends, seen, atStep, picture.findFocus] at shown ⊢
  rw [← shown.1] at keeps
  obtain ⟨binding, cancelled, -, identity, -, pointer⟩ := keeps
  exact ⟨_, picture.replace identity (congrArg RunBinding.id binding) cancelled (pointer picture.pointed), shown⟩

/-- The same for a move without an answer of its own. -/
theorem atStep_carries {body : StepProcedure Unit} {move : Move}
    (picture : Picture scope.run scope.steps passed focus ahead)
    (projects : ProjectsAt (seen passed ahead) body move ⟨scope.run, focus, scope.ticks⟩) (stays : move.Local) :
    (atStep focus.id body).Ends scope (Carries (courseOf scope.run passed focus ahead) move) := by
  refine (picture.atStep_focus projects stays).mono fun outcome after ends => ?_
  obtain ⟨step, kept, shows, accepted⟩ := ends
  exact ⟨⟨passed, step, ahead, kept, shows⟩, accepted⟩

/-- A change of the run that touches neither its steps nor what the picture needs. -/
theorem Picture.changeRun {run : AgentRun} {steps : List AgentRunStep}
    (picture : Picture run steps passed focus ahead) (change : AgentRun → AgentRun) (sameId : (change run).id = run.id)
    (sameCancel : (change run).cancelRequested = run.cancelRequested)
    (samePointer : (change run).currentStepId = run.currentStepId) :
    Picture (change run) steps passed focus ahead :=
  { arranged := picture.arranged
    lineup := sameId ▸ picture.lineup
    done := picture.done
    waits := sameCancel ▸ picture.waits
    pointed := samePointer.trans picture.pointed }

end Focus

section Carries

variable {runtime : Runtime} {scope : RunScope} {course : Course} {α β : Type}

/-- Two procedures in sequence carry out their moves in sequence. -/
theorem carries_bind_run {first : RunProcedure α} {next : α → RunProcedure β} {move rest : Move}
    (start : first.Ends scope (Carries course move))
    (continues : ∀ value after, first.run scope = (.ok value, after) →
      Depicts after.run after.steps (course.after move) →
      (next value).Ends after (Carries (course.after move) rest)) :
    (first >>= next).Ends scope (Carries course (move >>= fun _ => rest)) := by
  have composed : course.accepts move = true →
      course.after (move >>= fun _ => rest) = (course.after move).after rest ∧
        course.accepts (move >>= fun _ => rest) = (course.after move).accepts rest := by
    simp only [Course.accepts, Course.after, run_bind]
    rcases move.run course with ⟨_ | _, reached⟩
    · exact fun impossible => absurd impossible (by simp [Except.isOk, Except.toBool])
    · exact fun _ => ⟨rfl, rfl⟩
  have stopped : course.accepts move = false →
      course.after (move >>= fun _ => rest) = course.after move ∧
        course.accepts (move >>= fun _ => rest) = false := by
    simp only [Course.accepts, Course.after, run_bind]
    rcases move.run course with ⟨_ | _, reached⟩
    · exact fun _ => ⟨rfl, rfl⟩
    · exact fun impossible => absurd impossible (by simp [Except.isOk, Except.toBool])
  simp only [Ends, run_bind] at start ⊢
  rcases outcome : first.run scope with ⟨error | value, after⟩ <;> simp only [outcome] at start ⊢
  · obtain ⟨afterwards, refused⟩ := stopped start.2.symm
    exact ⟨afterwards ▸ start.1, refused ▸ rfl⟩
  · obtain ⟨afterwards, accepted⟩ := composed start.2.symm
    obtain ⟨shows, same⟩ := continues value after outcome start.1
    exact ⟨afterwards ▸ shows, accepted ▸ same⟩

theorem carries_bind {first : RunProcedure α} {next : α → RunProcedure β} {move rest : Move}
    (start : first.Ends scope (Carries course move))
    (continues : ∀ value after, Depicts after.run after.steps (course.after move) →
      (next value).Ends after (Carries (course.after move) rest)) :
    (first >>= next).Ends scope (Carries course (move >>= fun _ => rest)) :=
  carries_bind_run start fun value after _ shows => continues value after shows

/-- Reading changes nothing. -/
theorem carries_read {next : RunScope → RunProcedure α} {move : Course → Move}
    (carries : (next scope).Ends scope (Carries course (move course))) :
    (Procedure.state >>= next).Ends scope (Carries course (Procedure.state >>= move)) := carries

/-- An answer at the end changes nothing. -/
theorem carries_answer {body : RunProcedure α} {move : Move} (value : β)
    (carries : body.Ends scope (Carries course move)) :
    (body >>= fun _ => pure value).Ends scope (Carries course move) :=
  Ends.bind carries (fun _ _ carried => carried) fun _ _ carried => carried

theorem carries_pure (depicts : Depicts scope.run scope.steps course) (value : α) :
    (pure value : RunProcedure α).Ends scope (Carries course (pure ())) := ⟨depicts, rfl⟩

theorem carries_raise (depicts : Depicts scope.run scope.steps course) (error : Raised) :
    (raise error : RunProcedure α).Ends scope (Carries course (raise ())) := ⟨depicts, rfl⟩

theorem carries_demand {condition seen : Prop} [Decidable condition] [Decidable seen] {error : Raised}
    (depicts : Depicts scope.run scope.steps course) (same : seen ↔ condition) :
    (demand condition error : RunProcedure Unit).Ends scope (Carries course (demand seen ())) := by
  by_cases holds : condition
  · simpa [demand, holds, same] using carries_pure depicts ()
  · simpa [demand, holds, same] using carries_raise depicts error

theorem carries_ite {condition seen : Prop} [Decidable condition] [Decidable seen]
    {yes no : RunProcedure α} {yesMove noMove : Move} (same : seen ↔ condition)
    (whenYes : condition → yes.Ends scope (Carries course yesMove))
    (whenNo : ¬ condition → no.Ends scope (Carries course noMove)) :
    (if condition then yes else no).Ends scope (Carries course (if seen then yesMove else noMove)) := by
  by_cases holds : condition
  · simpa [holds, same] using whenYes holds
  · simpa [holds, same] using whenNo holds

/-- The clock is not part of the course. -/
theorem carries_readClock {next : Instant → RunProcedure α} {move : Move}
    (carries : (next (runtime.clock scope.ticks)).Ends (Clocked.tick scope) (Carries course move)) :
    (readClock runtime >>= next).Ends scope (Carries course move) := carries

/-- What the supervisor writes on a run by itself. -/
theorem carries_modifyRun {change : AgentRun → AgentRun} {shadow : Course → Course}
    (depicts : Depicts scope.run scope.steps course)
    (sameId : (change scope.run).id = scope.run.id)
    (sameCancel : (change scope.run).cancelRequested = scope.run.cancelRequested)
    (samePointer : (change scope.run).currentStepId = scope.run.currentStepId)
    (same : ∀ passed focus ahead, courseOf scope.run passed focus ahead = course →
      courseOf (change scope.run) passed focus ahead = shadow course) :
    (RunScope.modifyRun change).Ends scope (Carries course (.modify shadow)) := by
  obtain ⟨passed, focus, ahead, picture, shows⟩ := depicts
  exact ⟨⟨passed, focus, ahead, picture.changeRun change sameId sameCancel samePointer, same passed focus ahead shows⟩, rfl⟩

/-- The run as the course shows it. -/
theorem Depicts.reads {run : AgentRun} {steps : List AgentRunStep} (depicts : Depicts run steps course) :
    run.status = course.run ∧ run.pauseRequested = course.pauseRequested ∧
      run.cancelRequested = course.cancelRequested ∧ run.leaseOwner = course.holder ∧
      run.binding = course.binding ∧ run.currentStepId = some course.focus.id := by
  obtain ⟨passed, focus, ahead, picture, rfl⟩ := depicts
  exact ⟨rfl, rfl, rfl, rfl, rfl, picture.pointed⟩

theorem transitionRunOf_carries (target : AgentRunStatus) (reason : String)
    (depicts : Depicts scope.run scope.steps course) :
    (transitionRunOf runtime target reason).Ends scope (Carries course (Move.toRun target)) := by
  obtain ⟨status, -⟩ := depicts.reads
  refine carries_read (carries_ite (by rw [status]) (fun _ => carries_pure depicts ()) fun _ => ?_)
  refine carries_bind (carries_demand depicts (by rw [status])) fun _ after shows => ?_
  refine carries_readClock (carries_modifyRun shows rfl rfl rfl fun passed focus ahead same => ?_)
  rw [← same]
  rfl

theorem atCurrentStep_carries {body : StepProcedure Unit} {move : Move}
    (depicts : Depicts scope.run scope.steps course) (stays : move.Local)
    (projects : ∀ passed focus ahead, courseOf scope.run passed focus ahead = course →
      ProjectsAt (seen passed ahead) body move ⟨scope.run, focus, scope.ticks⟩) :
    (atCurrentStep body).Ends scope (Carries course move) := by
  obtain ⟨passed, focus, ahead, picture, shows⟩ := depicts
  have current : findStep scope.steps (scope.run.currentStepId.getD "") = some focus := by
    rw [picture.pointed]
    exact picture.findFocus
  have carried := atStep_carries picture (projects passed focus ahead shows) stays
  rw [shows] at carried
  simpa only [atCurrentStep, ends_bind, ends_state, continue_ok, current] using carried

theorem pauseAgentRun_carries (reason : String) (depicts : Depicts scope.run scope.steps course) :
    (pauseAgentRun runtime reason).Ends scope (Carries course Move.pause) := by
  obtain ⟨status, -⟩ := depicts.reads
  refine carries_read (carries_bind (carries_demand depicts (by rw [status])) fun _ after shows => ?_)
  refine carries_bind (carries_modifyRun shows rfl rfl rfl fun passed focus ahead same => ?_) fun _ after shows => ?_
  · rw [← same]
    rfl
  · exact transitionRunOf_carries .paused reason shows

theorem resumeStep_projects {passed ahead : List AgentRunStep} {state : RunAtStep} (reason : String) :
    ProjectsAt (seen passed ahead) (resumeStep runtime reason) Move.resumeStep state := by
  refine projects_read (projects_onlyIf Iff.rfl fun _ => ?_)
  exact projects_then_modify (transitionStep_projects .ready) fun _ => rfl

theorem resumeAgentRun_carries (reason : String) (depicts : Depicts scope.run scope.steps course) :
    (resumeAgentRun runtime reason).Ends scope (Carries course Move.resume) := by
  obtain ⟨status, -⟩ := depicts.reads
  refine carries_read (carries_bind (carries_demand depicts (by rw [status])) fun _ after shows => ?_)
  refine carries_bind (carries_modifyRun shows rfl rfl rfl fun passed focus ahead same => ?_) fun _ after shows => ?_
  · rw [← same]
    rfl
  refine carries_bind (atCurrentStep_carries shows Move.resumeStep_local fun _ _ _ _ => ?_) fun _ after shows => ?_
  · exact resumeStep_projects reason
  · exact transitionRunOf_carries .scheduled reason shows

/-- A heartbeat moves nothing. -/
theorem heartbeatRun_carries (workerId leaseToken : String) (leaseSeconds : Nat)
    (depicts : Depicts scope.run scope.steps course) :
    (heartbeatRun runtime workerId leaseToken leaseSeconds).Ends scope fun _ after =>
      Depicts after.run after.steps course := by
  simp only [heartbeatRun, ends_bind, ends_state, continue_ok, ends_demand, ends_readClock,
    continue_error]
  refine ⟨fun _ => ?_, fun _ => depicts⟩
  have shows : Depicts (scope.run.extended (runtime.clock scope.ticks) leaseSeconds) scope.steps course := by
    obtain ⟨passed, focus, ahead, picture, same⟩ := depicts
    exact ⟨passed, focus, ahead,
      picture.changeRun (fun run => run.extended _ leaseSeconds) rfl rfl rfl, same⟩
  refine (atCurrentStep_carries shows Move.idle_local fun passed focus ahead _ => ?_).mono
    fun _ after carried => carried.1
  by_cases holds : focus.leaseOwner = some workerId ∧ focus.leaseToken = some leaseToken
  · simp only [ProjectsAt, run_bind, run_state, onlyIf, holds, and_self, if_true]
    rfl
  · simp only [ProjectsAt, run_bind, run_state, onlyIf, holds, if_false]
    rfl

theorem recoverCurrent_projects {passed ahead : List AgentRunStep} {state : RunAtStep} (now : Instant) :
    ProjectsAt (seen passed ahead)
      (do
        let current := (← Procedure.state).step
        onlyIf (current.status = .running) (recoverRunningStep runtime now))
      (do
        let course ← Procedure.state
        onlyIf (course.step = .running) Move.recoverStep) state :=
  projects_read (projects_onlyIf Iff.rfl fun _ => recoverRunningStep_projects now)

/-- The watchdog leaves a run whose lease has not expired alone. -/
theorem recoverStaleLease_carries (now : Instant) (depicts : Depicts scope.run scope.steps course) :
    (recoverStaleLease runtime now).Ends scope fun outcome after =>
      (Depicts after.run after.steps course ∧ outcome.isOk = true) ∨ Carries course Move.recover outcome after := by
  simp only [recoverStaleLease, ends_bind, ends_state, continue_ok, ends_ite, ends_pure]
  refine ⟨fun _ => .inl ⟨depicts, rfl⟩, fun _ => ?_⟩
  rw [← ends_bind]
  suffices carries : Ends _ scope (Carries course Move.recover) from carries.mono fun _ _ => .inr
  refine carries_bind (carries_modifyRun depicts rfl rfl rfl fun passed focus ahead same => ?_) fun _ after shows => ?_
  · rw [← same]
    rfl
  · refine carries_answer true (atCurrentStep_carries shows ?_ fun _ _ _ _ => recoverCurrent_projects now)
    exact Move.reads_local fun _ => Move.onlyIf_local Move.recoverStep_local

end Carries

section Cancel

variable {runtime : Runtime} {scope : RunScope} {course : Course}

/-- How a step stands after the cancellation of its run. -/
structure CancelledFrom (after before : AgentRunStep) : Prop where
  identity : after.identity = before.identity
  attempts : after.attemptCount = before.attemptCount
  status : after.status = if before.status.isTerminal then before.status else .cancelled

theorem canTransitionStep_cancelled (status : AgentRunStepStatus) (active : status.isTerminal = false) :
    canTransitionStep status .cancelled = true := by
  cases status <;> first | rfl | simp [AgentRunStepStatus.isTerminal] at active

/-- Cancellation reaches every step that is not ended; the induction moves the
steps already visited to the front. -/
theorem cancelSteps_ends (runtime : Runtime) (reason : String) (run : AgentRun) (visited remaining : List AgentRunStep) (ticks : Nat)
    (distinct : ((visited ++ remaining).map (·.id)).Nodup) :
    (each (cancelStep runtime reason) remaining).Ends ⟨run, visited ++ remaining, ticks⟩
      fun outcome after => outcome = .ok () ∧ after.run = run ∧
        ∃ left, after.steps = visited ++ left ∧ List.Forall₂ CancelledFrom left remaining := by
  induction remaining generalizing visited ticks with
  | nil => exact ⟨rfl, rfl, [], rfl, .nil⟩
  | cons step rest ih =>
    simp only [each, ends_bind, cancelStep, ends_onlyIf]
    refine ⟨fun active => ?_, fun ended => ?_⟩
    · -- the step is open, so the transition is legal and changes this step alone
      have open_ : (.cancelled : AgentRunStepStatus) ≠ step.status := by
        intro same
        rw [← same] at active
        exact absurd active (by decide)
      have found : findStep (visited ++ step :: rest) step.id = some step := findStep_focus distinct
      have legal := canTransitionStep_cancelled step.status active
      have moved : putStep (visited ++ step :: rest) (step.moved .cancelled (runtime.clock ticks) reason) =
          (visited ++ [step.moved .cancelled (runtime.clock ticks) reason]) ++ rest := by
        rw [putStep_focus distinct (AgentRunStep.moved_id ..)]
        simp
      have again := ih (visited ++ [step.moved .cancelled (runtime.clock ticks) reason]) (ticks + 1)
        (by simpa using distinct)
      rw [← moved] at again
      simp only [Ends, atStep, found, transitionStep, run_bind, run_state, open_, if_false, demand, legal,
        if_true, run_pure, readClock, run_update, modifyStep, run_modify, continue_ok] at again ⊢
      obtain ⟨ok, sameRun, left, steps, related⟩ := again
      refine ⟨ok, sameRun, step.moved .cancelled (runtime.clock ticks) reason :: left, steps.trans (by simp), ?_⟩
      exact .cons ⟨rfl, rfl, by simp [active]⟩ related
    · -- a step that is over stays as it is
      have again := ih (visited ++ [step]) ticks (by simpa using distinct)
      simp only [List.append_assoc, List.singleton_append] at again
      rw [continue_ok]
      refine again.mono fun outcome after ends => ?_
      obtain ⟨ok, sameRun, left, steps, related⟩ := ends
      refine ⟨ok, sameRun, step :: left, steps, .cons ⟨rfl, rfl, ?_⟩ related⟩
      simp [Bool.not_eq_false] at ended
      simp [ended]

theorem cancelled_identities {left steps : List AgentRunStep} (related : List.Forall₂ CancelledFrom left steps) :
    left.map AgentRunStep.identity = steps.map AgentRunStep.identity ∧
      left.map (fun step => (step.identity, step.attemptCount)) =
        steps.map fun step => (step.identity, step.attemptCount) := by
  induction related with
  | nil => exact ⟨rfl, rfl⟩
  | cons head _ ih => simp [head.identity, head.attempts, ih]

theorem cancelled_member {left steps : List AgentRunStep} (related : List.Forall₂ CancelledFrom left steps) :
    ∀ step ∈ left, ∃ before ∈ steps, CancelledFrom step before := by
  induction related with
  | nil => simp
  | @cons step before _ _ head _ ih =>
    intro other member
    rcases List.mem_cons.mp member with rfl | later
    · exact ⟨before, List.mem_cons_self, head⟩
    · obtain ⟨origin, present, cancelled⟩ := ih other later
      exact ⟨origin, List.mem_cons_of_mem _ present, cancelled⟩

/-- The picture survives the cancellation of all steps. -/
theorem Picture.cancelled {run : AgentRun} {steps left passed ahead : List AgentRunStep}
    {focus : AgentRunStep} (picture : Picture run steps passed focus ahead)
    (related : List.Forall₂ CancelledFrom left steps) :
    ∃ before step after, Picture { run with cancelRequested := true } left before step after ∧
      CancelledFrom step focus ∧ after.map AgentRunStep.identity = ahead.map AgentRunStep.identity ∧
      before.map (fun step => (step.identity, step.attemptCount)) =
        passed.map fun step => (step.identity, step.attemptCount) := by
  -- the three parts of the lineup are cancelled each on its own
  have split := picture.arranged ▸ related
  have front := List.forall₂_take_append _ _ _ split
  have rest := List.forall₂_drop_append _ _ _ split
  generalize before_eq : left.take passed.length = before at front
  generalize back_eq : left.drop passed.length = back at rest
  obtain ⟨step, after, here, behind, rfl⟩ := List.forall₂_cons_right_iff.mp rest
  refine ⟨before, step, after, ?_, here, (cancelled_identities behind).1, (cancelled_identities front).2⟩
  exact
    { arranged := by rw [← before_eq, ← back_eq, List.take_append_drop]
      lineup := (cancelled_identities related).1 ▸ picture.lineup
      done := by
        intro other member
        obtain ⟨origin, present, cancelled⟩ := cancelled_member front other member
        obtain ⟨succeeded, attempted⟩ := picture.done origin present
        -- a passed step has succeeded, and a cancellation leaves it so
        have ended : origin.status.isTerminal = true := by rw [succeeded]; rfl
        refine ⟨?_, cancelled.attempts ▸ attempted⟩
        rw [cancelled.status, if_pos ended, succeeded]
      waits := by
        intro other member
        obtain ⟨origin, present, cancelled⟩ := cancelled_member behind other member
        obtain ⟨waiting, untried⟩ := picture.waits origin present
        refine ⟨?_, cancelled.attempts.trans untried⟩
        rw [cancelled.status, waiting]
        cases run.cancelRequested <;> rfl
      pointed := by
        rw [identity_id here.identity]
        exact picture.pointed }

theorem cancelSteps_carries (reason : String) (depicts : Depicts scope.run scope.steps course) :
    (cancelSteps runtime reason).Ends scope (Carries course Move.cancelSteps) := by
  obtain ⟨passed, focus, ahead, picture, rfl⟩ := depicts
  have swept := cancelSteps_ends runtime (Text.orElse reason "Run cancelled.")
    { scope.run with cancelRequested := true } [] scope.steps scope.ticks
    (by simpa using picture.lineup.distinct_ids)
  refine swept.mono fun outcome after ends => ?_
  obtain ⟨rfl, sameRun, left, steps, related⟩ := ends
  obtain ⟨before, step, behind, kept, here, names, tried⟩ := picture.cancelled related
  simp only [Carries, Course.after, Course.accepts, Move.run_cancelSteps]
  refine ⟨⟨before, step, behind, ?_, ?_⟩, rfl⟩
  · rw [sameRun, steps]
    exact kept
  · have identity := here.identity
    rw [sameRun]
    simp only [courseOf, here.status, here.attempts, names, identity, tried]
    rfl

theorem cancelAgentRun_carries (reason : String) (depicts : Depicts scope.run scope.steps course) :
    (cancelAgentRun runtime reason).Ends scope (Carries course Move.cancel) := by
  obtain ⟨status, -⟩ := depicts.reads
  refine carries_read (carries_ite (by rw [status]) (fun _ => carries_pure depicts ()) fun _ => ?_)
  refine carries_bind (carries_demand depicts (by rw [status])) fun _ after shows => ?_
  refine carries_bind (cancelSteps_carries reason shows) fun _ after shows => ?_
  exact transitionRunOf_carries .cancelled reason shows

end Cancel

end ControlTower
