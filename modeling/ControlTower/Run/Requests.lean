import ControlTower.Run.Execution

/-! Every request of the run service, seen from one run: the deeds it does and
the response it ends with. -/

set_option autoImplicit false

namespace ControlTower

open Foundation
open Foundation.Procedure

/-- The service takes a human verdict on an action. -/
def Store.TakesVerdict (runtime : Runtime) (store : Store) (actionId : String) (payload : ActionAuthorizationCreate)
    (user : AuthUser) : Prop :=
  user.role ∈ reviewerRoles ∧ ∃ action current, store.proposedActions.get? actionId = some action ∧
    store.latestPolicyDecision actionId = some current ∧ current.decision ≠ .block ∧
    match store.authorizationOf actionId with
    | some existing => verifyActionAuthorization runtime existing action = true ∧
        (current.decision = .allow ∨ (existing.decision = payload.decision ∧ existing.reason = payload.reason))
    | none => current.decision ≠ .allow

/-- What a request does to one run, and how it ends. -/
inductive Serves (runtime : Runtime) (store : Store) (runId : String) (course : Course) :
    RunRequest → Except Raised Unit → List Deed → Prop where
  | idle (request : RunRequest) (response : Except Raised Unit) : Serves runtime store runId course request response []
  | bound (request : RunRequest) (response : Except Raised Unit) (deeds : List Deed) (binds : Bound course deeds) :
      Serves runtime store runId course request response deeds
  | paused (reason : String) (response : Except Raised Unit) (answers : response.isOk = course.accepts Move.pause) :
      Serves runtime store runId course (.pause runId reason) response [.pause]
  | resumed (reason : String) (response : Except Raised Unit) (answers : response.isOk = course.accepts Move.resume) :
      Serves runtime store runId course (.resume runId reason) response [.resume]
  | cancelled (reason : String) (response : Except Raised Unit) (answers : response.isOk = course.accepts Move.cancel) :
      Serves runtime store runId course (.cancel runId reason) response [.cancel]
  | retried (stepId : Option String) (reason : String) (response : Except Raised Unit)
      (answers : response.isOk = course.accepts Move.retry) :
      Serves runtime store runId course (.retry runId stepId reason) response [.retry]
  | recovered (response : Except Raised Unit) : Serves runtime store runId course .recoverStale response [.recover]
  | decided (actionId : String) (payload : ActionAuthorizationCreate) (user : AuthUser)
      (response : Except Raised Unit) (deeds : List Deed) (takes : store.TakesVerdict runtime actionId payload user)
      (decided : Decided runtime store runId course actionId (store.verdictOn actionId payload.decision) deeds) :
      Serves runtime store runId course (.decide actionId payload user) response deeds
  | withheld (actor : String) (timeoutSeconds : Nat) (error : Raised) (after : Store) (deeds : List Deed)
      (refuses : Refuses runId course error after deeds) (governed : deeds = [] ∨ course.Governed runtime) :
      Serves runtime store runId course (.authorize runId actor timeoutSeconds) (.error error) deeds
  | authorized (actor : String) (timeoutSeconds : Nat) (response : Except Raised Unit) (deeds : List Deed)
      (rules : Ruled runtime store runId course timeoutSeconds [] deeds) :
      Serves runtime store runId course (.authorize runId actor timeoutSeconds) response deeds
  | executed (payload : AgentRunExecuteRequest) (outcome : ExecutorOutcome) (user : AuthUser)
      (response : Except Raised Unit) (deeds : List Deed)
      (executes : Executes runtime store runId course payload outcome response deeds) :
      Serves runtime store runId course (.executeNext runId payload outcome user) response deeds

/-- A request ends with its deeds done to the run. -/
def Served (runtime : Runtime) (store : Store) (runId : String) (course : Course) (request : RunRequest)
    (response : Except Raised Unit) (after : Store) : Prop :=
  ∃ deeds, Performs course deeds (course.along deeds) ∧ after.Shows runId (course.along deeds) ∧
    Serves runtime store runId course request response deeds

section Serve

variable {runtime : Runtime} {store : Store} {runId : String} {course : Course} {request : RunRequest}

theorem served_idle {response : Except Raised Unit} {after : Store} (shows : after.Shows runId course) :
    Served runtime store runId course request response after :=
  ⟨[], .done course, shows, .idle request response⟩

/-- A request about other things leaves the run alone. -/
theorem served_sparing {body : StoreProcedure Unit} (shows : store.Shows runId course) (spares : Sparing runId body) :
    body.Ends store (Served runtime store runId course request) :=
  (spares.ends store).mono fun _ _ spared => served_idle (shows.spared spared)

theorem isOk_mapError {α : Type} (outcome : Except Raised α) (rename : Raised → Raised) :
    (outcome.mapError rename).isOk = outcome.isOk := by
  cases outcome <;> rfl

/-- A supervisor call behind its conflict handler, followed by a persist. -/
theorem control_ends {body : RunProcedure Unit} {move : Move} (shows : store.Shows runId course) (onward : RunOnward body)
    (carries : ∀ scope : RunScope, Depicts scope.run scope.steps course → body.Ends scope (Carries course move)) :
    (conflictResponse (onRun runId body) >>= fun _ => persist).Ends store fun response after =>
      after.Shows runId (course.after move) ∧ response.isOk = course.accepts move := by
  have moved : (conflictResponse (onRun runId body)).Ends store fun response after =>
      after.Shows runId (course.after move) ∧ response.isOk = course.accepts move :=
    ends_relabel.mpr ((onRun_carries shows onward carries).mono fun outcome after ends =>
      ⟨ends.1, (isOk_mapError _ _).trans ends.2⟩)
  exact Ends.bind moved (fun _ after ends => ⟨ends.1.of_runs rfl, ends.2⟩) fun error after ends => ends

theorem requireStepBoundary_ends {durable : DurableRun} {action : String} {after : Unit → StoreProcedure Unit}
    {post : Except Raised Unit → Store → Prop} (refused : ∀ error, post (.error error) store)
    (passes : durable.AtBoundary → (after ()).Ends store post) :
    (requireStepBoundary durable action >>= after).Ends store post :=
  ends_guard (refused _) passes

theorem pauseRun_serves (shows : store.Shows runId course) (reason : String) :
    (pauseRun runtime runId reason).Ends store (Served runtime store runId course (.pause runId reason)) := by
  obtain ⟨durable, stored, -, depicts⟩ := id shows
  refine ends_runOr404 stored (requireStepBoundary_ends (fun _ => served_idle shows) fun boundary => ?_)
  refine (control_ends shows (pauseAgentRun_onward reason) fun _ => pauseAgentRun_carries reason).mono
    fun response after ends => ?_
  exact ⟨[.pause], .single .pause (depicts.boundary boundary), ends.1, .paused reason response ends.2⟩

theorem resumeRun_serves (shows : store.Shows runId course) (reason : String) :
    (resumeRun runtime runId reason).Ends store (Served runtime store runId course (.resume runId reason)) := by
  refine (control_ends shows (resumeAgentRun_onward reason) fun _ => resumeAgentRun_carries reason).mono
    fun response after ends => ?_
  exact ⟨[.resume], .single .resume trivial, ends.1, .resumed reason response ends.2⟩

theorem cancelRun_serves (shows : store.Shows runId course) (reason : String) :
    (cancelRun runtime runId reason).Ends store (Served runtime store runId course (.cancel runId reason)) := by
  obtain ⟨durable, stored, -, depicts⟩ := id shows
  refine ends_runOr404 stored (requireStepBoundary_ends (fun _ => served_idle shows) fun boundary => ?_)
  refine (control_ends shows (cancelAgentRun_onward reason) fun _ => cancelAgentRun_carries reason).mono
    fun response after ends => ?_
  exact ⟨[.cancel], .single .cancel (depicts.boundary boundary), ends.1, .cancelled reason response ends.2⟩

/-- The run and the step that an action names exist. -/
theorem namedByAction_some {actionId target stepId : String}
    (named : store.namedByAction runtime actionId = some (target, stepId)) :
    ∃ durable step, store.agentRuns.get? target = some durable ∧ findStep durable.steps stepId = some step := by
  simp only [Store.namedByAction, Option.bind_eq_some_iff] at named
  obtain ⟨action, -, named⟩ := named
  split at named
  · simp only [Option.bind_eq_some_iff, Option.map_eq_some_iff, Prod.mk.injEq] at named
    obtain ⟨durable, stored, step, found, rfl, rfl⟩ := named
    refine ⟨durable, step, stored, ?_⟩
    rwa [(findStep_some found).2]
  · cases named

/-- A verdict on an action reaches the run that the action names. -/
theorem applyDurableRunDecision_ends (shows : store.Shows runId course) (actionId : String)
    (verdict : ActionAuthorizationDecision) (reason : String) :
    (applyDurableRunDecision runtime actionId verdict reason).Ends store fun _ after =>
      ∃ deeds, Performs course deeds (course.along deeds) ∧ after.Shows runId (course.along deeds) ∧
        Decided runtime store runId course actionId verdict deeds := by
  have apart : ∀ after : Store, after.Shows runId course → ∃ deeds, Performs course deeds (course.along deeds) ∧
      after.Shows runId (course.along deeds) ∧ Decided runtime store runId course actionId verdict deeds :=
    fun after shown => ⟨[], .done course, shown, .apart⟩
  refine ends_read ?_
  cases named : store.namedByAction runtime actionId with
  | none => exact apart store shows
  | some names =>
    obtain ⟨target, stepId⟩ := names
    by_cases same : target = runId
    · subst same
      by_cases focused : stepId = course.focus.id
      · subst focused
        refine (decided_carries verdict reason shows).mono fun _ after ends => ?_
        exact ⟨[.decided verdict], .single (.decided verdict) trivial, ends.1, .focus named⟩
      · obtain ⟨durable, step, stored, found⟩ := namedByAction_some named
        obtain ⟨known, here, owned, depicts⟩ := id shows
        obtain rfl : durable = known := by simpa [stored] using here
        refine (onRun_carriesAt stored owned ?_
          (decidedBeside_carries verdict reason depicts found focused)).mono fun _ after ends => ?_
        · cases verdict with
          | allow => exact atStep_onward _ allowDecided_onward
          | block => exact atStep_onward _ (denyDecided_onward reason)
        · exact ⟨[.decidedElsewhere verdict], .single (.decidedElsewhere verdict) trivial, ends.1,
            .beside stepId named focused⟩
    · exact ((onRun_spares _ (Ne.symm same)).ends store).mono fun _ after spared => apart after (shows.spared spared)

theorem storeAuthorization_ends (action : ProposedAction) (current : PolicyDecision)
    (verdict : ActionAuthorizationDecision) (reason : String) (user : AuthUser) :
    (storeAuthorization runtime action current verdict reason user).Ends store fun outcome after =>
      outcome = .ok () ∧ after.agentRuns = store.agentRuns ∧ after.proposedActions = store.proposedActions := by
  refine (storeAuthorization_authorizes action current verdict reason user).mono fun outcome after ends => ?_
  obtain ⟨rfl, authorization, decision, authorizes⟩ := ends
  exact ⟨rfl, authorizes.runs, authorizes.actions⟩

theorem namedByAction_congr {other : Store} (runs : other.agentRuns = store.agentRuns)
    (actions : other.proposedActions = store.proposedActions) (actionId : String) :
    other.namedByAction runtime actionId = store.namedByAction runtime actionId := by
  simp only [Store.namedByAction, runs, actions]

theorem Decided.congr {other : Store} {actionId : String} {verdict : ActionAuthorizationDecision} {deeds : List Deed}
    (decided : Decided runtime other runId course actionId verdict deeds)
    (same : other.namedByAction runtime actionId = store.namedByAction runtime actionId) :
    Decided runtime store runId course actionId verdict deeds := by
  cases decided with
  | apart => exact .apart
  | focus named => exact .focus (same ▸ named)
  | beside stepId named other => exact .beside stepId (same ▸ named) other

/-- Behind the checks of a human decision, its verdict reaches the run. -/
theorem applyVerdict_serves (shows : store.Shows runId course) {mid : Store} (runs : mid.agentRuns = store.agentRuns)
    (actions : mid.proposedActions = store.proposedActions) (actionId : String) (payload : ActionAuthorizationCreate)
    (user : AuthUser) (takes : store.TakesVerdict runtime actionId payload user) (reason : String) :
    (applyDurableRunDecision runtime actionId (store.verdictOn actionId payload.decision) reason >>=
        fun _ => persist).Ends mid (Served runtime store runId course (.decide actionId payload user)) := by
  refine Ends.bind (applyDurableRunDecision_ends (shows.of_runs runs) actionId _ reason) (fun _ after ends => ?_)
    fun error after ends => ?_
  · obtain ⟨deeds, performs, shown, decided⟩ := ends
    exact ⟨deeds, performs, shown.of_runs rfl,
      .decided actionId payload user _ deeds takes (decided.congr (namedByAction_congr runs actions actionId))⟩
  · obtain ⟨deeds, performs, shown, decided⟩ := ends
    exact ⟨deeds, performs, shown,
      .decided actionId payload user _ deeds takes (decided.congr (namedByAction_congr runs actions actionId))⟩

theorem recordActionAuthorization_serves (shows : store.Shows runId course) (actionId : String)
    (payload : ActionAuthorizationCreate) (user : AuthUser) :
    (recordActionAuthorization runtime actionId payload.decision payload.reason user).Ends store
      (Served runtime store runId course (.decide actionId payload user)) := by
  have idle : ∀ error, Served runtime store runId course (.decide actionId payload user) (.error error) store :=
    fun _ => served_idle shows
  refine ends_guard (idle _) fun reviewer => ends_read (ends_lookup (idle _) fun action stored => ?_)
  refine ends_lookup (idle _) fun current latest => ends_guard (idle _) fun unblocked => ?_
  cases recorded : store.authorizationOf actionId with
  | some existing =>
    -- a verdict is on record already, and it is the one that counts
    have verdict : store.verdictOn actionId payload.decision = existing.decision := by
      simp [Store.verdictOn, recorded]
    -- repeating it serves the request as deciding it anew would
    have again : (current.decision = .allow ∨ (existing.decision = payload.decision ∧ existing.reason = payload.reason)) →
        (repeatAuthorization runtime actionId action existing).Ends store
          (Served runtime store runId course (.decide actionId payload user)) := by
      intro agrees
      refine ends_guard (idle _) fun verified => ?_
      rw [← verdict]
      refine applyVerdict_serves shows rfl rfl actionId payload user ⟨reviewer, action, current, stored, latest, unblocked, ?_⟩ _
      rw [recorded]
      exact ⟨verified, agrees⟩
    simp only [ends_ite]
    -- the recorded verdict is repeated where an allow stands, or where the same was said again
    exact ⟨fun allowed => again (.inl allowed), fun _ => ends_guard (idle _) fun same => again (.inr same)⟩
  | none =>
    have verdict : store.verdictOn actionId payload.decision = payload.decision := by
      simp [Store.verdictOn, recorded]
    -- the first verdict on the action is the one of this request
    refine ends_guard (idle _) fun undecided => ?_
    refine Ends.bind (storeAuthorization_ends action current payload.decision payload.reason user)
      (fun _ after ends => ?_) fun error after ends => ?_
    · rw [← verdict]
      refine applyVerdict_serves shows ends.2.1 ends.2.2 actionId payload user
        ⟨reviewer, action, current, stored, latest, unblocked, ?_⟩ _
      rw [recorded]
      exact undecided
    · exact absurd ends.1 (by simp)

theorem decideExactAction_serves (shows : store.Shows runId course) (actionId : String)
    (payload : ActionAuthorizationCreate) (user : AuthUser) :
    (decideExactAction runtime actionId payload user).Ends store
      (Served runtime store runId course (.decide actionId payload user)) := by
  refine ends_relabel.mpr ((recordActionAuthorization_serves shows actionId payload user).mono fun response after ends => ?_)
  obtain ⟨deeds, performs, shown, serves⟩ := ends
  refine ⟨deeds, performs, shown, ?_⟩
  cases serves with
  | idle => exact .idle _ _
  | bound _ _ _ binds => exact .bound _ _ deeds binds
  | decided _ _ _ _ _ takes decided => exact .decided actionId payload user _ deeds takes decided

theorem authorizeCurrentStep_serves (shows : store.Shows runId course) (actor : String) (timeoutSeconds : Nat) :
    (authorizeCurrentStep runtime runId actor timeoutSeconds).Ends store
      (Served runtime store runId course (.authorize runId actor timeoutSeconds)) := by
  obtain ⟨durable, stored, -, depicts⟩ := id shows
  obtain ⟨focus, current, identity, -⟩ := depicts.current
  have named : focus.id = course.focus.id := congrArg StepIdentity.id identity
  refine ends_runOr404 stored ?_
  rw [current, ends_bind, ends_found_some, continue_ok, named]
  refine Ends.bind (authorizeRunStep_ends shows actor timeoutSeconds) (fun actions after ends => ?_)
    fun error after ends => ?_
  · obtain ⟨rfl, -, free⟩ | ⟨shown, governed, known, step, stored, current, authorized⟩ := ends.2 actions rfl
    · exact ⟨[], .done course, shows, .authorized actor timeoutSeconds _ [] (.exempt free)⟩
    · refine ⟨[.clear], .single .clear trivial, shown, .authorized actor timeoutSeconds _ _ (.cleared governed fun _ => ?_)⟩
      exact ⟨known, step, actions, stored, current, authorized.toLetsThrough⟩
  · obtain ⟨deeds, refuses, governed⟩ := ends.1 error rfl
    exact ⟨deeds, refuses.performs.1, refuses.performs.2, .withheld actor timeoutSeconds error after deeds refuses governed⟩

/-- The service attaches a lease to this run or another one. -/
theorem attachCapabilityLease_bounds (shows : store.Shows runId course) (target leaseId : String) :
    (attachCapabilityLease runtime target leaseId).Ends store fun _ after =>
      ∃ deeds, Bound course deeds ∧ after.Shows runId (course.along deeds) := by
  by_cases same : target = runId
  · subst same
    refine (attachCapabilityLease_ends shows leaseId).mono fun _ after ends => ?_
    obtain ⟨deeds, last, binds, performs, shown, -⟩ := ends
    exact ⟨deeds, binds, performs.along ▸ shown⟩
  · refine ((attachCapabilityLease_spares (Ne.symm same) leaseId).ends store).mono fun _ after spared => ?_
    exact ⟨[], .unchanged, shows.spared spared⟩

theorem served_bound {response : Except Raised Unit} {after : Store}
    (ends : ∃ deeds, Bound course deeds ∧ after.Shows runId (course.along deeds)) :
    Served runtime store runId course request response after := by
  obtain ⟨deeds, binds, shown⟩ := ends
  exact ⟨deeds, binds.performs, shown, .bound request response deeds binds⟩

theorem bindRunCapabilityLease_serves (shows : store.Shows runId course) (target leaseId : String) :
    (bindRunCapabilityLease runtime target leaseId).Ends store (Served runtime store runId course request) := by
  refine ends_anyRun (fun _ => served_idle shows) fun durable _ => ?_
  refine requireStepBoundary_ends (fun _ => served_idle shows) fun _ => ends_relabel.mpr (ends_relabel.mpr ?_)
  exact (attachCapabilityLease_bounds shows target leaseId).mono fun _ after ends => served_bound ends

/-- A new run is another run. -/
theorem createRun_serves (shows : store.Shows runId course) (payload : AgentRunCreate) :
    (createRun runtime payload).Ends store (Served runtime store runId course request) := by
  refine ends_relabel.mpr (ends_relabel.mpr ?_)
  have created : (createAgentRun runtime payload).Ends store fun _ after => after.Shows runId course := by
    refine (createAgentRun_ends payload).mono fun _ after ends => ?_
    obtain same | ⟨newId, durable, -, absent, runs, -⟩ := ends
    · exact shows.of_runs same
    · have other : runId ≠ newId := by
        rintro rfl
        obtain ⟨known, stored, -⟩ := shows
        rw [absent] at stored
        cases stored
      exact shows.of_same (by rw [runs, Table.get?_set_other _ _ other])
  refine Ends.bind created (fun newId after shown => ?_) fun error after shown => served_idle shown
  simp only [ends_ite]
  refine ⟨fun _ => ?_, fun _ => served_idle shown⟩
  exact (attachCapabilityLease_bounds shown newId _).mono fun _ last ends => served_bound ends

/-- A retry reaches the step in focus alone: the others refuse it. -/
theorem retryAt_ends {scope : RunScope} (depicts : Depicts scope.run scope.steps course) (stepId reason : String) :
    (atStep stepId (retryAgentRunStep runtime reason)).Ends scope fun outcome after =>
      Carries course Move.retry outcome after ∨ (Depicts after.run after.steps course ∧ outcome.isOk = false) := by
  by_cases focused : stepId = course.focus.id
  · subst focused
    obtain ⟨passed, focus, ahead, picture, rfl⟩ := depicts
    exact (atStep_carries picture retryAgentRunStep_projects Move.retry_local).mono fun _ _ carried => .inl carried
  · cases found : findStep scope.steps stepId with
    | none =>
      simp only [Ends, atStep, found]
      exact .inr ⟨depicts, rfl⟩
    | some step =>
      obtain ⟨here, named⟩ := findStep_some found
      have settled : ¬ (step.status = .retryWait ∨ step.status = .needsHuman ∨ step.status = .failed) := by
        rcases depicts.elsewhere here (by rw [named]; exact focused) with passed | ⟨waits, -⟩
        · simp [passed]
        · rw [waits]
          cases course.cancelRequested <;> simp [waitingStatus]
      have refuses : (retryAgentRunStep runtime reason).Ends ⟨scope.run, step, scope.ticks⟩ fun outcome after =>
          outcome.isOk = false ∧ after = ⟨scope.run, step, scope.ticks⟩ := by
        refine ends_read (ends_guard ⟨rfl, rfl⟩ fun _ => ends_guard ⟨rfl, rfl⟩ fun waits => absurd waits settled)
      obtain ⟨failed, same⟩ := refuses
      simp only [Ends, atStep, found, same]
      obtain ⟨passed, focus, ahead, picture, shown⟩ := depicts
      rw [putStep_same picture.lineup.distinct_ids here]
      exact .inr ⟨⟨passed, focus, ahead, picture, shown⟩, failed⟩

theorem retryTarget_ends (durable : DurableRun) (stepId : Option String) :
    (retryTarget runId durable stepId).Ends store fun _ after => after = store := by
  unfold retryTarget
  split
  · refine ends_read (ends_lookup rfl fun pair _ => ?_)
    obtain ⟨owner, step⟩ := pair
    rfl
  · exact ends_lookup rfl fun step _ => rfl

theorem retryRun_serves (shows : store.Shows runId course) (stepId : Option String) (reason : String) :
    (retryRun runtime runId stepId reason).Ends store
      (Served runtime store runId course (.retry runId stepId reason)) := by
  obtain ⟨durable, stored, -, depicts⟩ := id shows
  have idle : ∀ error, Served runtime store runId course (.retry runId stepId reason) (.error error) store :=
    fun _ => served_idle shows
  refine ends_runOr404 stored (ends_guard (idle _) fun active => ?_)
  refine Ends.bind (retryTarget_ends durable stepId) (fun owner after same => ?_) fun error after same => ?_
  · obtain rfl := same
    obtain ⟨ownerId, step⟩ := owner
    refine ends_guard (idle _) fun _ => ?_
    have retries : (conflictResponse (do
        demand (ownerId = runId) (.agentRunConflict "Step does not belong to run.")
        onRun runId (atStep step.id (retryAgentRunStep runtime reason)))).Ends after
          (Served runtime after runId course (.retry runId stepId reason)) := by
      refine ends_relabel.mpr (ends_guard (served_idle shows) fun _ => ?_)
      -- the retry moves the step that it was asked for, or it is refused without a trace
      have moves : (onRun runId (atStep step.id (retryAgentRunStep runtime reason))).Ends after fun outcome last =>
          ∃ reached, last.Shows runId reached ∧
            ((reached = course.after Move.retry ∧ outcome.isOk = course.accepts Move.retry) ∨ reached = course) :=
        onRun_shows shows (atStep_onward _ (retryAgentRunStep_onward reason)) fun scope depicts =>
          (retryAt_ends depicts step.id reason).mono fun outcome last ends => by
            obtain carried | ⟨same, -⟩ := ends
            · exact ⟨_, carried.1, .inl ⟨rfl, carried.2⟩⟩
            · exact ⟨_, same, .inr rfl⟩
      refine moves.mono fun outcome last ends => ?_
      obtain ⟨reached, shown, ⟨rfl, accepted⟩ | rfl⟩ := ends
      · -- the route lets only a retry of a step that is not over through
        refine ⟨[.retry], .single .retry ⟨depicts.owned, ?_⟩, shown, .retried stepId reason _ ?_⟩
        · rw [← depicts.reads.1]
          exact active
        · rw [isOk_mapError, accepted]
      · exact served_idle shown
    refine Ends.bind retries (fun _ last ends => ?_) fun error last ends => ends
    obtain ⟨deeds, performs, shown, serves⟩ := ends
    exact ⟨deeds, performs, shown.of_runs rfl, serves⟩
  · obtain rfl := same
    exact idle error

theorem recoverVisit_ends (now : Instant) (shows : store.Shows runId course) :
    (onRun runId (recoverStaleLease runtime now)).Ends store fun _ after =>
      after.Shows runId course ∨ after.Shows runId (course.after Move.recover) := by
  have visits : (onRun runId (recoverStaleLease runtime now)).Ends store fun _ after => ∃ reached,
      after.Shows runId reached ∧ (reached = course ∨ reached = course.after Move.recover) :=
    onRun_shows shows (recoverStaleLease_onward now) fun scope depicts =>
      (recoverStaleLease_carries now depicts).mono fun outcome after ends => by
        obtain ⟨same, -⟩ | carried := ends
        · exact ⟨course, same, .inl rfl⟩
        · exact ⟨_, carried.1, .inr rfl⟩
  refine visits.mono fun outcome after ends => ?_
  obtain ⟨reached, shown, rfl | rfl⟩ := ends
  · exact .inl shown
  · exact .inr shown

theorem recoverEach_spares (now : Instant) (runIds : List String) (absent : runId ∉ runIds) :
    Sparing runId (each (fun target => do
      let _ ← onRun target (recoverStaleLease runtime now)
      pure ()) runIds) := by
  refine guarantees_each (Store.spares_self runId) (Store.spares_trans runId) runIds fun target member => ?_
  have other : runId ≠ target := fun same => absent (same ▸ member)
  exact sparing_bind (onRun_spares _ other) fun _ => sparing_pure _

/-- The watchdog visits a run at most once. -/
theorem recoverEach_ends (now : Instant) (runIds : List String) (distinct : runIds.Nodup)
    (shows : store.Shows runId course) :
    (each (fun target => do
        let _ ← onRun target (recoverStaleLease runtime now)
        pure ()) runIds).Ends store fun _ after =>
      after.Shows runId course ∨ after.Shows runId (course.after Move.recover) := by
  induction runIds generalizing store with
  | nil => exact .inl shows
  | cons target rest ih =>
    obtain ⟨absent, distinct⟩ := List.nodup_cons.mp distinct
    by_cases same : target = runId
    · subst same
      refine Ends.bind ((recoverVisit_ends now shows).dropped ()) (fun _ after ends => ?_) fun error after ends => ends
      refine ((recoverEach_spares now rest absent).ends after).mono fun _ last spared => ?_
      exact ends.imp (·.spared spared) (·.spared spared)
    · have spared : (onRun target (recoverStaleLease runtime now)).Ends store fun _ after => after.Shows runId course :=
        ((onRun_spares _ (Ne.symm same)).ends store).mono fun _ after spared => shows.spared spared
      exact Ends.bind (spared.dropped ()) (fun _ after shown => ih distinct shown) fun error after shown => .inl shown

theorem recoverStaleLeases_serves (shows : store.Shows runId course) :
    (recoverStaleLeases runtime).Ends store (Served runtime store runId course .recoverStale) := by
  rw [recoverStaleLeases, ends_bind, ends_readClock, continue_ok]
  refine ends_read (Ends.bind (recoverEach_ends _ _ store.agentRuns.distinct (shows.of_runs rfl)) (fun _ after ends => ?_)
    fun error after ends => ?_)
  · obtain shown | shown := ends
    · exact served_idle (shown.of_runs rfl)
    · exact ⟨[.recover], .single .recover trivial, shown.of_runs rfl, .recovered _⟩
  · obtain shown | shown := ends
    · exact served_idle shown
    · exact ⟨[.recover], .single .recover trivial, shown, .recovered _⟩

theorem heartbeatAgentRun_serves (shows : store.Shows runId course) (target : String) (payload : AgentRunHeartbeatRequest) :
    (heartbeatAgentRun runtime target payload).Ends store (Served runtime store runId course request) := by
  refine ends_relabel.mpr ?_
  by_cases same : target = runId
  · subst same
    have beats : (onRun target (heartbeatRun runtime payload.workerId payload.leaseToken payload.leaseSeconds)).Ends store
        fun _ after => ∃ reached, after.Shows target reached ∧ reached = course :=
      onRun_shows shows (heartbeatRun_onward _ _ _) fun scope depicts =>
        (heartbeatRun_carries _ _ _ depicts).mono fun _ after shown => ⟨course, shown, rfl⟩
    refine beats.mono fun outcome after ends => ?_
    obtain ⟨reached, shown, rfl⟩ := ends
    exact served_idle shown
  · exact ((onRun_spares _ (Ne.symm same)).ends store).mono fun _ _ spared => served_idle (shows.spared spared)

section Elsewhere

variable {target : String}

theorem sparing_relabel {α : Type} {body : StoreProcedure α} {rename : Raised → Raised} (spares : Sparing runId body) :
    Sparing runId (body.relabel rename) :=
  guarantees_relabel spares

/-- An operator request concerns its own run only. -/
theorem control_spares (other : runId ≠ target) (body : RunProcedure Unit) :
    Sparing runId (conflictResponse (onRun target body) >>= fun _ => persist) :=
  sparing_bind (sparing_relabel (onRun_spares _ other)) fun _ => persist_quiet.sparing

theorem retryRun_spares (other : runId ≠ target) (stepId : Option String) (reason : String) :
    Sparing runId (retryRun runtime target stepId reason) := by
  refine sparing_bind (sparing_runOr404 target) fun durable => sparing_bind (sparing_demand _) fun _ => ?_
  refine sparing_bind ?_ fun owner => sparing_bind (sparing_demand _) fun _ => ?_
  · exact sparing_runs fun store => congrArg Store.agentRuns (retryTarget_ends durable stepId)
  · refine sparing_bind (sparing_relabel (sparing_bind (sparing_demand _) fun _ => onRun_spares _ other)) fun _ => ?_
    exact persist_quiet.sparing

theorem executeRunNextStep_spares (other : runId ≠ target) (payload : AgentRunExecuteRequest) (outcome : ExecutorOutcome)
    (user : AuthUser) : Sparing runId (executeRunNextStep runtime target payload outcome user) := by
  refine sparing_bind (sparing_bind (sparing_runOr404 target) fun durable => ?_) fun admitted => ?_
  · refine sparing_bind (sparing_demand _) fun _ => sparing_bind ?_ fun _ => ?_
    · exact sparing_runs fun store => congrArg Store.agentRuns (safeLeaseSeconds_ends payload)
    · exact sparing_bind (sparing_found _ _) fun _ => sparing_pure _
  · refine sparing_relabel (sparing_bind (sparing_bind ?_ fun actions => ?_) fun actions => ?_)
    · exact sparing_bind (ensureRunCapability_spares other user) fun _ => authorizeRunStep_spares other _ _ _
    · refine sparing_bind (onRun_spares _ other) fun begun => sparing_bind ?_ fun _ => sparing_pure _
      cases begun with
      | answered => exact sparing_pure _
      | invoking step leaseToken =>
        refine sparing_bind (onRun_spares _ other) fun _ => ?_
        split
        · exact sparing_raise _
        · exact onRun_spares _ other
    · exact (consumeRunStepActions_quiet _ _ _).sparing

theorem authorizeCurrentStep_spares (other : runId ≠ target) (actor : String) (timeoutSeconds : Nat) :
    Sparing runId (authorizeCurrentStep runtime target actor timeoutSeconds) := by
  refine sparing_bind (sparing_runOr404 target) fun durable => sparing_bind (sparing_found _ _) fun current => ?_
  exact sparing_bind (authorizeRunStep_spares other _ _ _) fun _ => sparing_pure _

end Elsewhere

section Services

theorem assertAgentCan_quiet (agent : ExternalAgent) (action : AgentAction) (projectId repository : Option String) :
    Quiet (assertAgentCan agent action projectId repository : StoreProcedure Unit) :=
  quiet_bind (quiet_demand _) fun _ => quiet_bind (quiet_demand _) fun _ => quiet_demand _

theorem leaseOr404_quiet (leaseId : String) : Quiet (leaseOr404 runtime leaseId) :=
  quiet_read fun _ => quiet_bind (quiet_found _ _) fun _ => refreshLeaseStatus_quiet _

theorem createLease_quiet (payload : CapabilityLeaseCreate) (user : AuthUser) :
    Quiet (createLease runtime payload user) := by
  unfold createLease
  split
  · exact quiet_raise _
  · refine quiet_bind (quiet_demand _) fun _ => ?_
    exact quiet_bind (quiet_relabel (issueCapabilityLease_quiet _ _)) fun _ => quiet_pure _

end Services

/-- The request does not concern the run. -/
def RunRequest.Apart (runId : String) : RunRequest → Prop
  | .bindCapabilityLease target _ | .executeNext target _ _ _ | .heartbeat target _ | .pause target _
  | .resume target _ | .cancel target _ | .retry target _ _ | .authorize target _ _ => runId ≠ target
  | .createRun _ | .recoverStale | .decide _ _ _ => False
  | _ => True

theorem perform_spares (request : RunRequest) (apart : request.Apart runId) : Sparing runId (perform runtime request) := by
  cases request with
  -- requests about this run, and those that may concern any run
  | createRun | recoverStale | decide => exact apart.elim
  | bindCapabilityLease target leaseId =>
    refine sparing_bind (sparing_runOr404 target) fun durable => sparing_bind (sparing_demand _) fun _ => ?_
    exact sparing_relabel (sparing_relabel (attachCapabilityLease_spares apart leaseId))
  | executeNext target payload outcome user => exact executeRunNextStep_spares apart _ _ _
  | heartbeat target payload => exact sparing_relabel (onRun_spares _ apart)
  | pause target reason =>
    refine sparing_bind (sparing_runOr404 target) fun durable => ?_
    exact sparing_bind (sparing_demand _) fun _ => control_spares apart _
  | resume target reason => exact control_spares apart _
  | cancel target reason =>
    refine sparing_bind (sparing_runOr404 target) fun durable => ?_
    exact sparing_bind (sparing_demand _) fun _ => control_spares apart _
  | retry target stepId reason => exact retryRun_spares apart stepId reason
  | authorize target actor timeoutSeconds => exact authorizeCurrentStep_spares apart actor timeoutSeconds
  | evaluateExternal agentId action =>
    -- the trust requests touch runs through the gateway only, which spares all of them
    refine sparing_bind (sparing_demand _) fun _ => sparing_read fun _ => ?_
    refine sparing_bind (sparing_found _ _) fun agent => sparing_bind (assertAgentCan_quiet _ _ _ _).sparing fun _ => ?_
    refine sparing_read fun _ => sparing_bind (sparing_demand _) fun _ => ?_
    exact sparing_bind (evaluateGatewayAction_spares _ _) fun _ => sparing_pure _
  | evaluateManual action user =>
    exact sparing_bind (sparing_demand _) fun _ => sparing_bind (evaluateGatewayAction_spares _ _) fun _ => sparing_pure _
  | consumeExternal agentId actionId payload =>
    refine (quiet_bind (quiet_demand _) fun _ => quiet_read fun _ => ?_).sparing
    refine quiet_bind (quiet_found _ _) fun agent => quiet_read fun _ => quiet_bind (quiet_found _ _) fun action => ?_
    refine quiet_bind (quiet_demand _) fun _ => quiet_bind (assertAgentCan_quiet _ _ _ _) fun _ => ?_
    exact quiet_relabel (consumeEffectiveAction_quiet _ _ _)
  | consumeManual actionId payload user =>
    exact (quiet_bind (quiet_demand _) fun _ => quiet_relabel (consumeEffectiveAction_quiet _ _ _)).sparing
  | attest approvalRequestId decision reason user => exact (quiet_relabel (recordReviewerAttestation_quiet _ _ _ _)).sparing
  | issueLease payload user => exact (createLease_quiet payload user).sparing
  | viewLease leaseId => exact (quiet_bind (leaseOr404_quiet leaseId) fun _ => quiet_pure _).sparing
  | revokeLease leaseId reason user =>
    exact (quiet_bind (leaseOr404_quiet leaseId) fun lease => quiet_relabel (revokeCapabilityLease_quiet _ _ _)).sparing
  | «outside» change => exact sparing_runs fun _ => rfl

/-- Every request serves every run in the store. -/
theorem perform_serves (shows : store.Shows runId course) (steady : course.Steady) (request : RunRequest) :
    (perform runtime request).Ends store (Served runtime store runId course request) := by
  by_cases apart : request.Apart runId
  · exact served_sparing shows (perform_spares request apart)
  cases request with
  | createRun payload => exact createRun_serves shows payload
  | bindCapabilityLease target leaseId => exact bindRunCapabilityLease_serves shows target leaseId
  | executeNext target payload outcome user =>
    obtain rfl := not_not.mp apart
    refine (executeRunNextStep_ends shows steady payload outcome user).mono fun response after ends => ?_
    obtain ⟨deeds, performs, shown, executes⟩ := ends
    exact ⟨deeds, performs, shown, .executed payload outcome user response deeds executes⟩
  | heartbeat target payload => exact heartbeatAgentRun_serves shows target payload
  | pause target reason =>
    obtain rfl := not_not.mp apart
    exact pauseRun_serves shows reason
  | resume target reason =>
    obtain rfl := not_not.mp apart
    exact resumeRun_serves shows reason
  | cancel target reason =>
    obtain rfl := not_not.mp apart
    exact cancelRun_serves shows reason
  | retry target stepId reason =>
    obtain rfl := not_not.mp apart
    exact retryRun_serves shows stepId reason
  | recoverStale => exact recoverStaleLeases_serves shows
  | authorize target actor timeoutSeconds =>
    obtain rfl := not_not.mp apart
    exact authorizeCurrentStep_serves shows actor timeoutSeconds
  | decide actionId payload user => exact decideExactAction_serves shows actionId payload user
  | evaluateExternal | evaluateManual | consumeExternal | consumeManual | attest | issueLease | viewLease
  | revokeLease | «outside» => exact (apart trivial).elim

end Serve

end ControlTower
