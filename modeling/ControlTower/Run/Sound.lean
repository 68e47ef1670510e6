import ControlTower.Run.Requests

/-! What holds of every run in every store that the service reaches. -/

set_option autoImplicit false

namespace ControlTower

open Foundation
open Foundation.Procedure

section Arrive

variable {runtime : Runtime} {store : Store} {runId : String}

/-- Under an identifier without a run there is still none, or a new run. -/
def Arrives (runId : String) (after : Store) : Prop :=
  after.agentRuns.get? runId = none ∨
    ∃ course deeds, course.Initial ∧ Bound course deeds ∧ after.Shows runId (course.along deeds)

theorem arrives_sparing {body : StoreProcedure Unit} (absent : store.agentRuns.get? runId = none)
    (spares : Sparing runId body) : body.Ends store fun _ after => Arrives runId after :=
  (spares.ends store).mono fun _ _ spared => .inl (Eq.trans spared absent)

/-- A request that looks for the run first finds none. -/
theorem arrives_runOr404 {target : String} {next : DurableRun → StoreProcedure Unit}
    (absent : store.agentRuns.get? runId = none)
    (spares : runId ≠ target → Sparing runId (runOr404 target >>= next)) :
    (runOr404 target >>= next).Ends store fun _ after => Arrives runId after := by
  by_cases same : runId = target
  · subst same
    refine ends_anyRun (fun _ => .inl absent) fun durable stored => ?_
    rw [absent] at stored
    cases stored
  · exact arrives_sparing absent (spares same)

theorem onRun_absent {α : Type} {body : RunProcedure α} (absent : store.agentRuns.get? runId = none) (target : String) :
    (onRun target body).Ends store fun _ after => after.agentRuns.get? runId = none := by
  by_cases same : runId = target
  · subst same
    simp only [Ends, onRun, absent]
  · exact ((onRun_spares body same).ends store).mono fun _ _ spared => Eq.trans spared absent

theorem createRun_arrives (absent : store.agentRuns.get? runId = none) (payload : AgentRunCreate) :
    (createRun runtime payload).Ends store fun _ after => Arrives runId after := by
  refine ends_relabel.mpr (ends_relabel.mpr ?_)
  have created : (createAgentRun runtime payload).Ends store fun outcome after =>
      after.agentRuns.get? runId = none ∨
        (outcome = .ok runId ∧ ∃ course, course.Initial ∧ after.Shows runId course) := by
    refine (createAgentRun_ends payload).mono fun outcome after ends => ?_
    obtain same | ⟨newId, durable, rfl, -, runs, named, course, depicts, initial⟩ := ends
    · exact .inl (by rw [same, absent])
    · by_cases here : runId = newId
      · subst here
        exact .inr ⟨rfl, course, initial, durable, by rw [runs, Table.get?_set_self], named, depicts⟩
      · exact .inl (by rw [runs, Table.get?_set_other _ _ here, absent])
  refine Ends.bind created (fun newId after ends => ?_) fun error after ends => ?_
  · simp only [ends_ite, ends_pure]
    obtain missing | ⟨same, course, initial, shown⟩ := ends
    · refine ⟨fun _ => ?_, fun _ => .inl missing⟩
      exact arrives_runOr404 missing fun other => attachCapabilityLease_spares other _
    · obtain rfl : newId = runId := by simpa using same
      refine ⟨fun _ => ?_, fun _ => .inr ⟨course, [], initial, .unchanged, shown⟩⟩
      refine (attachCapabilityLease_bounds shown newId _).mono fun _ last ends => ?_
      obtain ⟨deeds, binds, shown⟩ := ends
      exact .inr ⟨course, deeds, initial, binds, shown⟩
  · obtain missing | ⟨same, -⟩ := ends
    · exact .inl missing
    · cases same

/-- A verdict reaches a run that exists. -/
theorem applyDurableRunDecision_absent (absent : store.agentRuns.get? runId = none) (actionId : String)
    (verdict : ActionAuthorizationDecision) (reason : String) :
    (applyDurableRunDecision runtime actionId verdict reason).Ends store
      fun _ after => after.agentRuns.get? runId = none := by
  refine ends_read ?_
  split
  · exact absent
  · exact onRun_absent absent _

theorem repeatAuthorization_absent (absent : store.agentRuns.get? runId = none) (actionId : String)
    (action : ProposedAction) (existing : ActionAuthorization) :
    (repeatAuthorization runtime actionId action existing).Ends store fun _ after => Arrives runId after := by
  refine ends_guard (.inl absent) fun _ => ?_
  exact Ends.bind (applyDurableRunDecision_absent absent _ _ _) (fun _ _ missing => .inl missing)
    fun _ _ missing => .inl missing

theorem decideExactAction_arrives (absent : store.agentRuns.get? runId = none) (actionId : String)
    (payload : ActionAuthorizationCreate) (user : AuthUser) :
    (decideExactAction runtime actionId payload user).Ends store fun _ after => Arrives runId after := by
  refine ends_relabel.mpr (ends_guard (.inl absent) fun _ => ends_read (ends_lookup (.inl absent) fun action _ => ?_))
  refine ends_lookup (.inl absent) fun current _ => ends_guard (.inl absent) fun _ => ?_
  split
  · simp only [ends_ite]
    exact ⟨fun _ => repeatAuthorization_absent absent _ _ _,
      fun _ => ends_guard (.inl absent) fun _ => repeatAuthorization_absent absent _ _ _⟩
  · refine ends_guard (.inl absent) fun _ => ?_
    refine Ends.bind (storeAuthorization_ends action current payload.decision payload.reason user)
      (fun _ after ends => ?_) fun error after ends => .inl (by rw [ends.2.1, absent])
    refine Ends.bind (applyDurableRunDecision_absent (by rw [ends.2.1, absent]) _ _ _)
      (fun _ _ missing => .inl missing) fun _ _ missing => .inl missing

theorem control_arrives (absent : store.agentRuns.get? runId = none) (target : String) (body : RunProcedure Unit) :
    (conflictResponse (onRun target body) >>= fun _ => persist).Ends store fun _ after => Arrives runId after := by
  have missing : (conflictResponse (onRun target body)).Ends store fun _ after => after.agentRuns.get? runId = none :=
    ends_relabel.mpr (onRun_absent absent target)
  exact Ends.bind missing (fun _ _ still => .inl still) fun _ _ still => .inl still

/-- Only a creation brings a run, and it brings an initial one. -/
theorem perform_arrives (absent : store.agentRuns.get? runId = none) (request : RunRequest) :
    (perform runtime request).Ends store fun _ after => Arrives runId after := by
  by_cases apart : request.Apart runId
  · -- a request about the run itself does not find it
    exact arrives_sparing absent (perform_spares request apart)
  have unknown : ∀ {next : DurableRun → StoreProcedure Unit},
      (runOr404 runId >>= next).Ends store fun _ after => Arrives runId after :=
    arrives_runOr404 absent fun other => absurd rfl other
  cases request with
  | createRun payload => exact createRun_arrives absent payload
  | bindCapabilityLease target leaseId =>
    obtain rfl := not_not.mp apart
    exact unknown
  | executeNext target payload outcome user =>
    obtain rfl := not_not.mp apart
    have declines : (admitExecution runId payload).Ends store fun admitted after =>
        after.agentRuns.get? runId = none ∧ admitted.isOk = false := by
      refine ends_anyRun (fun _ => ⟨absent, rfl⟩) fun durable stored => ?_
      rw [absent] at stored
      cases stored
    refine Ends.bind declines (fun _ after ends => ?_) fun _ after ends => .inl ends.1
    simp [Except.isOk, Except.toBool] at ends
  | heartbeat target payload => exact ends_relabel.mpr ((onRun_absent absent target).mono fun _ _ missing => .inl missing)
  | pause target reason =>
    obtain rfl := not_not.mp apart
    exact unknown
  | resume target reason => exact control_arrives absent target _
  | cancel target reason =>
    obtain rfl := not_not.mp apart
    exact unknown
  | retry target stepId reason =>
    obtain rfl := not_not.mp apart
    exact unknown
  -- the sweep visits the runs that are there
  | recoverStale =>
    have unlisted : runId ∉ store.agentRuns.keys := Table.get?_eq_none.mp absent
    rw [perform, recoverStaleLeases, ends_bind, ends_readClock, continue_ok]
    refine ends_read (Ends.bind ((recoverEach_spares _ _ unlisted).ends _) (fun _ _ spared => ?_) fun _ _ spared => ?_)
    · exact .inl (Eq.trans spared absent)
    · exact .inl (Eq.trans spared absent)
  | authorize target actor timeoutSeconds =>
    obtain rfl := not_not.mp apart
    exact unknown
  | decide actionId payload user => exact decideExactAction_arrives absent actionId payload user
  | evaluateExternal | evaluateManual | consumeExternal | consumeManual | attest | issueLease | viewLease
  | revokeLease | «outside» => exact (apart trivial).elim

end Arrive

/-- Every stored run shows a course with a property. -/
def Store.Every (property : Course → Prop) (store : Store) : Prop :=
  ∀ runId durable, store.agentRuns.get? runId = some durable →
    ∃ course, durable.run.id = runId ∧ Depicts durable.run durable.steps course ∧ property course

theorem Store.Shows.unfold {store : Store} {runId : String} {course : Course} {durable : DurableRun}
    (shows : store.Shows runId course) (stored : store.agentRuns.get? runId = some durable) :
    durable.run.id = runId ∧ Depicts durable.run durable.steps course := by
  obtain ⟨known, here, named, depicts⟩ := shows
  obtain rfl : known = durable := by simpa [here] using stored
  exact ⟨named, depicts⟩

section Reach

variable {runtime : Runtime} {allowed : Store → RunRequest → Prop} {property : Course → Prop}

/-- A property that new runs have and that every allowed request keeps holds of
every run of every reachable store. -/
theorem every_reachable
    (initially : ∀ course deeds, course.Initial → Bound course deeds → property (course.along deeds))
    (serves : ∀ store runId course request response deeds, allowed store request → store.Shows runId course →
      course.Steady → property course → Performs course deeds (course.along deeds) →
      Serves runtime store runId course request response deeds → property (course.along deeds))
    {store : Store} (reachable : (runMachine runtime).Reachable allowed store) :
    store.Every fun course => course.Steady ∧ property course := by
  refine reachable.invariant (fun store fresh => ?_) fun store request every permitted => ?_
  · intro runId durable stored
    rw [fresh.agentRuns, Table.get?_empty] at stored
    cases stored
  · intro runId durable stored
    cases before : store.agentRuns.get? runId with
    | none =>
      obtain missing | ⟨course, deeds, initial, binds, shown⟩ := perform_arrives before request
      · exact absurd (missing.symm.trans stored) (by simp)
      · obtain ⟨named, depicts⟩ := shown.unfold stored
        exact ⟨_, named, depicts, binds.performs.steady initial.steady, initially course deeds initial binds⟩
    | some known =>
      obtain ⟨course, named, depicts, steady, holds⟩ := every runId known before
      have shows : store.Shows runId course := ⟨known, before, named, depicts⟩
      obtain ⟨deeds, performs, shown, served⟩ := perform_serves shows steady request
      obtain ⟨named, depicts⟩ := shown.unfold stored
      exact ⟨_, named, depicts, performs.steady steady,
        serves store runId course request _ deeds permitted shows steady holds performs served⟩

theorem steady_reachable {store : Store} (reachable : (runMachine runtime).Reachable allowed store) :
    store.Every Course.Steady := by
  have every : store.Every fun course => course.Steady ∧ True := by
    refine every_reachable ?_ ?_ reachable
    · exact fun _ _ _ _ => trivial
    · exact fun _ _ _ _ _ _ _ _ _ _ _ _ => trivial
  intro runId durable stored
  obtain ⟨course, named, depicts, steady, -⟩ := every runId durable stored
  exact ⟨course, named, depicts, steady⟩

end Reach

/-- A step with side effects that waits for a human or was tried belongs to a run
with a lease, where leases are demanded. -/
def Course.Leased (runtime : Runtime) (course : Course) : Prop :=
  runtime.trustEnforcement = true → course.focus.stepType.hasSideEffect = true →
    course.step = .needsHuman ∨ 1 ≤ course.attempts → Text.present course.binding.capabilityLeaseId = true

/-- The authority with which the service does a deed. -/
def Deed.Granted (runtime : Runtime) (course : Course) : Deed → Prop
  | .bind _ => Text.present course.binding.capabilityLeaseId = false
  | .hold => course.Governed runtime
  | .begin _ => runtime.trustEnforcement = true → course.focus.stepType.hasSideEffect = true →
      Text.present course.binding.capabilityLeaseId = true
  | _ => True

section Leased

variable {runtime : Runtime} {store : Store} {runId : String} {course : Course}

/-- A change that neither starts an attempt nor calls for a human keeps the lease fitting. -/
theorem Course.Leased.calm {other : Course} (leased : course.Leased runtime) (binding : other.binding = course.binding)
    (focus : other.focus = course.focus) (attempts : other.attempts = course.attempts)
    (gate : other.step = .needsHuman → course.step = .needsHuman ∨ 1 ≤ course.attempts) : other.Leased runtime := by
  intro enforced sideEffect tried
  rw [binding]
  rw [focus] at sideEffect
  rw [attempts] at tried
  exact leased enforced sideEffect (tried.elim gate .inr)

theorem Course.Leased.deed (leased : course.Leased runtime) (steady : course.Steady) (deed : Deed)
    (enabled : deed.Enabled course) (granted : deed.Granted runtime course) :
    (course.after deed.move).Leased runtime := by
  cases deed with
  -- a lease is bound where there is none, so none was needed yet
  | bind leaseId =>
    intro enforced sideEffect tried
    have present : Text.present course.binding.capabilityLeaseId = true := leased enforced sideEffect tried
    exact absurd (present.symm.trans granted) (by simp)
  -- only a governed step is held
  | hold =>
    intro enforced sideEffect tried
    have same : (course.after Deed.hold.move).binding = course.binding := (Move.toBoth_local .needsHuman .needsHuman course).1
    rw [same]
    exact granted.2.2
  | block =>
    simp only [Deed.move, Move.block, Course.after, Move.run_toBoth]
    split
    · split <;> exact leased.calm rfl rfl rfl (by simp [Course.stepped, Course.ran])
    · exact leased
  | clear =>
    simp only [Deed.move, Course.after, Move.run_allow]
    exact leased.calm rfl rfl rfl (by by_cases gate : course.step = .needsHuman <;> simp [gate])
  | decided decision =>
    cases decision with
    | allow =>
      simp only [Deed.move, Course.after, Move.run_allow]
      exact leased.calm rfl rfl rfl (by by_cases gate : course.step = .needsHuman <;> simp [gate])
    | block =>
      simp only [Deed.move, Course.after, Move.run_deny]
      exact leased.calm rfl rfl rfl (by by_cases gate : course.step = .needsHuman <;> simp [gate])
  | decidedElsewhere decision =>
    cases decision with
    | allow =>
      simp only [Deed.move, Course.after, Move.run_allowElsewhere]
      exact leased.calm rfl rfl rfl .inl
    | block =>
      simp only [Deed.move, Course.after, Move.run_denyElsewhere]
      exact leased.calm rfl rfl rfl .inl
  | pause =>
    simp only [Deed.move, Course.after, Move.run_pause]
    split
    · exact leased
    · split <;> exact leased.calm rfl rfl rfl .inl
  | resume =>
    simp only [Deed.move, Course.after, Move.run_resume]
    split
    · refine leased.calm rfl rfl rfl fun gate => ?_
      by_cases away : course.step = .paused ∨ course.step = .needsHuman ∨ course.step = .retryWait
      · simp [away] at gate
      · simp only [away, if_false] at gate
        exact .inl gate
    · exact leased
  | cancel =>
    simp only [Deed.move, Course.after, Move.run_cancel]
    split
    · exact leased
    · split
      · exact leased
      · refine leased.calm rfl rfl rfl fun gate => ?_
        by_cases ended : course.step.isTerminal = true
        · simp only [ended, if_true] at gate
          exact .inl gate
        · simp [ended] at gate
  | retry =>
    simp only [Deed.move, Course.after, Move.run_retry course enabled.1]
    split
    · exact leased.calm rfl rfl rfl (by simp)
    · exact leased
  | recover =>
    simp only [Deed.move, Course.after, Move.run_recover]
    split
    · -- a step that is recovered was attempted, and its lease was asked for then
      rename_i attempt
      split <;> exact leased.calm rfl rfl rfl fun _ => .inr (steady.attempted (.inl attempt))
    · exact leased.calm rfl rfl rfl .inl
  | begin workerId =>
    obtain ⟨startable, idle, free⟩ := enabled
    simp only [Deed.move, Course.after, Move.run_begin course workerId idle, Move.run_start]
    -- an attempt starts only where the lease is there, if one is needed
    exact fun enforced sideEffect _ => granted enforced sideEffect
  | finish decision =>
    have attempt : course.step = .running := enabled
    obtain ⟨active, -⟩ := fits_running (attempt ▸ steady.fits)
    simp only [Deed.move, Course.after]
    by_cases passing : decision = .pass
    · subst passing
      cases waiting : course.waiting with
      | nil =>
        rw [Move.run_finish_last course attempt active waiting]
        exact leased.calm rfl rfl rfl (by simp)
      | cons next rest =>
        rw [Move.run_finish_next course attempt waiting]
        -- the next step has not been tried yet
        exact fun _ _ tried => absurd tried (by simp)
    · rw [Move.run_finish_failure course passing attempt active]
      exact leased.calm rfl rfl rfl fun _ => .inr (steady.attempted (.inl attempt))

theorem Bound.granted {deeds : List Deed} (binds : Bound course deeds) :
    course.Along (fun course deed => deed.Granted runtime course) deeds := by
  cases binds with
  | unchanged => trivial
  | leased leaseId absent => exact ⟨absent, trivial⟩

/-- Everything a request does is done with authority. -/
theorem Serves.granted {request : RunRequest} {response : Except Raised Unit} {deeds : List Deed}
    (serves : Serves runtime store runId course request response deeds) :
    course.Along (fun course deed => deed.Granted runtime course) deeds := by
  have refusing : ∀ {course : Course} {error : Raised} {after : Store} {deeds : List Deed},
      Refuses runId course error after deeds → (deeds = [] ∨ course.Governed runtime) →
        course.Along (fun course deed => deed.Granted runtime course) deeds := by
    intro course error after deeds refuses governed
    cases refuses with
    | plainly => trivial
    -- a step is held only by an authorization that governs it
    | held => exact ⟨governed.resolve_left (by simp), trivial⟩
    | blocked => exact ⟨trivial, trivial⟩
  cases serves with
  | idle => trivial
  | bound _ _ _ binds => exact binds.granted
  | paused | resumed | cancelled | retried | recovered => exact ⟨trivial, trivial⟩
  | decided _ _ _ _ _ _ decided => cases decided <;> simp [Course.Along, Deed.Granted]
  | withheld _ _ _ _ _ refuses governed => exact refusing refuses governed
  | authorized _ _ _ _ rules => cases rules <;> simp [Course.Along, Deed.Granted]
  | executed _ _ _ _ _ executes =>
    cases executes with
    | declined _ _ binds => exact binds.granted
    | withheld _ _ bound ruled binds refuses governed => exact Course.along_two _ _ _ binds.granted (refusing refuses governed)
    | attempted bound ruled tail _ _ binds rules attempt _ =>
      have cleared : (course.along bound).Along (fun course deed => deed.Granted runtime course) ruled := by
        cases rules <;> simp [Course.Along, Deed.Granted]
      refine Course.along_two _ _ _ (Course.along_two _ _ _ binds.granted cleared) ?_
      have starts : ∀ workerId, (Deed.begin workerId).Granted runtime (course.along (bound ++ ruled)) := by
        intro workerId enforced sideEffect
        cases rules with
        | exempt free =>
          rw [List.append_nil] at sideEffect
          rcases free with off | harmless
          · -- where nothing is enforced and for a harmless step nobody asks for a lease
            exact absurd (enforced.symm.trans off) (by simp)
          · exact absurd (sideEffect.symm.trans harmless) (by simp)
        | cleared governed =>
          rw [Course.along_append]
          simpa [Deed.move, Course.after, Move.run_allow] using governed.2.2
      cases attempt with
      | refused | waiting => trivial
      | crashed => exact ⟨starts _, trivial⟩
      | finished => exact ⟨starts _, trivial, trivial⟩

theorem Course.Leased.serve {request : RunRequest} {response : Except Raised Unit} {deeds : List Deed}
    (leased : course.Leased runtime) (steady : course.Steady) (performs : Performs course deeds (course.along deeds))
    (serves : Serves runtime store runId course request response deeds) : (course.along deeds).Leased runtime := by
  have kept : ∀ (course : Course) (deed : Deed), deed.Enabled course → deed.Granted runtime course →
      course.Steady ∧ course.Leased runtime →
        (course.after deed.move).Steady ∧ (course.after deed.move).Leased runtime := by
    intro course deed enabled granted both
    exact ⟨both.1.deed deed enabled, both.2.deed both.1 deed enabled granted⟩
  exact (performs.keepsAlong serves.granted ⟨steady, leased⟩ kept).2

theorem Course.Initial.leased {deeds : List Deed} (initial : course.Initial) (binds : Bound course deeds) :
    (course.along deeds).Leased runtime := by
  intro _ _ tried
  cases binds <;> simp [Deed.move, Move.bind, Course.after, initial.step, initial.attempts] at tried

end Leased

end ControlTower
