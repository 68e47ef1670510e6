import ControlTower.Foundation.Exclusive
import ControlTower.Run.Changes
import ControlTower.Run.Sound

/-! Every request changes the stored runs by chains of record changes, and only a
creation brings a run. -/

set_option autoImplicit false

namespace ControlTower

open Foundation
open Foundation.Procedure
open Relation (ReflTransGen)

/-- Every stored run is there after it, reached by changes of its records, and no
run has joined. -/
structure Store.Evolves (runtime : Runtime) (before after : Store) : Prop where
  joined : ∀ runId, before.agentRuns.get? runId = none → after.agentRuns.get? runId = none
  changed : ∀ runId durable, before.agentRuns.get? runId = some durable →
    ∃ later, after.agentRuns.get? runId = some later ∧ ReflTransGen (DurableChange runtime) durable later

theorem Store.evolves_runs {runtime : Runtime} {before after : Store} (same : after.agentRuns = before.agentRuns) :
    before.Evolves runtime after :=
  ⟨fun _ absent => by rw [same, absent], fun _ durable stored => ⟨durable, by rw [same, stored], .refl⟩⟩

theorem Store.evolves_self (runtime : Runtime) (store : Store) : store.Evolves runtime store := Store.evolves_runs rfl

theorem Store.evolves_trans (runtime : Runtime) (first middle last : Store) (start : first.Evolves runtime middle)
    (rest : middle.Evolves runtime last) : first.Evolves runtime last := by
  constructor
  · exact fun runId absent => rest.joined runId (start.joined runId absent)
  · intro runId durable stored
    obtain ⟨between, found, early⟩ := start.changed runId durable stored
    obtain ⟨later, present, late⟩ := rest.changed runId between found
    exact ⟨later, present, early.trans late⟩

abbrev Evolving (runtime : Runtime) {α : Type} (body : StoreProcedure α) : Prop :=
  Guarantees (Store.Evolves runtime) body

section Rules

variable {α β : Type} {runtime : Runtime}

theorem evolving_runs {body : StoreProcedure α} (same : ∀ store, (body.run store).2.agentRuns = store.agentRuns) :
    Evolving runtime body := fun store => Store.evolves_runs (same store)

theorem Quiet.evolving {body : StoreProcedure α} (quiet : Quiet body) : Evolving runtime body :=
  evolving_runs fun store => (quiet store).runs

/-- A procedure that spares every run. -/
theorem evolving_spared {body : StoreProcedure α} (spares : ∀ runId, Sparing runId body) : Evolving runtime body :=
  fun store => ⟨fun runId absent => (spares runId store).trans absent,
    fun runId durable stored => ⟨durable, (spares runId store).trans stored, .refl⟩⟩

theorem evolving_bind {first : StoreProcedure α} {next : α → StoreProcedure β} (start : Evolving runtime first)
    (rest : ∀ value, Evolving runtime (next value)) : Evolving runtime (first >>= next) :=
  guarantees_bind (Store.evolves_trans runtime) start rest

theorem evolving_pure (value : α) : Evolving runtime (pure value) := guarantees_pure (Store.evolves_self runtime) value

theorem evolving_raise (error : Raised) : Evolving runtime (raise error : StoreProcedure α) :=
  guarantees_raise (Store.evolves_self runtime) error

theorem evolving_read {next : Store → StoreProcedure β} (rest : ∀ store, Evolving runtime (next store)) :
    Evolving runtime (Procedure.state >>= next) :=
  evolving_bind (guarantees_state (Store.evolves_self runtime)) rest

theorem evolving_demand {condition : Prop} [Decidable condition] (error : Raised) :
    Evolving runtime (demand condition error) :=
  guarantees_demand (Store.evolves_self runtime) error

theorem evolving_found (value : Option α) (error : Raised) : Evolving runtime (found value error) :=
  guarantees_found (Store.evolves_self runtime) value error

theorem evolving_relabel {body : StoreProcedure α} {rename : Raised → Raised} (evolving : Evolving runtime body) :
    Evolving runtime (body.relabel rename) :=
  guarantees_relabel evolving

theorem evolving_each {ι : Type} {action : ι → StoreProcedure Unit} (items : List ι)
    (one : ∀ item ∈ items, Evolving runtime (action item)) : Evolving runtime (each action items) :=
  guarantees_each (Store.evolves_self runtime) (Store.evolves_trans runtime) items one

theorem persist_evolving : Evolving runtime persist := persist_quiet.evolving

theorem runOr404_evolving (runId : String) : Evolving runtime (runOr404 runId) :=
  evolving_read fun _ => evolving_found _ _

/-- A supervisor procedure changes the run it is called for. -/
theorem onRun_evolving (runId : String) {body : RunProcedure α} (changes : RunChanges runtime body) :
    Evolving runtime (onRun runId body) := by
  intro store
  cases here : store.agentRuns.get? runId with
  | none =>
    simp only [onRun, here]
    exact store.evolves_self runtime
  | some durable =>
    have went := changes ⟨durable.run, durable.steps, store.ticks⟩
    simp only [onRun, here]
    constructor
    · intro other absent
      have different : other ≠ runId := by
        intro same
        rw [same, here] at absent
        cases absent
      rw [Table.get?_set_other _ _ different, absent]
    · intro other known stored
      by_cases same : other = runId
      · subst same
        rw [here] at stored
        cases stored
        exact ⟨_, Table.get?_set_self _ _ _, went⟩
      · exact ⟨known, by rw [Table.get?_set_other _ _ same, stored], .refl⟩

theorem control_evolving (runId : String) {body : RunProcedure Unit} (changes : RunChanges runtime body) :
    Evolving runtime (conflictResponse (onRun runId body) >>= fun _ => persist) :=
  evolving_bind (evolving_relabel (onRun_evolving runId changes)) fun _ => persist_evolving

end Rules

section Trust

variable {α : Type} {runtime : Runtime}

theorem evaluateGatewayAction_evolving (action : ProposedAction) (actor : String) :
    Evolving runtime (evaluateGatewayAction runtime action actor) := by
  apply evolving_runs
  intro store
  obtain ⟨decision, -, evaluates⟩ : (evaluateGatewayAction runtime action actor).Ends store fun outcome after =>
    ∃ decision, outcome = .ok decision ∧ store.Evaluates runtime after action decision :=
      evaluateGatewayAction_evaluates action actor
  exact evaluates.runs

theorem refuseStep_evolving (runId stepId : String) {mark : StepProcedure Unit} (reason : String)
    (changes : StepChanges runtime mark) : Evolving runtime (refuseStep runId stepId mark reason : StoreProcedure α) :=
  evolving_bind (onRun_evolving runId (atStep_changes _ changes)) fun _ =>
    evolving_bind persist_evolving fun _ => evolving_raise _

theorem blockOnConflict_evolving (runId stepId : String) {check : StoreProcedure α} (evolving : Evolving runtime check) :
    Evolving runtime (blockOnConflict runtime runId stepId check) := by
  apply guarantees_rescue (Store.evolves_trans runtime) evolving
  intro error
  split
  · exact refuseStep_evolving _ _ _ (transitionBoth_changes _ _ _ _)
  · exact evolving_raise _

theorem validateLeaseForRun_evolving (run : AgentRun) (lease : CapabilityLease) :
    Evolving runtime (validateLeaseForRun runtime run lease) :=
  evolving_bind (refreshLeaseStatus_quiet _).evolving fun _ => evolving_read fun _ =>
    evolving_bind (evolving_demand _) fun _ => evolving_pure _

theorem attachCapabilityLease_evolving (runId leaseId : String) :
    Evolving runtime (attachCapabilityLease runtime runId leaseId) := by
  refine evolving_bind (runOr404_evolving runId) fun durable => guarantees_ite (evolving_demand _) ?_
  iterate 4 refine evolving_bind (evolving_demand _) fun _ => ?_
  refine evolving_read fun _ => evolving_bind (evolving_found _ _) fun lease => ?_
  refine evolving_bind (validateLeaseForRun_evolving _ _) fun lease => evolving_bind quiet_readClock.evolving fun _ => ?_
  refine evolving_bind (onRun_evolving runId (runChanges_modifyRun fun run => ?_)) fun _ => persist_evolving
  exact .marked run.pauseRequested run.cancelRequested run.currentStepId run.currentStepIndex (some lease.id)
    run.finalEvidenceHash _

theorem ensureRunCapability_evolving (runId : String) (user : AuthUser) :
    Evolving runtime (ensureRunCapability runtime runId user) := by
  refine guarantees_ite (evolving_pure _) (evolving_bind (runOr404_evolving runId) fun durable => ?_)
  refine evolving_read fun _ => guarantees_ite (evolving_demand _) ?_
  refine evolving_bind (evolving_found _ _) fun task => evolving_bind (evolving_found _ _) fun approval => ?_
  iterate 2 refine evolving_bind (evolving_demand _) fun _ => ?_
  split
  · exact evolving_raise _
  · apply guarantees_rescue (Store.evolves_trans runtime)
    · exact evolving_bind (issueCapabilityLease_quiet _ _).evolving fun _ => attachCapabilityLease_evolving _ _
    · intro error
      split
      · exact evolving_raise _
      · exact guarantees_ite (evolving_raise _) (evolving_raise _)

theorem authorizeAction_evolving (runId stepId actor : String) (action : ProposedAction) :
    Evolving runtime (authorizeAction runtime runId stepId actor action) := by
  have held : ∀ reason, StepChanges runtime (markNeedsHuman runtime reason) := fun _ => transitionBoth_changes _ _ _ _
  have blocked : ∀ reason, StepChanges runtime (markBlocked runtime reason) := fun _ => transitionBoth_changes _ _ _ _
  refine evolving_bind (evolving_read fun store => ?_) fun decision => ?_
  · split
    · exact evaluateGatewayAction_evolving _ _
    · apply guarantees_ite (refuseStep_evolving _ _ _ (blocked _))
      split
      · exact refuseStep_evolving _ _ _ (blocked _)
      · exact evolving_pure _
  · split
    · exact evolving_pure _
    · exact refuseStep_evolving _ _ _ (blocked _)
    · exact refuseStep_evolving _ _ _ (held _)

theorem authorizeRunStep_evolving (runId stepId actor : String) (timeoutSeconds : Nat) :
    Evolving runtime (authorizeRunStep runtime runId stepId actor timeoutSeconds) := by
  refine evolving_bind (runOr404_evolving runId) fun durable => evolving_bind (evolving_found _ _) fun step => ?_
  refine guarantees_ite (evolving_pure _) (evolving_bind (evolving_demand _) fun _ => evolving_read fun _ => ?_)
  refine evolving_bind (evolving_found _ _) fun held => ?_
  refine evolving_bind (blockOnConflict_evolving _ _ (validateLeaseForRun_evolving _ _)) fun lease => ?_
  refine evolving_bind (evolving_read fun _ => ?_) fun actions => ?_
  · refine evolving_bind (evolving_found _ _) fun _ => evolving_bind (evolving_found _ _) fun _ => ?_
    exact evolving_bind (evolving_demand _) fun _ => evolving_pure _
  refine evolving_bind (blockOnConflict_evolving _ _ ?_) fun _ => ?_
  · exact evolving_bind (evolving_demand _) fun _ => evolving_bind (evolving_demand _) fun _ => evolving_demand _
  refine evolving_bind (evolving_each _ fun action _ => authorizeAction_evolving _ _ _ action) fun _ => ?_
  refine evolving_bind (onRun_evolving _ (atStep_changes _ allowDecided_changes)) fun _ => ?_
  exact evolving_bind persist_evolving fun _ => evolving_pure _

end Trust

section Requests

variable {runtime : Runtime}

theorem runExecutor_evolving (runId : String) (outcome : ExecutorOutcome) (begun : Begun) :
    Evolving runtime (runExecutor runtime runId outcome begun) := by
  cases begun with
  | answered => exact evolving_pure _
  | invoking step leaseToken =>
    apply evolving_bind (onRun_evolving _ (sealFinalEvidence_changes outcome))
    intro _
    split
    · exact evolving_raise _
    · exact onRun_evolving _ (finishExecution_changes _ _)

theorem executeRunNextStep_evolving (runId : String) (payload : AgentRunExecuteRequest) (outcome : ExecutorOutcome)
    (user : AuthUser) : Evolving runtime (executeRunNextStep runtime runId payload outcome user) := by
  refine evolving_bind (evolving_bind (runOr404_evolving runId) fun durable => ?_) fun admitted => ?_
  · refine evolving_bind (evolving_demand _) fun _ => evolving_bind ?_ fun _ => ?_
    · exact evolving_bind (evolving_demand _) fun _ => evolving_pure _
    · exact evolving_bind (evolving_found _ _) fun _ => evolving_pure _
  · refine evolving_relabel (evolving_bind (evolving_bind ?_ fun actions => ?_) fun actions => ?_)
    · exact evolving_bind (ensureRunCapability_evolving _ user) fun _ => authorizeRunStep_evolving _ _ _ _
    · refine evolving_bind (onRun_evolving _ (beginExecution_changes _ _)) fun begun => ?_
      exact evolving_bind (runExecutor_evolving _ outcome begun) fun _ => evolving_pure _
    · exact (consumeRunStepActions_quiet _ _ _).evolving

theorem retryRun_evolving (runId : String) (stepId : Option String) (reason : String) :
    Evolving runtime (retryRun runtime runId stepId reason) := by
  refine evolving_bind (runOr404_evolving runId) fun durable => evolving_bind (evolving_demand _) fun _ => ?_
  refine evolving_bind (guarantees_ite ?_ ?_) fun target => evolving_bind (evolving_demand _) fun _ => ?_
  · exact evolving_read fun _ => evolving_bind (evolving_found _ _) fun _ => evolving_pure _
  · exact evolving_bind (evolving_found _ _) fun _ => evolving_pure _
  · refine evolving_bind (evolving_relabel (evolving_bind (evolving_demand _) fun _ => ?_)) fun _ => persist_evolving
    exact onRun_evolving _ (atStep_changes _ (retryAgentRunStep_changes _))

theorem recoverStaleLeases_evolving : Evolving runtime (recoverStaleLeases runtime) := by
  refine evolving_bind quiet_readClock.evolving fun now => evolving_read fun store => ?_
  refine evolving_bind (evolving_each _ fun runId _ => ?_) fun _ => persist_evolving
  exact evolving_bind (onRun_evolving _ (recoverStaleLease_changes _)) fun _ => evolving_pure _

theorem applyDurableRunDecision_evolving (actionId : String) (verdict : ActionAuthorizationDecision) (reason : String) :
    Evolving runtime (applyDurableRunDecision runtime actionId verdict reason) := by
  apply evolving_read
  intro store
  split
  · exact evolving_pure _
  · apply onRun_evolving
    apply atStep_changes
    cases verdict with
    | allow => exact allowDecided_changes
    | block => exact denyDecided_changes reason

theorem recordActionAuthorization_evolving (actionId : String) (verdict : ActionAuthorizationDecision) (reason : String)
    (user : AuthUser) : Evolving runtime (recordActionAuthorization runtime actionId verdict reason user) := by
  have applies : ∀ verdict reason, Evolving runtime
      (applyDurableRunDecision runtime actionId verdict reason >>= fun _ => persist) :=
    fun verdict reason => evolving_bind (applyDurableRunDecision_evolving _ _ _) fun _ => persist_evolving
  refine evolving_bind (evolving_demand _) fun _ => evolving_read fun _ => evolving_bind (evolving_found _ _) fun action => ?_
  refine evolving_bind (evolving_found _ _) fun current => evolving_bind (evolving_demand _) fun _ => ?_
  have again : ∀ existing, Evolving runtime (repeatAuthorization runtime actionId action existing) :=
    fun existing => evolving_bind (evolving_demand _) fun _ => applies _ _
  split
  · exact guarantees_ite (again _) (evolving_bind (evolving_demand _) fun _ => again _)
  · refine evolving_bind (evolving_demand _) fun _ => evolving_bind (evolving_runs fun store => ?_) fun _ => applies _ _
    exact (storeAuthorization_ends action current verdict reason user).2.1

/-- Every request but a creation changes the runs that are there. -/
theorem perform_evolving (request : RunRequest) (other : ∀ payload, request ≠ .createRun payload) :
    Evolving runtime (perform runtime request) := by
  cases request with
  | createRun payload => exact absurd rfl (other payload)
  | bindCapabilityLease runId leaseId =>
    refine evolving_bind (runOr404_evolving runId) fun durable => evolving_bind (evolving_demand _) fun _ => ?_
    exact evolving_relabel (evolving_relabel (attachCapabilityLease_evolving _ _))
  | executeNext runId payload outcome user => exact executeRunNextStep_evolving _ _ _ _
  | heartbeat runId payload => exact evolving_relabel (onRun_evolving _ (heartbeatRun_changes _ _ _))
  | pause runId reason =>
    refine evolving_bind (runOr404_evolving runId) fun durable => evolving_bind (evolving_demand _) fun _ => ?_
    exact control_evolving _ (pauseAgentRun_changes _)
  | resume runId reason => exact control_evolving _ (resumeAgentRun_changes _)
  | cancel runId reason =>
    refine evolving_bind (runOr404_evolving runId) fun durable => evolving_bind (evolving_demand _) fun _ => ?_
    exact control_evolving _ (cancelAgentRun_changes _)
  | retry runId stepId reason => exact retryRun_evolving _ _ _
  | recoverStale => exact recoverStaleLeases_evolving
  | authorize runId actor timeoutSeconds =>
    refine evolving_bind (runOr404_evolving runId) fun durable => evolving_bind (evolving_found _ _) fun current => ?_
    exact evolving_bind (authorizeRunStep_evolving _ _ _ _) fun _ => evolving_pure _
  | decide actionId payload user => exact evolving_relabel (recordActionAuthorization_evolving _ _ _ _)
  | evaluateExternal | evaluateManual | consumeExternal | consumeManual | attest | issueLease | viewLease | revokeLease
  | «outside» => exact evolving_spared fun runId => perform_spares _ trivial

end Requests

/-- The run keeps its task from getting another one. -/
abbrev DurableRun.Occupies (durable : DurableRun) (taskId : String) : Prop := durable.run.occupies taskId = true

/-- What the service asks of a task before it gets a run. -/
def Store.Opens (store : Store) (payload : AgentRunCreate) (binding : RunBinding) : Prop :=
  ∃ task approval, store.agentTasks.get? payload.taskId = some task ∧ task.status = .approved ∧
    store.approvalRequests.get? (task.approvalRequestId.getD "") = some approval ∧ approval.status = .approved ∧
    binding.taskId = task.id ∧ binding.approvalRequestId = some approval.id ∧
    Unclaimed DurableRun.Occupies store.agentRuns task.id

/-- A step that nothing has happened to. -/
structure AgentRunStep.New (step : AgentRunStep) : Prop where
  status : step.status.isTerminal = false
  attempts : step.attemptCount = 0
  undecided : step.decision = none ∧ step.evidenceHash = none

structure DurableRun.New (durable : DurableRun) : Prop where
  status : durable.run.status = .scheduled
  unheld : durable.run.leaseOwner = none ∧ durable.run.leaseToken = none ∧ durable.run.leaseExpiresAt = none
  steps : ∀ step ∈ durable.steps, step.New

/-- A run stands under an identifier that no run had, with steps of its own. -/
structure Store.Creates (store : Store) (payload : AgentRunCreate) (newId : String) (durable : DurableRun)
    (after : Store) : Prop where
  absent : store.agentRuns.get? newId = none
  runs : after.agentRuns = store.agentRuns.set newId durable
  admits : store.Opens payload durable.run.binding
  new : durable.New
  own : ∀ step ∈ durable.steps, step.id ∉ store.stepIds

/-- What a request does to the runs: it changes the records that are there, and a
creation may bring one run before. -/
inductive Store.Serves (runtime : Runtime) (store : Store) (request : RunRequest) (after : Store) : Prop where
  | changed (evolves : store.Evolves runtime after)
  | created (payload : AgentRunCreate) (same : request = .createRun payload) (newId : String) (durable : DurableRun)
      (middle : Store) (creates : store.Creates payload newId durable middle) (evolves : middle.Evolves runtime after)

section Create

variable {runtime : Runtime} {store : Store}

theorem existingRun_none {taskId : String} (free : store.existingRun taskId = none) :
    Unclaimed DurableRun.Occupies store.agentRuns taskId := by
  intro runId durable stored occupied
  rw [Store.existingRun, Selection.pick_eq_none, List.filter_eq_nil_iff] at free
  apply free durable.run _ occupied
  exact List.mem_map_of_mem (Table.mem_values.mpr ⟨runId, stored⟩)

theorem initialSteps_new (run : AgentRun) (index : Nat) (types : List AgentRunStepType) (ids : List String) :
    ∀ step ∈ initialSteps run index types ids, step.New ∧ step.id ∈ ids := by
  induction types generalizing index ids with
  | nil => simp [initialSteps]
  | cons stepType types ih =>
    cases ids with
    | nil => simp [initialSteps]
    | cons id ids =>
      intro step member
      rcases List.mem_cons.mp member with rfl | later
      · refine ⟨⟨?_, rfl, rfl, rfl⟩, List.mem_cons_self⟩
        unfold initialStep
        split <;> rfl
      · obtain ⟨new, drawn⟩ := ih (index + 1) ids step later
        exact ⟨new, List.mem_cons_of_mem _ drawn⟩

/-- A creation brings at most one run, and one it was asked for. -/
theorem createAgentRun_creates (payload : AgentRunCreate) :
    (createAgentRun runtime payload).Ends store fun outcome after =>
      after.agentRuns = store.agentRuns ∨ ∃ newId durable, outcome = .ok newId ∧
        store.Creates payload newId durable after := by
  unfold createAgentRun
  apply ends_read
  refine ends_lookup (.inl rfl) fun task stored => ends_guard (.inl rfl) fun ready => ?_
  refine ends_lookup (.inl rfl) fun approval found => ends_guard (.inl rfl) fun approved => ?_
  split
  · exact .inl rfl
  · next free =>
    simp only [ends_bind, ends_drawSecret, ends_readClock, ends_modify, persist, ends_pure, continue_ok]
    refine .inr ⟨_, _, rfl, ?_, rfl, ⟨task, approval, stored, ready, found, approved, rfl, rfl, existingRun_none free⟩,
      ⟨rfl, ⟨rfl, rfl, rfl⟩, fun step member => (initialSteps_new _ _ _ _ step member).1⟩, ?_⟩
    · exact Table.get?_of_fresh (runtime.newId_fresh _ _)
    · intro step member
      exact freshIds_unused runtime _ _ _ _ (initialSteps_new _ _ _ _ step member).2

theorem createRun_serves_store (payload : AgentRunCreate) :
    (createRun runtime payload).Ends store fun _ after => store.Serves runtime (.createRun payload) after := by
  apply ends_relabel.mpr
  apply ends_relabel.mpr
  have attaches : ∀ newId, Evolving runtime (if Text.present payload.capabilityLeaseId = true then
      attachCapabilityLease runtime newId (payload.capabilityLeaseId.getD "") else pure ()) :=
    fun newId => guarantees_ite (attachCapabilityLease_evolving _ _) (evolving_pure _)
  apply Ends.bind (createAgentRun_creates payload)
  · intro newId middle ends
    refine ((attaches newId).ends middle).mono fun _ after evolves => ?_
    obtain same | ⟨_, durable, ok, creates⟩ := ends
    · exact .changed (Store.evolves_trans runtime _ _ _ (Store.evolves_runs same) evolves)
    · exact .created payload rfl _ durable middle creates evolves
  · intro error after ends
    obtain same | ⟨_, _, ok, -⟩ := ends
    · exact .changed (Store.evolves_runs same)
    · cases ok

/-- Every request, seen from the stored runs. -/
theorem next_serves (runtime : Runtime) (store : Store) (request : RunRequest) :
    store.Serves runtime request ((runMachine runtime).next store request) := by
  by_cases creation : ∃ payload, request = .createRun payload
  · obtain ⟨payload, rfl⟩ := creation
    exact createRun_serves_store payload
  · have evolving : Evolving runtime (perform runtime request) :=
      perform_evolving request fun payload same => creation ⟨payload, same⟩
    exact .changed (evolving store)

end Create

section Reach

variable {runtime : Runtime} {allowed : Store → RunRequest → Prop} {store : Store}

theorem Store.Evolves.back {after : Store} (evolves : store.Evolves runtime after) {runId : String} {later : DurableRun}
    (stored : after.agentRuns.get? runId = some later) :
    ∃ durable, store.agentRuns.get? runId = some durable ∧ ReflTransGen (DurableChange runtime) durable later := by
  cases before : store.agentRuns.get? runId with
  | none =>
    rw [evolves.joined runId before] at stored
    cases stored
  | some durable =>
    obtain ⟨after, present, changes⟩ := evolves.changed runId durable before
    obtain rfl : after = later := Option.some.inj (present.symm.trans stored)
    exact ⟨durable, rfl, changes⟩

/-- A run that is there changes, whatever the request. -/
theorem next_changes (runtime : Runtime) (request : RunRequest) {runId : String} {durable later : DurableRun}
    (stored : store.agentRuns.get? runId = some durable)
    (present : ((runMachine runtime).next store request).agentRuns.get? runId = some later) :
    ReflTransGen (DurableChange runtime) durable later := by
  have back : ∀ middle : Store, middle.agentRuns.get? runId = some durable →
      middle.Evolves runtime ((runMachine runtime).next store request) → ReflTransGen (DurableChange runtime) durable later := by
    intro middle there evolves
    obtain ⟨known, found, changes⟩ := evolves.back present
    obtain rfl : known = durable := Option.some.inj (found.symm.trans there)
    exact changes
  cases next_serves runtime store request with
  | changed evolves => exact back store stored evolves
  | created payload same newId created middle creates evolves =>
    have other : runId ≠ newId := by
      intro here
      rw [here, creates.absent] at stored
      cases stored
    exact back middle (by rw [creates.runs, Table.get?_set_other _ _ other, stored]) evolves

/-- A property of a new run that every record change keeps holds of every stored run. -/
theorem records_reachable {property : DurableRun → Prop} (new : ∀ durable, durable.New → property durable)
    (change : ∀ durable later, DurableChange runtime durable later → property durable → property later)
    (reachable : (runMachine runtime).Reachable allowed store) :
    ∀ runId durable, store.agentRuns.get? runId = some durable → property durable := by
  have along : ∀ durable later, ReflTransGen (DurableChange runtime) durable later → property durable → property later := by
    intro durable later changes holds
    induction changes with
    | refl => exact holds
    | tail _ last ih => exact change _ _ last ih
  have steps : ∀ before after : Store, before.Evolves runtime after →
      (∀ runId durable, before.agentRuns.get? runId = some durable → property durable) →
      ∀ runId durable, after.agentRuns.get? runId = some durable → property durable := by
    intro before after evolves holds runId later stored
    obtain ⟨durable, found, changes⟩ := evolves.back stored
    exact along durable later changes (holds runId durable found)
  apply reachable.invariant
  · intro store fresh runId durable stored
    rw [fresh.agentRuns, Table.get?_empty] at stored
    cases stored
  · intro store request holds _
    cases next_serves runtime store request with
    | changed evolves => exact steps _ _ evolves holds
    | created payload same newId durable middle creates evolves =>
      apply steps _ _ evolves
      intro runId known stored
      rw [creates.runs, Table.get?_set] at stored
      split at stored
      · obtain rfl := Option.some.inj stored
        exact new _ creates.new
      · exact holds runId known stored

/-- The store is reachable and its runs exclude each other; the first part carries the second. -/
def Store.Excludes {β : Type} (runtime : Runtime) (allowed : Store → RunRequest → Prop) (claims : DurableRun → β → Prop)
    (store : Store) : Prop :=
  (runMachine runtime).Reachable allowed store ∧ Exclusive claims store.agentRuns

/-- Runs that in every step keep or drop what they claim stay exclusive where a new run
claims what no run does. -/
theorem runs_exclusive {β : Type} {claims : DurableRun → β → Prop}
    (older : ∀ (store : Store) request runId durable later, (runMachine runtime).Reachable allowed store →
      store.agentRuns.get? runId = some durable →
      ((runMachine runtime).next store request).agentRuns.get? runId = some later →
      ∀ subject, claims later subject → claims durable subject)
    (kept : ∀ durable later subject, durable.New → ReflTransGen (DurableChange runtime) durable later →
      claims later subject → claims durable subject)
    (free : ∀ (store : Store) payload newId durable after, (runMachine runtime).Reachable allowed store →
      store.Creates payload newId durable after → ∀ subject, claims durable subject → Unclaimed claims store.agentRuns subject)
    (reachable : (runMachine runtime).Reachable allowed store) : Exclusive claims store.agentRuns := by
  have both : store.Excludes runtime allowed claims := by
    apply reachable.invariant
    · intro store fresh
      refine ⟨.start fresh, ?_⟩
      rw [fresh.agentRuns]
      exact exclusive_empty
    · intro store request holds permitted
      obtain ⟨reachable, exclusive⟩ := holds
      refine ⟨reachable.next request permitted, ?_⟩
      -- what the later record of a run claims the earlier one claimed
      have known : ∀ runId, store.agentRuns.get? runId ≠ none →
          store.agentRuns.OlderAt claims ((runMachine runtime).next store request).agentRuns runId := by
        intro runId present later stored
        obtain ⟨durable, found⟩ := Option.ne_none_iff_exists'.mp present
        exact ⟨durable, found, older store request runId durable later reachable found stored⟩
      cases next_serves runtime store request with
      | changed evolves =>
        apply exclusive.older
        intro runId
        -- no run joins by a change
        by_cases absent : store.agentRuns.get? runId = none
        · intro later stored
          rw [evolves.joined runId absent] at stored
          cases stored
        · exact known runId absent
      | created payload same newId durable middle creates evolves =>
        -- the new run comes after all the others, and its subject was free
        apply exclusive.welcome newId
        · intro runId other
          by_cases absent : store.agentRuns.get? runId = none
          · intro later stored
            have missing : middle.agentRuns.get? runId = none := by
              rw [creates.runs, Table.get?_set_other _ _ other, absent]
            rw [evolves.joined runId missing] at stored
            cases stored
          · exact known runId absent
        · intro later stored subject claimed
          obtain ⟨created, found, changes⟩ := evolves.back stored
          rw [creates.runs, Table.get?_set_self] at found
          obtain rfl := Option.some.inj found
          exact free store payload newId durable middle reachable creates subject
            (kept durable later subject creates.new changes claimed)
  exact both.2

end Reach

end ControlTower
