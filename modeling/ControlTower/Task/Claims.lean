import ControlTower.Run.System
import ControlTower.Task.Workers

/-! What each action does to the shared memory: one statement for a claim, and one
for each of the other actions. -/

set_option autoImplicit false

namespace ControlTower

open Foundation
open Foundation.Procedure

section Worlds

variable {runtime : Runtime} {world after : TaskWorld}

/-- The world at a later count of clock readings. -/
def TaskWorld.atTick (world : TaskWorld) (ticks : Nat) : TaskWorld := { world with store := { world.store with ticks } }

/-- Nothing but the count of clock readings has moved on. -/
def Ticked (before after : TaskWorld) : Prop := ∃ ticks, before.store.ticks ≤ ticks ∧ after = before.atTick ticks

theorem Ticked.refl (world : TaskWorld) : Ticked world world := ⟨world.store.ticks, Nat.le_refl _, rfl⟩

theorem Ticked.trans {middle : TaskWorld} (first : Ticked world middle) (second : Ticked middle after) :
    Ticked world after := by
  obtain ⟨ticks, later, rfl⟩ := first
  obtain ⟨others, last, rfl⟩ := second
  exact ⟨others, Nat.le_trans later last, rfl⟩

theorem Ticked.ticks (ticked : Ticked world after) : world.store.ticks ≤ after.store.ticks := by
  obtain ⟨ticks, later, rfl⟩ := ticked
  exact later

/-- The lease of a task was free at a reading of the clock before a count. -/
def AvailableBy (runtime : Runtime) (task : AgentTask) (ticks : Nat) : Prop :=
  Text.present task.workerLeaseOwner = false ∨ ∃ expiresAt tick, task.workerLeaseExpiresAt = some expiresAt ∧
    tick < ticks ∧ expiresAt ≤ runtime.clock tick

theorem AvailableBy.mono {task : AgentTask} {ticks later : Nat} (available : AvailableBy runtime task ticks)
    (bound : ticks ≤ later) : AvailableBy runtime task later := by
  rcases available with free | ⟨expiresAt, tick, ends, before, past⟩
  · exact .inl free
  · exact .inr ⟨expiresAt, tick, ends, Nat.lt_of_lt_of_le before bound, past⟩

end Worlds

section Claiming

variable {runtime : Runtime} {world : TaskWorld}

theorem isLeaseAvailable_ends (task : AgentTask) :
    (isLeaseAvailable runtime task).Ends world fun outcome after => Ticked world after ∧
      ∃ available, outcome = .ok available ∧ (available = true → AvailableBy runtime task after.store.ticks) := by
  unfold isLeaseAvailable
  rw [ends_ite]
  constructor
  · intro free
    exact ⟨.refl world, true, rfl, fun _ => .inl free⟩
  · intro owned
    cases ends : task.workerLeaseExpiresAt with
    | none => exact ⟨.refl world, false, rfl, nofun⟩
    | some expiresAt =>
      simp only [ends_bind, ends_readClock, continue_ok, ends_pure]
      refine ⟨⟨world.store.ticks + 1, Nat.le_succ _, rfl⟩, _, rfl, ?_⟩
      intro past
      exact .inr ⟨expiresAt, world.store.ticks, ends, Nat.lt_succ_self _, of_decide_eq_true past⟩

/-- A task that may be claimed: its status admits it, and its lease was free by a count of readings. -/
def EligibleBy (runtime : Runtime) (task : AgentTask) (ticks : Nat) : Prop :=
  statusFailure task = none ∧ AvailableBy runtime task ticks

theorem statusFailure_none {task : AgentTask} (admitted : statusFailure task = none) : task.status = .approved := by
  unfold statusFailure at admitted
  by_contra other
  by_cases terminal : task.status ∈ terminalTaskStatuses
  · rw [if_pos terminal] at admitted
    cases admitted
  · rw [if_neg terminal, if_pos other] at admitted
    cases admitted

theorem statusFailure_linked {task : AgentTask} (admitted : statusFailure task = none) :
    Text.present task.approvalRequestId = true := by
  have approved := statusFailure_none admitted
  unfold statusFailure at admitted
  by_contra unlinked
  rw [if_neg (by rw [approved]; decide), if_neg (not_not.mpr approved),
    if_pos (Bool.eq_false_iff.mpr unlinked)] at admitted
  cases admitted

theorem eligibilityFailure_ends (task : Option AgentTask) (taskId : String) :
    (eligibilityFailure runtime task taskId).Ends world fun outcome after => Ticked world after ∧
      ∃ failure, outcome = .ok failure ∧
        (failure = none → ∃ record, task = some record ∧ EligibleBy runtime record after.store.ticks) := by
  unfold eligibilityFailure
  cases task with
  | none =>
    refine ⟨.refl world, _, rfl, ?_⟩
    intro impossible
    cases impossible
  | some task =>
    dsimp only
    cases status : statusFailure task with
    | some failure =>
      refine ⟨.refl world, _, rfl, ?_⟩
      intro impossible
      cases impossible
    | none =>
      dsimp only
      apply Ends.bind (isLeaseAvailable_ends task)
      · rintro available after ⟨ticked, _, same, free⟩
        cases same
        refine ⟨ticked, _, rfl, ?_⟩
        intro none_
        refine ⟨task, rfl, status, free ?_⟩
        -- a lease that is not available is the failure
        by_contra leased
        rw [if_neg leased] at none_
        cases none_
      · rintro error after ⟨-, _, impossible, -⟩
        cases impossible

theorem eligibleTasks_ends (tasks : List AgentTask) :
    (eligibleTasks runtime tasks).Ends world fun outcome after => Ticked world after ∧
      ∃ candidates, outcome = .ok candidates ∧
        ∀ task ∈ candidates, task ∈ tasks ∧ EligibleBy runtime task after.store.ticks := by
  induction tasks generalizing world with
  | nil =>
    refine ⟨.refl world, [], rfl, ?_⟩
    intro task member
    cases member
  | cons task rest ih =>
    unfold eligibleTasks
    apply Ends.bind (eligibilityFailure_ends (some task) task.id)
    · rintro failure middle ⟨ticked, _, same, eligible⟩
      cases same
      apply Ends.bind ih
      · rintro others after ⟨further, _, same, listed⟩
        cases same
        refine ⟨ticked.trans further, _, rfl, ?_⟩
        intro candidate member
        -- what the rest of the list yields was checked later, and stays eligible
        have kept : candidate ∈ others → candidate ∈ task :: rest ∧ EligibleBy runtime candidate after.store.ticks :=
          fun later => ⟨List.mem_cons_of_mem _ (listed candidate later).1, (listed candidate later).2⟩
        by_cases passes : failure = none
        · rw [if_pos passes] at member
          rcases List.mem_cons.mp member with rfl | later
          · obtain ⟨record, same, status, free⟩ := eligible passes
            cases same
            exact ⟨List.mem_cons_self, status, free.mono further.ticks⟩
          · exact kept later
        · rw [if_neg passes] at member
          exact kept member
      · rintro error after ⟨-, _, impossible, -⟩
        cases impossible
    · rintro error after ⟨-, _, impossible, -⟩
      cases impossible

/-- A claim that succeeded: the eligible record it read, the lease it made, and the
world with the leased record as row and as object in memory. -/
structure Claims (runtime : Runtime) (workerId : String) (before : TaskWorld) (record : AgentTask) (leaseToken : String)
    (leaseExpiresAt : Instant) (after : TaskWorld) : Prop where
  listed : ∃ rowId, before.store.agentTaskRows.get? rowId = some record
  eligible : EligibleBy runtime record after.store.ticks
  token : leaseToken = runtime.newId "agent_task_lease" (before.claims.map (·.leaseToken))
  made : ∃ ticks updatedAt, before.store.ticks ≤ ticks ∧
    after = (before.atTick ticks).taken (record.leased workerId leaseToken leaseExpiresAt updatedAt)
      ⟨record.id, workerId, leaseToken, leaseExpiresAt, false⟩

/-- The outcomes of a claim. -/
def ClaimEnds (runtime : Runtime) (workerId : String) (before : TaskWorld) (outcome : Except Raised ClaimResult)
    (after : TaskWorld) : Prop :=
  (Ticked before after ∧ ∃ task taskId reason, outcome = .ok (.refused task taskId reason)) ∨
    ∃ record leaseToken leaseExpiresAt, Claims runtime workerId before record leaseToken leaseExpiresAt after ∧
      outcome = .ok (.claimed before.allocated record.id leaseToken leaseExpiresAt)

theorem claimLoadedTask_ends {before : TaskWorld} (ticked : Ticked before world) {record : AgentTask}
    (listed : ∃ rowId, before.store.agentTaskRows.get? rowId = some record)
    (eligible : EligibleBy runtime record world.store.ticks) (workerId : String) (leaseSeconds : Int) :
    (claimLoadedTask runtime record workerId leaseSeconds).Ends world (ClaimEnds runtime workerId before) := by
  obtain ⟨ticks, later, rfl⟩ := ticked
  unfold claimLoadedTask
  simp only [ends_bind, ends_state, continue_ok, ends_readClock, ends_update]
  refine .inr ⟨record, _, _, ⟨listed, ⟨eligible.1, ?_⟩, rfl, ticks + 1 + 1, _, ?_, rfl⟩, rfl⟩
  · exact eligible.2.mono (Nat.le_add_right ticks 2)
  · exact Nat.le_trans later (Nat.le_add_right ticks 2)

theorem claimAgentTaskForWorker_ends (taskId workerId : String) (leaseSeconds : Int) :
    (claimAgentTaskForWorker runtime taskId workerId leaseSeconds).Ends world (ClaimEnds runtime workerId world) := by
  unfold claimAgentTaskForWorker
  apply ends_read
  apply Ends.bind (eligibilityFailure_ends (world.store.agentTaskRows.get? taskId) taskId)
  · rintro failure middle ⟨ticked, _, same, eligible⟩
    cases same
    cases failure with
    | some failure => exact .inl ⟨ticked, _, _, _, rfl⟩
    | none =>
      obtain ⟨record, found, admitted⟩ := eligible rfl
      simp only [found]
      exact claimLoadedTask_ends ticked ⟨taskId, found⟩ admitted workerId leaseSeconds
  · rintro error middle ⟨-, _, impossible, -⟩
    cases impossible

theorem claimFirst_ends (workerId : String) (leaseSeconds : Int) :
    (claimFirstApprovedAgentTaskForWorker runtime workerId leaseSeconds).Ends world
      (ClaimEnds runtime workerId world) := by
  unfold claimFirstApprovedAgentTaskForWorker
  apply ends_read
  apply Ends.bind (eligibleTasks_ends world.store.agentTaskRows.byKey.values)
  · rintro candidates middle ⟨ticked, _, same, listed⟩
    cases same
    cases picked : Selection.pick (fun best candidate : AgentTask => decide (candidate.updatedAt < best.updatedAt))
        candidates with
    | none => exact .inl ⟨ticked, _, _, _, rfl⟩
    | some record =>
      obtain ⟨member, admitted⟩ := listed record (Selection.pick_mem picked)
      obtain ⟨rowId, found⟩ := Table.mem_values.mp member
      rw [Table.get?_byKey] at found
      exact claimLoadedTask_ends ticked ⟨rowId, found⟩ admitted workerId leaseSeconds
  · rintro error middle ⟨-, _, impossible, -⟩
    cases impossible

theorem claimFor_ends (request : WorkerRequest) :
    (claimFor runtime request).Ends world (ClaimEnds runtime request.workerId world) := by
  unfold claimFor
  rw [ends_ite]
  constructor
  · intro _
    exact claimFirst_ends request.workerId request.leaseSeconds
  · intro _
    exact claimAgentTaskForWorker_ends _ request.workerId request.leaseSeconds

/-- A claim comes to its end with a result. -/
theorem claimFor_comes (runtime : Runtime) (request : WorkerRequest) (world : TaskWorld) :
    (claimFor runtime request).Ends world fun outcome after =>
      ∃ value, outcome = .ok value ∧ (claimFor runtime request).run world = (.ok value, after) := by
  have ends : ClaimEnds runtime request.workerId world ((claimFor runtime request).run world).1
      ((claimFor runtime request).run world).2 := claimFor_ends request
  rcases ends with ⟨-, _, _, _, same⟩ | ⟨_, _, _, -, same⟩
  · exact ⟨_, same, Prod.ext same rfl⟩
  · exact ⟨_, same, Prod.ext same rfl⟩

end Claiming

section Actions

variable {runtime : Runtime} {world : TaskWorld}

/-- The collections that an action on one object leaves alone. -/
structure Undisturbed (before after : TaskWorld) : Prop where
  tasks : after.agentTasks = before.agentTasks
  allocated : after.allocated = before.allocated
  rows : after.store.agentTaskRows = before.store.agentTaskRows
  runs : after.store.agentRuns = before.store.agentRuns
  approvals : after.store.approvalRequests = before.store.approvalRequests
  ticks : before.store.ticks ≤ after.store.ticks

theorem Undisturbed.refl (world : TaskWorld) : Undisturbed world world := ⟨rfl, rfl, rfl, rfl, rfl, Nat.le_refl _⟩

theorem Undisturbed.trans {middle after : TaskWorld} (first : Undisturbed world middle) (second : Undisturbed middle after) :
    Undisturbed world after where
  tasks := second.tasks.trans first.tasks
  allocated := second.allocated.trans first.allocated
  rows := second.rows.trans first.rows
  runs := second.runs.trans first.runs
  approvals := second.approvals.trans first.approvals
  ticks := Nat.le_trans first.ticks second.ticks

/-- One object is changed. -/
structure Rewrites (task : TaskRef) (change : AgentTask → AgentTask → Prop) (before after : TaskWorld) : Prop where
  rest : Undisturbed before after
  here : change (before.objects task) (after.objects task)
  others : ∀ other, other ≠ task → after.objects other = before.objects other

/-- A status was written, or nothing. -/
def Moved (status : Option AgentTaskStatus) (before after : AgentTask) : Prop :=
  match status with
  | some status => ∃ updatedAt, after = before.moved status updatedAt
  | none => after = before

theorem appendTaskEvent_ends (task : TaskRef) (status : Option AgentTaskStatus) (text : TaskEventText) (actor : String) :
    (appendTaskEvent runtime task status text actor).Ends world fun outcome after =>
      outcome = .ok () ∧ Rewrites task (Moved status) world after ∧ after.claims = world.claims := by
  unfold appendTaskEvent
  cases status with
  | none =>
    simp only [ends_bind, continue_ok, ends_readClock, ends_modify]
    exact ⟨trivial, ⟨⟨rfl, rfl, rfl, rfl, rfl, Nat.le_succ _⟩, rfl, fun _ _ => rfl⟩, rfl⟩
  | some status =>
    simp only [ends_bind, continue_ok, ends_readClock, ends_modify, changeTask]
    refine ⟨trivial, ⟨⟨rfl, rfl, rfl, rfl, rfl, Nat.le_add_right _ 2⟩, ⟨_, Function.update_self _ _ _⟩, ?_⟩, rfl⟩
    intro other different
    exact Function.update_of_ne different _ _

/-- What the event of an append tells. -/
theorem appendTaskEvent_tells (task : TaskRef) (status : Option AgentTaskStatus) (text : TaskEventText) (actor : String) :
    (appendTaskEvent runtime task status text actor).Ends world fun _ after => ∃ id event,
      after.store.agentTaskEvents = world.store.agentTaskEvents.set id event ∧
        event.taskId = (after.objects task).id ∧ event.eventType = text.eventType ∧
        event.status = some (after.objects task).status ∧
        event.metadata = (text.operationType.map fun kind => ("operation_type", .text kind)).toList ++ text.artifacts := by
  unfold appendTaskEvent
  cases status with
  | none =>
    simp only [ends_bind, continue_ok, ends_readClock, ends_modify]
    exact ⟨_, _, rfl, rfl, rfl, rfl, rfl⟩
  | some status =>
    simp only [ends_bind, continue_ok, ends_readClock, ends_modify, changeTask]
    exact ⟨_, _, rfl, rfl, rfl, rfl, rfl⟩

theorem clearLease_ends (task : TaskRef) (change : AgentTask → AgentTask) :
    (clearLease runtime task change).Ends world fun outcome after =>
      outcome = .ok () ∧ Rewrites task (fun before after => ∃ updatedAt, after = (change before).unleased updatedAt) world
        after ∧ after.claims = giveBackLease (world.objects task).workerLeaseToken world.claims := by
  unfold clearLease
  simp only [ends_bind, continue_ok, ends_readClock, ends_modify]
  refine ⟨trivial, ⟨⟨rfl, rfl, rfl, rfl, rfl, Nat.le_succ _⟩, ⟨_, Function.update_self _ _ _⟩, ?_⟩, rfl⟩
  intro other different
  exact Function.update_of_ne different _ _

/-- A lease was cleared, or another party's lease was left where it is. -/
def Released (task : TaskRef) (leaseToken : String) (before after : TaskWorld) : Prop :=
  (after = before ∧ (before.objects task).workerLeaseToken ≠ some leaseToken) ∨
    (Rewrites task (fun before after => ∃ updatedAt, after = before.unleased updatedAt) before after ∧
      after.claims = giveBackLease (before.objects task).workerLeaseToken before.claims)

theorem releaseTask_ends (task : TaskRef) (leaseToken : String) :
    (releaseTask runtime task leaseToken).Ends world fun outcome after =>
      outcome = .ok () ∧ Released task leaseToken world after := by
  unfold releaseTask
  apply ends_read
  rw [ends_onlyIf]
  constructor
  · intro _
    refine (clearLease_ends task id).mono ?_
    rintro outcome after ⟨same, rewrites, claims⟩
    exact ⟨same, .inr ⟨rewrites, claims⟩⟩
  · intro skipped
    exact ⟨rfl, .inl ⟨rfl, fun same => skipped (.inr same)⟩⟩

theorem releaseTask_events (task : TaskRef) (leaseToken : String) :
    (releaseTask runtime task leaseToken).Ends world fun _ after =>
      after.store.agentTaskEvents = world.store.agentTaskEvents := by
  unfold releaseTask
  apply ends_read
  rw [ends_onlyIf]
  constructor
  · intro _
    unfold clearLease
    simp only [ends_bind, continue_ok, ends_readClock, ends_modify]
    rfl
  · intro _
    rfl

/-- The object of a task route is rewritten, under its condition, or the route is refused. -/
def RouteEnds (taskId : String) (admits : AgentTaskStatus → Prop) (status : AgentTaskStatus) (before : TaskWorld)
    (outcome : Except Raised Unit) (after : TaskWorld) : Prop :=
  (after = before ∧ ∃ error, outcome = .error error) ∨
    (outcome = .ok () ∧ ∃ task, before.agentTasks.get? taskId = some task ∧ admits (before.objects task).status ∧
      Rewrites task (fun held moved => ∃ updatedAt, moved = ({ held with status } : AgentTask).unleased updatedAt) before
        after ∧
      after.claims = giveBackLease (before.objects task).workerLeaseToken before.claims)

theorem clearAndAppend_ends {taskId : String} {task : TaskRef} (found : world.agentTasks.get? taskId = some task)
    {admits : AgentTaskStatus → Prop} (admitted : admits (world.objects task).status) (status : AgentTaskStatus)
    (text : TaskEventText) (actor : String) :
    (clearLease runtime task (fun held => { held with status }) >>= fun _ =>
      appendTaskEvent runtime task none text actor).Ends world (RouteEnds taskId admits status world) := by
  apply Ends.bind (clearLease_ends task fun held => { held with status })
  · rintro _ middle ⟨-, cleared, claims⟩
    refine (appendTaskEvent_ends task none text actor).mono ?_
    rintro outcome after ⟨same, appended, kept⟩
    refine .inr ⟨same, task, found, admitted, ⟨cleared.rest.trans appended.rest, ?_, ?_⟩, kept.trans claims⟩
    · have still : after.objects task = middle.objects task := appended.here
      rw [still]
      exact cleared.here
    · intro other different
      exact (appended.others other different).trans (cleared.others other different)
  · rintro error after ⟨impossible, -⟩
    cases impossible

theorem cancelAgentTask_ends (taskId : String) (user : AuthUser) :
    (cancelAgentTask runtime taskId user).Ends world
      (RouteEnds taskId (· ∈ cancellableStatuses) .cancelled world) := by
  unfold cancelAgentTask
  apply ends_read
  apply ends_lookup
  · exact .inl ⟨rfl, _, rfl⟩
  intro task found
  apply ends_guard
  · exact .inl ⟨rfl, _, rfl⟩
  intro admitted
  exact clearAndAppend_ends found admitted .cancelled _ _

theorem retryAgentTask_ends (taskId : String) (maxRetries : Nat) (user : AuthUser) :
    (retryAgentTask runtime taskId maxRetries user).Ends world (RouteEnds taskId (· = .failed) .approved world) := by
  unfold retryAgentTask
  apply ends_read
  apply ends_lookup
  · exact .inl ⟨rfl, _, rfl⟩
  intro task found
  apply ends_guard
  · exact .inl ⟨rfl, _, rfl⟩
  intro admitted
  apply clearAndAppend_ends found
  unfold retryRefusal at admitted
  by_contra other
  rw [if_pos other] at admitted
  cases admitted

theorem lookAtTask_ends (task : TaskRef) :
    (lookAtTask task).Ends world fun outcome after =>
      outcome = .ok (world.objects task, world.linkedApproval (world.objects task)) ∧ after = world :=
  ⟨rfl, rfl⟩

/-- `persist` writes the tasks in memory to the rows. -/
structure Persisted (before after : TaskWorld) : Prop where
  rows : after.store.agentTaskRows = before.tasks
  objects : after.objects = before.objects
  tasks : after.agentTasks = before.agentTasks
  allocated : after.allocated = before.allocated
  claims : after.claims = before.claims
  runs : after.store.agentRuns = before.store.agentRuns
  ticks : after.store.ticks = before.store.ticks

theorem persistTasks_ends :
    (persistTasks : TaskProcedure Unit).Ends world fun outcome after => outcome = .ok () ∧ Persisted world after :=
  ⟨rfl, rfl, rfl, rfl, rfl, rfl, rfl, rfl⟩

theorem persistTasks_events :
    (persistTasks : TaskProcedure Unit).Ends world fun _ after =>
      after.store.agentTaskEvents = world.store.agentTaskEvents := rfl

end Actions

section Sample

def greetingTask : AgentTask where
  id := "task_1"
  provider := .codex
  projectId := some "project_1"
  title := "Change the greeting"
  goal := "A new greeting"
  sourceUrl := none
  sourceSessionId := none
  sourceTaskId := none
  repository := some "owner/repository"
  branchPreference := some "feature/greeting"
  status := .approved
  externalAgentId := none
  externalAgentName := none
  approvalRequestId := some "approval_1"
  workerLeaseOwner := none
  workerLeaseExpiresAt := none
  workerLeaseToken := none
  createdAt := 0
  updatedAt := 0

/-- One approved task, in memory and as a row. -/
def greetingWorld (runtime : Runtime) : TaskWorld where
  store :=
    { approvedStore runtime with
      agentTasks := .empty
      agentTaskRows := Table.empty.set "task_1" greetingTask }
  objects _ := greetingTask
  allocated := 1
  agentTasks := Table.empty.set "task_1" 0
  claims := []

def greetingRequest : WorkerRequest := ⟨some "task_1", false, "worker_1", 300⟩

end Sample

end ControlTower
