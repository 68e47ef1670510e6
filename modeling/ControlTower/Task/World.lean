import Mathlib.Logic.Function.Basic
import ControlTower.Approval.Lifecycle
import ControlTower.Task.Plans

/-! The memory that worker operations and task routes share. A task in memory is
an object that several parties may hold; a claim reads the database row, writes it
back, and puts the object it made of the row in the place of the one in memory. -/

set_option autoImplicit false

namespace ControlTower

open Foundation
open Foundation.Procedure

/-- Where a task object lies in memory. -/
abbrev TaskRef := Nat

/-- The history of a claim: the lease that it took, and whether the lease was given back. -/
structure TaskClaim where
  taskId : String
  workerId : String
  leaseToken : String
  leaseExpiresAt : Instant
  released : Bool
  deriving DecidableEq

structure TaskWorld where
  /-- The other collections and the rows; the tasks in memory are the referenced objects. -/
  store : Store
  objects : TaskRef → AgentTask
  /-- The objects that were made so far lie before this place. -/
  allocated : Nat
  agentTasks : Table String TaskRef
  claims : List TaskClaim

instance : Clocked TaskWorld where
  ticks world := world.store.ticks
  tick world := { world with store := Clocked.tick world.store }

abbrev TaskProcedure := Procedure TaskWorld Raised

namespace TaskWorld

/-- The tasks in memory, by value. -/
def tasks (world : TaskWorld) : Table String AgentTask := world.agentTasks.mapValues fun _ task => world.objects task

def task? (world : TaskWorld) (taskId : String) : Option AgentTask := (world.agentTasks.get? taskId).map world.objects

theorem get?_tasks (world : TaskWorld) (taskId : String) : world.tasks.get? taskId = world.task? taskId :=
  Table.get?_mapValues _ _ _

/-- The store as the routes see it. -/
def seen (world : TaskWorld) : Store := { world.store with agentTasks := world.tasks }

def withStore (store : Store) (world : TaskWorld) : TaskWorld := { world with store }

def change (world : TaskWorld) (task : TaskRef) (change : AgentTask → AgentTask) : TaskWorld :=
  { world with objects := Function.update world.objects task (change (world.objects task)) }

end TaskWorld

def changeTask (task : TaskRef) (change : AgentTask → AgentTask) : TaskProcedure Unit :=
  .modify fun world => world.change task change

/-- `store.persist()`. -/
def persistTasks : TaskProcedure Unit := within TaskWorld.seen TaskWorld.withStore persist

section Claims

def terminalTaskStatuses : List AgentTaskStatus := [.denied, .failed, .cancelled, .done]

/-- `_is_lease_available`; the clock is read only for a lease that ends. -/
def isLeaseAvailable (runtime : Runtime) (task : AgentTask) : TaskProcedure Bool :=
  if Text.present task.workerLeaseOwner = false then pure true
  else
    match task.workerLeaseExpiresAt with
    | none => pure false
    | some expiresAt => do
        let now ← readClock runtime
        return decide (expiresAt ≤ now)

/-- The checks of `_eligibility_failure` up to the lease. -/
def statusFailure (task : AgentTask) : Option String :=
  if task.status ∈ terminalTaskStatuses then some ("Agent task is terminal: " ++ task.status.value)
  else if task.status ≠ .approved then some ("Agent task is not approved: " ++ task.status.value)
  else if Text.present task.approvalRequestId = false then
    some "Agent task is approved but missing approval_request_id"
  else none

def leaseFailure (runtime : Runtime) (task : AgentTask) : String :=
  "Agent task already leased by " ++ task.workerLeaseOwner.getD "None" ++ " until " ++
    (task.workerLeaseExpiresAt.map fun expiresAt => runtime.render (.instant expiresAt)).getD "None"

def eligibilityFailure (runtime : Runtime) (task : Option AgentTask) (taskId : String) : TaskProcedure (Option String) :=
  match task with
  | none => pure (some ("Agent task not found or unavailable: " ++ Text.orElse taskId "first-approved"))
  | some task =>
      match statusFailure task with
      | some failure => pure (some failure)
      | none => do
          let available ← isLeaseAvailable runtime task
          return if available = true then none else some (leaseFailure runtime task)

/-- `AgentWorkerClaimResult`. -/
inductive ClaimResult where
  | claimed (task : TaskRef) (taskId leaseToken : String) (leaseExpiresAt : Instant)
  | refused (task : Option AgentTask) (taskId : Option String) (reason : String)
  deriving DecidableEq

/-- `now + timedelta(seconds=…)`. -/
def Instant.shifted (instant : Instant) (seconds : Int) : Instant := ((instant : Int) + seconds * 1000000).toNat

def AgentTask.leased (task : AgentTask) (workerId leaseToken : String) (leaseExpiresAt updatedAt : Instant) : AgentTask :=
  { task with
    workerLeaseOwner := some workerId
    workerLeaseToken := some leaseToken
    workerLeaseExpiresAt := some leaseExpiresAt
    updatedAt }

/-- The row and the object of a claimed task. -/
def TaskWorld.taken (world : TaskWorld) (claimed : AgentTask) (claim : TaskClaim) : TaskWorld :=
  { world with
    store := { world.store with
      agentTaskRows := world.store.agentTaskRows.adjust claimed.id fun _ => claimed }
    objects := Function.update world.objects world.allocated claimed
    allocated := world.allocated + 1
    agentTasks := world.agentTasks.set claimed.id world.allocated
    claims := claim :: world.claims }

/-- `_claim_loaded_task`, the update of the row and the replacement in memory. -/
def claimLoadedTask (runtime : Runtime) (task : AgentTask) (workerId : String) (leaseSeconds : Int) :
    TaskProcedure ClaimResult := do
  let world ← Procedure.state
  let leaseToken := runtime.newId "agent_task_lease" (world.claims.map (·.leaseToken))
  let now ← readClock runtime
  let leaseExpiresAt := now.shifted leaseSeconds
  let updatedAt ← readClock runtime
  .update fun world =>
    (.claimed world.allocated task.id leaseToken leaseExpiresAt,
      world.taken (task.leased workerId leaseToken leaseExpiresAt updatedAt)
        ⟨task.id, workerId, leaseToken, leaseExpiresAt, false⟩)

def claimAgentTaskForWorker (runtime : Runtime) (taskId workerId : String) (leaseSeconds : Int) :
    TaskProcedure ClaimResult := do
  let world ← Procedure.state
  let row := world.store.agentTaskRows.get? taskId
  let failure ← eligibilityFailure runtime row taskId
  match failure, row with
  | none, some task => claimLoadedTask runtime task workerId leaseSeconds
  | failure, row =>
      return .refused row (some ((row.map (·.id)).getD taskId)) (failure.getD "Agent task not eligible for claim.")

/-- The eligible ones of the loaded rows. -/
def eligibleTasks (runtime : Runtime) : List AgentTask → TaskProcedure (List AgentTask)
  | [] => pure []
  | task :: rest => do
      let failure ← eligibilityFailure runtime (some task) task.id
      let others ← eligibleTasks runtime rest
      return if failure = none then task :: others else others

def claimFirstApprovedAgentTaskForWorker (runtime : Runtime) (workerId : String) (leaseSeconds : Int) :
    TaskProcedure ClaimResult := do
  let world ← Procedure.state
  let candidates ← eligibleTasks runtime world.store.agentTaskRows.byKey.values
  match Selection.pick (fun best candidate => decide (candidate.updatedAt < best.updatedAt)) candidates with
  | none => return .refused none none "No approved, linked, lease-available agent task found."
  | some task => claimLoadedTask runtime task workerId leaseSeconds

structure WorkerRequest where
  taskId : Option String
  firstApproved : Bool
  workerId : String
  leaseSeconds : Int

/-- The claim that a worker operation begins with. -/
def claimFor (runtime : Runtime) (request : WorkerRequest) : TaskProcedure ClaimResult :=
  if request.firstApproved = true ∧ Text.present request.taskId = false then
    claimFirstApprovedAgentTaskForWorker runtime request.workerId request.leaseSeconds
  else claimAgentTaskForWorker runtime (request.taskId.getD "None") request.workerId request.leaseSeconds

end Claims

section Releases

def AgentTask.unleased (task : AgentTask) (updatedAt : Instant) : AgentTask :=
  { task with workerLeaseOwner := none, workerLeaseExpiresAt := none, workerLeaseToken := none, updatedAt }

/-- The history after a lease was given back. -/
def giveBackLease (leaseToken : Option String) (claims : List TaskClaim) : List TaskClaim :=
  claims.map fun claim => if leaseToken = some claim.leaseToken then { claim with released := true } else claim

/-- Clear the lease of an object, with another change; in the history it is given back. -/
def clearLease (runtime : Runtime) (task : TaskRef) (change : AgentTask → AgentTask) : TaskProcedure Unit := do
  let updatedAt ← readClock runtime
  .modify fun world =>
    { world.change task fun held => (change held).unleased updatedAt with
      claims := giveBackLease (world.objects task).workerLeaseToken world.claims }

/-- `_release_task`. -/
def releaseTask (runtime : Runtime) (task : TaskRef) (leaseToken : String) : TaskProcedure Unit := do
  let world ← Procedure.state
  onlyIf (leaseToken = "" ∨ (world.objects task).workerLeaseToken = some leaseToken) (clearLease runtime task id)

end Releases

section Events

def AgentTask.moved (task : AgentTask) (status : AgentTaskStatus) (updatedAt : Instant) : AgentTask :=
  { task with status, updatedAt }

/-- What a task event says. -/
structure TaskEventText where
  eventType : AgentTaskEventType
  message : String
  /-- `metadata["operation_type"]`. -/
  operationType : Option String
  /-- What the metadata says of the commands of a validation. -/
  artifacts : List (String × Document)

/-- Write a status, where there is one, and append an event. -/
def appendTaskEvent (runtime : Runtime) (task : TaskRef) (status : Option AgentTaskStatus) (text : TaskEventText)
    (actor : String) : TaskProcedure Unit := do
  match status with
  | some status => do
      let updatedAt ← readClock runtime
      changeTask task fun held => held.moved status updatedAt
  | none => pure ()
  let createdAt ← readClock runtime
  .modify fun world =>
    let held := world.objects task
    let id := runtime.newId "agent_task_event" world.store.agentTaskEvents.keys
    let event : AgentTaskEvent :=
      { id
        taskId := held.id
        eventType := text.eventType
        message := text.message
        status := some held.status
        actor
        metadata := (text.operationType.map fun kind => ("operation_type", .text kind)).toList ++ text.artifacts
        createdAt }
    { world with store := { world.store with agentTaskEvents := world.store.agentTaskEvents.set id event } }

end Events

section Routes

def cancellableStatuses : List AgentTaskStatus :=
  [.received, .planning, .waitingForApproval, .approved, .executing, .testing, .failed]

/-- The reason of `cancel_summary` for a task that cannot be cancelled. -/
def cancelRefusal (task : AgentTask) : String :=
  if task.status = .readyForPr then "READY_FOR_PR tasks require PR/branch cleanup, not simple cancellation."
  else "Agent task is already terminal or review-ready: " ++ task.status.value ++ "."

/-- The cancel route up to its `persist`. -/
def cancelAgentTask (runtime : Runtime) (taskId : String) (user : AuthUser) : TaskProcedure Unit := do
  let world ← Procedure.state
  let task ← found (world.agentTasks.get? taskId) (.http 404 "Agent task not found")
  demand ((world.objects task).status ∈ cancellableStatuses) (.http 409 (cancelRefusal (world.objects task)))
  clearLease runtime task fun held => { held with status := .cancelled }
  appendTaskEvent runtime task none
    ⟨.cancelled, "Agent task cancelled by operator.", some "agent_task_cancel_requested", []⟩ user.email

def retryRequestedOperation : String := "agent_task_retry_requested"

def TaskWorld.countRetryRequests (world : TaskWorld) (taskId : String) : Nat :=
  (world.store.agentTaskEvents.values.filter fun event =>
    event.taskId == taskId && event.metadata.lookup "operation_type" == some (.text retryRequestedOperation)).length

/-- The reason of `retry_summary` for a task that cannot be retried. -/
def retryRefusal (world : TaskWorld) (task : AgentTask) (maxRetries : Nat) : Option String :=
  if task.status ≠ .failed then some "Only FAILED agent tasks can be retried."
  else if Text.present task.approvalRequestId = false then some "Agent task has no linked approval request."
  else if maxRetries ≤ world.countRetryRequests task.id then
    some ("Retry limit reached: " ++ toString (world.countRetryRequests task.id) ++ " >= " ++ toString maxRetries ++ ".")
  else none

/-- The retry route up to its `persist`. -/
def retryAgentTask (runtime : Runtime) (taskId : String) (maxRetries : Nat) (user : AuthUser) : TaskProcedure Unit := do
  let world ← Procedure.state
  let task ← found (world.agentTasks.get? taskId) (.http 404 "Agent task not found")
  let refusal := retryRefusal world (world.objects task) maxRetries
  demand (refusal = none) (.http 409 (refusal.getD ""))
  clearLease runtime task fun held => { held with status := .approved }
  appendTaskEvent runtime task none
    ⟨.note, "Agent task retry requested by operator.", some retryRequestedOperation, []⟩ user.email

def Store.approvalPart (store : Store) : ApprovalStore := ⟨store.ticks, store.approvalRequests⟩

def Store.withApprovals (approvals : ApprovalStore) (store : Store) : Store :=
  { store with ticks := approvals.ticks, approvalRequests := approvals.approvalRequests }

/-- The first task in memory that is linked to an approval. -/
def TaskWorld.linkedTask (world : TaskWorld) (approvalId : String) : Option TaskRef :=
  world.agentTasks.values.find? fun task => (world.objects task).approvalRequestId == some approvalId

/-- What the decided status of an approval means for the linked task. -/
def propagatedStatus (approval : ApprovalRequest) (previousStatus : ApprovalStatus) (task : AgentTask) :
    AgentTaskStatus × TaskEventText :=
  match approval.status with
  | .approved => (.approved, ⟨.approved, "Linked approval was approved.", none, []⟩)
  | .denied => (.denied, ⟨.denied, "Linked approval was denied.", none, []⟩)
  | .revisionRequested => (.planning, ⟨.note, "Linked approval requested revision.", none, []⟩)
  | status =>
      (task.status, ⟨.note, "Linked approval moved from " ++ previousStatus.value ++ " to " ++ status.value ++ ".", none, []⟩)

def scheduledRun (taskId : String) : AgentRunCreate where
  taskId := taskId
  capabilityLeaseId := none
  maxAttemptsPerStep := 3
  attemptBounds := by decide
  correlationId := none

def propagateApprovalDecisionToAgentTask (runtime : Runtime) (approval : ApprovalRequest)
    (previousStatus : ApprovalStatus) (user : AuthUser) : TaskProcedure Unit := do
  let world ← Procedure.state
  match world.linkedTask approval.id with
  | none => pure ()
  | some task => do
      let propagated := propagatedStatus approval previousStatus (world.objects task)
      appendTaskEvent runtime task (some propagated.1) propagated.2 user.email
      if propagated.1 = .approved then do
        let _ ← within TaskWorld.seen TaskWorld.withStore
          (createAgentRun runtime (scheduledRun (world.objects task).id))
      else pure ()

/-- The decision route up to its `persist`. -/
def decideWithTask (runtime : Runtime) (approvalId : String) (payload : DecisionCreate) (user : AuthUser) :
    TaskProcedure Unit := do
  let world ← Procedure.state
  let decided ← within TaskWorld.seen TaskWorld.withStore
    (within Store.approvalPart Store.withApprovals (decideApproval runtime approvalId payload user))
  let previousStatus := ((world.store.approvalRequests.get? approvalId).map (·.status)).getD decided.status
  propagateApprovalDecisionToAgentTask runtime decided previousStatus user

end Routes

end ControlTower
