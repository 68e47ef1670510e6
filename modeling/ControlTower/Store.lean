import ControlTower.Foundation.Selection
import ControlTower.Run.Transition
import ControlTower.Task.Event
import ControlTower.Trust.Model

/-! The in-memory collections of the API process, with the persisted rows of
agent tasks that worker claims read from the database. -/

set_option autoImplicit false

namespace ControlTower

open Foundation
open Foundation.Procedure (demand found onlyIf)

structure Store where
  ticks : Nat
  /-- Identifiers of the known projects. -/
  projects : List String
  /-- Identifiers of the known work orders. -/
  workOrders : List String
  externalAgents : Table String ExternalAgent
  agentTasks : Table String AgentTask
  agentTaskEvents : Table String AgentTaskEvent
  approvalRequests : Table String ApprovalRequest
  agentRuns : Table String DurableRun
  capabilityLeases : Table String CapabilityLease
  reviewerAttestations : Table String ReviewerAttestation
  proposedActions : Table String ProposedAction
  policyDecisions : Table String PolicyDecision
  actionAuthorizations : Table String ActionAuthorization
  actionConsumptions : Table String ActionConsumption
  trustEvents : Table String TrustEvent
  /-- The `agent_task` rows of `kv_store`. -/
  agentTaskRows : Table String AgentTask

instance : Clocked Store where
  ticks := Store.ticks
  tick store := { store with ticks := store.ticks + 1 }

abbrev StoreProcedure := Procedure Store Raised

/-- `persist` rewrites every row from memory. -/
def persist : StoreProcedure Unit := .modify fun store => { store with agentTaskRows := store.agentTasks }

/-- Work on one run with its steps and store it back, also when the work raises. -/
def onRun {α : Type} (runId : String) (body : RunProcedure α) : StoreProcedure α where
  run store := match store.agentRuns.get? runId with
    | some durable =>
        let outcome := body.run ⟨durable.run, durable.steps, store.ticks⟩
        (outcome.1, { store with
          agentRuns := store.agentRuns.set runId ⟨outcome.2.run, outcome.2.steps⟩
          ticks := outcome.2.ticks })
    | none => (.error (.http 404 "Agent run not found"), store)

def runOr404 (runId : String) : StoreProcedure DurableRun := do
  found ((← Procedure.state).agentRuns.get? runId) (.http 404 "Agent run not found")

/-- All step identifiers of all runs. -/
def Store.stepIds (store : Store) : List String :=
  store.agentRuns.values.flatMap fun durable => durable.steps.map (·.id)

/-- `agent_run_steps.get(step_id)`, with the run that owns the step. -/
def Store.stepWithRun (store : Store) (stepId : String) : Option (DurableRun × AgentRunStep) :=
  store.agentRuns.values.findSome? fun durable => (findStep durable.steps stepId).map fun step => (durable, step)

end ControlTower
