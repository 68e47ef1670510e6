import ControlTower.Connector.Webhook

/-! The simulator of a connector webhook: what it says of a sample payload, before any
task or event is stored. -/

set_option autoImplicit false

namespace ControlTower.Connectors

open Foundation
open Foundation.Procedure

section Simulation

structure SimulationRequest where
  samplePayload : List (String × Document)
  mapper : Option SchemaMapper
  validateSecretConfigured : Bool

structure SimulationResponse where
  accepted : Bool
  connectorId : String
  action : Option AgentAction
  normalizedPayload : List (String × Document)
  taskPreview : Option (List (String × Document))
  eventPreview : Option (List (String × Document))
  authReady : Bool
  scopeReady : Bool
  errors : List String
  warnings : List String

/-- `[message]` where the condition holds. -/
def noteIf (condition : Bool) (message : String) : List String := if condition then [message] else []

/-- `_auth_warnings`. -/
def authWarnings (connector : AgentConnector) (validateSecretConfigured : Bool) : Bool × List String :=
  let missing := validateSecretConfigured && !secretConfigured connector
  (decide (connector.status = .enabled) && !missing,
    noteIf (decide (connector.status ≠ .enabled)) "Connector is disabled; live webhook calls will be refused." ++
      noteIf missing "Connector secret is not configured; live webhook calls will be refused.")

/-- The scope errors of a project and a repository. -/
def scopeErrors (connector : AgentConnector) (projectId repository : Option String) : List String :=
  noteIf (outsideAllowList projectId (connector.allowedProjectIds.getD [])) "Connector is not allowed for this project." ++
    noteIf (outsideAllowList repository (connector.allowedRepositories.getD []))
      "Connector is not allowed for this repository."

/-- The metadata of a preview. -/
def previewMetadata (connector : AgentConnector) (metadata : List (String × Document)) : Document :=
  let added : List (String × Document) :=
    [("connector_id", .text connector.id), ("connector_name", .ofText connector.name), ("connector_webhook", .flag true)]
  let merged : Config := (metadata ++ added).foldl (fun config field => config.set field.1 field.2) .empty
  .object merged.rows

def taskPreview (connector : AgentConnector) (payload : ConnectorWebhookPayload) : List (String × Document) :=
  [("provider", .ofText (connector.providerLabel.map (·.value))),
    ("project_id", .ofText payload.projectId),
    ("title", .ofText payload.title),
    ("goal", .ofText payload.goal),
    ("context", .text payload.context),
    ("requested_action", .text payload.requestedAction.value),
    ("repository", .ofText payload.repository),
    ("branch_preference", .ofText payload.branchPreference),
    ("risk_hint", .ofText (payload.riskHint.map (·.value))),
    ("requires_approval", .flag payload.requiresApproval),
    ("metadata", previewMetadata connector payload.metadata),
    ("external_agent_id", .text connector.id),
    ("external_agent_name", .ofText connector.name)]

def eventPreview (connector : AgentConnector) (task : ConnectorTask) (payload : ConnectorWebhookPayload) :
    List (String × Document) :=
  [("task_id", .text task.id),
    ("event_type", .text payload.eventType.value),
    ("message", .text payload.message),
    ("status", .ofText (payload.status.map (·.value))),
    ("actor", .text ("connector:" ++ connector.id)),
    ("metadata", previewMetadata connector payload.metadata)]

/-- A preview, or the errors that stand against it; none where a null list of actions cannot be iterated. -/
abbrev Simulated := Option (Except (List String) (List (String × Document)))

def previewUnless (errors : List String) (preview : List (String × Document)) :
    Except (List String) (List (String × Document)) :=
  if errors = [] then .ok preview else .error errors

def simulateCreateTask (store : ConnectorStore) (connector : AgentConnector) (payload : ConnectorWebhookPayload) :
    Simulated := do
  let allowed ← connector.allowedActions
  let projectErrors :=
    if Text.present payload.projectId = false then ["project_id is required for CREATE_AGENT_TASK."]
    else noteIf (!store.projects.contains (payload.projectId.getD "")) "Project not found."
  let errors :=
    noteIf (!allowed.contains .createAgentTask) "Connector is not allowed to perform CREATE_AGENT_TASK." ++
      projectErrors ++
      noteIf (!(Text.present payload.title && Text.present payload.goal))
        "title and goal are required for CREATE_AGENT_TASK." ++
      scopeErrors connector payload.projectId payload.repository
  return previewUnless errors (taskPreview connector payload)

def simulateAppendEvent (store : ConnectorStore) (connector : AgentConnector) (payload : ConnectorWebhookPayload) :
    Simulated := do
  let allowed ← connector.allowedActions
  let actionErrors :=
    noteIf (!allowed.contains .appendAgentTaskEvent) "Connector is not allowed to perform APPEND_AGENT_TASK_EVENT."
  if Text.present payload.taskId = false then
    return .error (actionErrors ++ ["task_id is required for APPEND_AGENT_TASK_EVENT."])
  else
    match store.agentTasks.get? (payload.taskId.getD "") with
    | none => return .error (actionErrors ++ ["Agent task not found."])
    | some task =>
        let errors :=
          actionErrors ++ noteIf (!ownsTask connector task) "Connector is not allowed for this task." ++
            scopeErrors connector task.projectId task.repository
        return previewUnless errors (eventPreview connector task payload)

/-- The response to a simulated action, with the preview put in its place. -/
def answerSimulated (answered : SimulationResponse) (place : SimulationResponse → List (String × Document) → SimulationResponse) :
    Except (List String) (List (String × Document)) → SimulationResponse
  | .ok preview => place { answered with accepted := answered.authReady, scopeReady := true } preview
  | .error errors => { answered with errors }

variable (runtime : ConnectorRuntime)

/-- `simulate_connector_webhook`; none where it raises. The text of an invalid
payload's error is the validation library's and left out. -/
def simulateConnectorWebhook (store : ConnectorStore) (connector : AgentConnector) (request : SimulationRequest) :
    Option SimulationResponse :=
  let (authReady, warnings) := authWarnings connector request.validateSecretConfigured
  let refused : SimulationResponse :=
    { accepted := false, connectorId := connector.id, action := none, normalizedPayload := [], taskPreview := none
      eventPreview := none, authReady, scopeReady := false, errors := [], warnings }
  match readPayload runtime connector request.mapper (.object request.samplePayload) with
  | none => some { refused with errors := ["Invalid connector webhook payload"] }
  | some payload =>
      let answered := { refused with action := some payload.action, normalizedPayload := payload.dump }
      match payload.action with
      | .createAgentTask =>
          (simulateCreateTask store connector payload).map
            (answerSimulated answered fun response preview => { response with taskPreview := some preview })
      | .appendAgentTaskEvent =>
          (simulateAppendEvent store connector payload).map
            (answerSimulated answered fun response preview => { response with eventPreview := some preview })
      | other => some { answered with errors := ["Connector simulator does not support action: " ++ other.value] }

end Simulation

end ControlTower.Connectors
