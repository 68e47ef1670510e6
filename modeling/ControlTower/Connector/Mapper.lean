import ControlTower.Connector.Model

/-! The schema mapper of a connector, and the webhook payload that a mapped or a
plain request body is validated as. -/

set_option autoImplicit false

namespace ControlTower.Connectors

open Foundation

section Enumerations

def agentActions : List AgentAction :=
  [.createApproval, .createWorkOrder, .createAgentTask, .appendAgentTaskEvent, .readAgentTask, .executeGithub]

def requestedActions : List AgentTaskRequestedAction :=
  [.createWorkOrder, .createApproval, .reviewArchitecture, .generateDocs, .other]

def eventTypes : List AgentTaskEventType :=
  [.taskCreated, .planReceived, .approvalCreated, .approved, .denied, .executionStarted, .testsStarted, .testsPassed,
    .testsFailed, .prCreated, .resultReady, .failed, .cancelled, .done, .note]

def taskStatuses : List AgentTaskStatus :=
  [.received, .planning, .waitingForApproval, .approved, .denied, .executing, .testing, .readyForPr, .failed,
    .cancelled, .done]

def riskLevels : List RiskLevel := [.low, .medium, .high, .critical, .blocked]

/-- The member of an enumeration with a value. -/
def memberOf {α : Type} (members : List α) (value : α → String) (text : String) : Option α :=
  members.find? fun member => value member == text

end Enumerations

section Config

def maxMapperFields : Nat := 32

def maxPathLength : Nat := 120

def allowedTargetFields : List String :=
  ["action", "project_id", "title", "goal", "context", "source_url", "source_session_id", "source_task_id",
    "requested_action", "repository", "branch_preference", "risk_hint", "requires_approval", "metadata", "task_id",
    "event_type", "message", "status"]

/-- `_validate_path` raises nothing. -/
def safePath (path : String) : Bool :=
  let clean := Text.strip path
  clean != "" && decide (clean.length ≤ maxPathLength) &&
    (Text.split '.' clean).all fun part => !(["", "__", "constructor", "prototype"].contains part)

def validFieldPaths (fieldPaths : List (String × String)) : Bool :=
  decide (fieldPaths.length ≤ maxMapperFields) &&
    fieldPaths.all fun field => allowedTargetFields.contains field.1 && safePath field.2

def validDefaults (defaults : List (String × Document)) : Bool :=
  defaults.all fun field => allowedTargetFields.contains field.1

/-- `ConnectorSchemaMapperConfig`. -/
structure SchemaMapper where
  enabled : Bool
  defaultAction : AgentAction
  fieldPaths : List (String × String)
  defaults : List (String × Document)
  pathsValid : validFieldPaths fieldPaths = true
  defaultsValid : validDefaults defaults = true

/-- A validated field: the default where it is left out. -/
def readField {α : Type} (value : Option Document) (default : α) (read : Document → Option α) : Option α :=
  match value with
  | some document => read document
  | none => some default

def readEnum {α : Type} (members : List α) (value : α → String) : Document → Option α
  | .text text => memberOf members value text
  | _ => none

def readText : Document → Option String
  | .text text => some text
  | _ => none

def readObject : Document → Option (List (String × Document))
  | .object fields => some fields
  | _ => none

/-- A field that can be null. -/
def orNull {α : Type} (read : Document → Option α) : Document → Option (Option α)
  | .null => some none
  | document => (read document).map some

def readPaths : Document → Option (List (String × String))
  | .object fields => fields.mapM fun field => (readText field.2).map fun path => (field.1, path)
  | _ => none

variable (runtime : ConnectorRuntime)

/-- `ConnectorSchemaMapperConfig.model_validate`; none where it raises. -/
def validateMapper (raw : Document) : Option SchemaMapper :=
  match raw with
  | .object fields => do
      let enabled ← readField (fields.lookup "enabled") true runtime.flagOf
      let defaultAction ← readField (fields.lookup "default_action") .createAgentTask (readEnum agentActions (·.value))
      let fieldPaths ← readField (fields.lookup "field_paths") [] readPaths
      let defaults ← readField (fields.lookup "defaults") [] readObject
      if pathsValid : validFieldPaths fieldPaths = true then
        if defaultsValid : validDefaults defaults = true then
          some { enabled, defaultAction, fieldPaths, defaults, pathsValid, defaultsValid }
        else none
      else none
  | _ => none

/-- `mapper.model_dump(mode="json")`. -/
def SchemaMapper.dump (mapper : SchemaMapper) : Document :=
  .object [
    ("enabled", .flag mapper.enabled),
    ("default_action", .text mapper.defaultAction.value),
    ("field_paths", .object (mapper.fieldPaths.map fun field => (field.1, .text field.2))),
    ("defaults", .object mapper.defaults)]

/-- `_mapper_from_connector`; the outer option is none where the stored mapper is invalid. -/
def mapperFromConnector (connector : AgentConnector) : Option (Option SchemaMapper) :=
  let raw := connector.config.value "schema_mapper"
  if raw.truthy then (validateMapper runtime raw).map some else some none

/-- `_get_path`; null stands for a value that is missing. -/
def getPath (payload : Document) (path : String) : Document :=
  (Text.split '.' path).foldl (fun current part => (current.field part).getD .null) payload

/-- `_coerce_value`; none where it raises. -/
def coerceValue (fieldName : String) (value : Document) : Option Document :=
  let enumeration {α : Type} (members : List α) (name : α → String) : Option Document :=
    (memberOf members name (strOf runtime value)).map fun member => .text (name member)
  if value = .null then some .null
  else if fieldName = "action" then enumeration agentActions (·.value)
  else if fieldName = "requested_action" then enumeration requestedActions (·.value)
  else if fieldName = "event_type" then enumeration eventTypes (·.value)
  else if fieldName = "status" then enumeration taskStatuses (·.value)
  else if fieldName = "risk_hint" then enumeration riskLevels (·.value)
  else if fieldName = "requires_approval" then
    match value with
    | .flag flag => some (.flag flag)
    | .text text => some (.flag (["true", "1", "yes", "y"].contains (runtime.lower (Text.strip text))))
    | other => some (.flag other.truthy)
  else if fieldName = "metadata" then
    match value with
    | .object fields => some (.object fields)
    | _ => none
  else some (.text (strOf runtime value))

/-- One loop of the mapper: coerce what a field resolves to and assign it. -/
def mapFields (resolve : Document → Document) (keepsNull : Bool) :
    List (String × Document) → Config → Option Config
  | [], normalized => some normalized
  | (target, source) :: rest, normalized =>
      let value := resolve source
      if value = .null ∧ keepsNull = false then mapFields resolve keepsNull rest normalized
      else do
        let coerced ← coerceValue runtime target value
        mapFields resolve keepsNull rest (normalized.set target coerced)

/-- The mapper that applies: the given one, otherwise the one of the connector. -/
def activeMapper (connector : AgentConnector) (mapper : Option SchemaMapper) : Option (Option SchemaMapper) :=
  match mapper with
  | some given => some (some given)
  | none => mapperFromConnector runtime connector

/-- `normalize_connector_payload`; none where it raises. -/
def normalizeConnectorPayload (connector : AgentConnector) (payload : Document) (mapper : Option SchemaMapper) :
    Option Document := do
  match ← activeMapper runtime connector mapper with
  | none => some payload
  | some mapper =>
      if mapper.enabled = false then some payload
      else do
        let start : Config := Table.empty.set "action" (.text mapper.defaultAction.value)
        let defaulted ← mapFields runtime id true mapper.defaults start
        let paths := mapper.fieldPaths.map fun field => (field.1, Document.text field.2)
        let normalized ← mapFields runtime (fun path => getPath payload (strOf runtime path)) false paths defaulted
        some (.object normalized.rows)

end Config

section Payload

structure ConnectorWebhookPayload where
  action : AgentAction
  projectId : Option String
  title : Option String
  goal : Option String
  context : String
  sourceUrl : Option String
  sourceSessionId : Option String
  sourceTaskId : Option String
  requestedAction : AgentTaskRequestedAction
  repository : Option String
  branchPreference : Option String
  riskHint : Option RiskLevel
  requiresApproval : Bool
  metadata : List (String × Document)
  taskId : Option String
  eventType : AgentTaskEventType
  message : String
  status : Option AgentTaskStatus

/-- `payload.model_dump(mode="json")`. -/
def ConnectorWebhookPayload.dump (payload : ConnectorWebhookPayload) : List (String × Document) :=
  [("action", .text payload.action.value),
    ("project_id", .ofText payload.projectId),
    ("title", .ofText payload.title),
    ("goal", .ofText payload.goal),
    ("context", .text payload.context),
    ("source_url", .ofText payload.sourceUrl),
    ("source_session_id", .ofText payload.sourceSessionId),
    ("source_task_id", .ofText payload.sourceTaskId),
    ("requested_action", .text payload.requestedAction.value),
    ("repository", .ofText payload.repository),
    ("branch_preference", .ofText payload.branchPreference),
    ("risk_hint", .ofText (payload.riskHint.map (·.value))),
    ("requires_approval", .flag payload.requiresApproval),
    ("metadata", .object payload.metadata),
    ("task_id", .ofText payload.taskId),
    ("event_type", .text payload.eventType.value),
    ("message", .text payload.message),
    ("status", .ofText (payload.status.map (·.value)))]

/-- `ConnectorWebhookPayload.model_validate`; none where it raises. -/
def validatePayload (runtime : ConnectorRuntime) (normalized : Document) : Option ConnectorWebhookPayload :=
  match normalized with
  | .object fields => do
      let words (name : String) : Option (Option String) := readField (fields.lookup name) none (orNull readText)
      let action ← readField (fields.lookup "action") .createAgentTask (readEnum agentActions (·.value))
      let projectId ← words "project_id"
      let title ← words "title"
      let goal ← words "goal"
      let context ← readField (fields.lookup "context") "" readText
      let sourceUrl ← words "source_url"
      let sourceSessionId ← words "source_session_id"
      let sourceTaskId ← words "source_task_id"
      let requestedAction ←
        readField (fields.lookup "requested_action") .createWorkOrder (readEnum requestedActions (·.value))
      let repository ← words "repository"
      let branchPreference ← words "branch_preference"
      let riskHint ← readField (fields.lookup "risk_hint") none (orNull (readEnum riskLevels (·.value)))
      let requiresApproval ← readField (fields.lookup "requires_approval") true runtime.flagOf
      let metadata ← readField (fields.lookup "metadata") [] readObject
      let taskId ← words "task_id"
      let eventType ← readField (fields.lookup "event_type") .note (readEnum eventTypes (·.value))
      let message ← readField (fields.lookup "message") "" readText
      let status ← readField (fields.lookup "status") none (orNull (readEnum taskStatuses (·.value)))
      some
        { action, projectId, title, goal, context, sourceUrl, sourceSessionId, sourceTaskId, requestedAction
          repository, branchPreference, riskHint, requiresApproval, metadata, taskId, eventType, message, status }
  | _ => none

/-- What a request body is read as: mapped, then validated. -/
def readPayload (runtime : ConnectorRuntime) (connector : AgentConnector) (mapper : Option SchemaMapper)
    (payload : Document) : Option ConnectorWebhookPayload := do
  validatePayload runtime (← normalizeConnectorPayload runtime connector payload mapper)

end Payload

end ControlTower.Connectors
