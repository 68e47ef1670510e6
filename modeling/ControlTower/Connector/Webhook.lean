import ControlTower.Connector.Mapper

/-! The webhook of a connector: authentication with the replay guard of signed
requests, the rate limit, and the two actions a connector can ask for. -/

set_option autoImplicit false

namespace ControlTower.Connectors

open Foundation
open Foundation.Procedure

variable (runtime : ConnectorRuntime)

structure WebhookRequest where
  body : List UInt8
  authorization : Option String
  signature : Option String
  signatureVersion : Option String
  timestamp : Option String
  nonce : Option String

section RateLimit

/-- The length of a rate window in microseconds. -/
def rateLimitWindow : Nat := 60000000

/-- The first point in time that a date and time cannot show. -/
def endOfTime : Int := 253402300800000000

def parseIsoDatetime : Document → Option DateTime
  | .text value => if value = "" then none else runtime.fromIsoformat value
  | _ => none

/-- `window_started + CONNECTOR_RATE_LIMIT_WINDOW <= now`; none where it raises. -/
def windowPassed (started : DateTime) (now : Instant) : Option Bool :=
  if started.wall + rateLimitWindow < endOfTime then
    started.offset.map fun offset => decide (started.wall + rateLimitWindow - offset ≤ (now : Int))
  else none

/-- `int(config.get("rate_limit_request_count") or 0)`. -/
def requestCount (config : Config) : Option Int :=
  let value := config.value "rate_limit_request_count"
  if value.truthy then intOf runtime value else some 0

/-- Whether a new window starts; none where the comparison raises. -/
def windowStarts (config : Config) (now : Instant) : Option Bool :=
  match parseIsoDatetime runtime (config.value "rate_limit_window_started_at") with
  | none => some true
  | some started => windowPassed started now

def enforceConnectorRateLimit : CaseProcedure Unit := do
  let connector ← currentConnector
  let now ← readClock runtime.toRuntime
  let count ← found (requestCount runtime connector.config) internalError
  let starts ← found (windowStarts runtime connector.config now) internalError
  if starts then
    changeConnector fun connector =>
      { connector with
        config := (connector.config.set "rate_limit_window_started_at" (.text (runtime.isoformat now))).set
          "rate_limit_request_count" (.number 1)
        updatedAt := now }
  else do
    let limit ← found connector.rateLimitPerMinute internalError
    changeConnector fun connector =>
      { connector with
        config := connector.config.set "rate_limit_request_count" (.number (count + 1))
        updatedAt := now }
    demand (count < limit) (.http 429 "Connector webhook rate limit exceeded")

end RateLimit

section Signature

def hmacTimestampToleranceSeconds : Int := 300

def hmacNonceTtlSeconds : Int := 600

def hmacMaxTrackedNonces : Nat := 200

def hmacV1SigningPayload (timestamp nonce : String) (body : List UInt8) : String :=
  "v1." ++ timestamp ++ "." ++ nonce ++ "." ++ runtime.sha256Body body

def expectedHmacV1Signature (secretHash timestamp nonce : String) (body : List UInt8) : String :=
  runtime.hmacSha256 secretHash (hmacV1SigningPayload runtime timestamp nonce body)

/-- `value.removeprefix(start)`. -/
def removePrefix (start value : String) : String :=
  if Text.startsWith value start then String.ofList (value.toList.drop start.length) else value

def extractHmacSignature (signatureHeader : String) : String :=
  let signature := Text.strip signatureHeader
  if Text.startsWith signature "v1=" then Text.strip (removePrefix "v1=" signature) else signature

def parseUnixTimestamp (timestamp : Option String) : CaseProcedure Int := do
  demand (Text.present timestamp = true) (.http 401 "Missing connector HMAC timestamp")
  found (timestamp.bind runtime.intOfText) (.http 401 "Invalid connector HMAC timestamp")

/-- The loop that keeps the entries that are young enough. -/
def youngNonces (nowEpoch : Int) : List (String × Document) → Table String Int → Table String Int
  | [], cleaned => cleaned
  | (nonce, seenAt) :: rest, cleaned =>
      match intOf runtime seenAt with
      | none => youngNonces nowEpoch rest cleaned
      | some seen =>
          youngNonces nowEpoch rest
            (if nowEpoch - seen ≤ hmacNonceTtlSeconds then cleaned.set nonce seen else cleaned)

/-- The stored nonces that are young enough, before their number is bounded. -/
def trackedNonces (config : Config) (nowEpoch : Int) : Table String Int :=
  let history := match config.value "hmac_nonce_history" with
    | .object fields => fields
    | _ => []
  youngNonces runtime nowEpoch history .empty

/-- The rows with the greatest values, in the order of their values. -/
def latestRows (count : Nat) (table : Table String Int) : Table String Int :=
  let sorted := table.rows.mergeSort fun row other => decide (row.2 ≤ other.2)
  ⟨sorted.drop (sorted.length - count),
    List.Nodup.sublist ((List.drop_sublist _ _).map Prod.fst)
      (((List.mergeSort_perm table.rows _).map Prod.fst).nodup_iff.mpr table.distinct)⟩

def cleanHmacNonceHistory (config : Config) (nowEpoch : Int) : Table String Int :=
  let cleaned := trackedNonces runtime config nowEpoch
  if hmacMaxTrackedNonces < cleaned.rows.length then latestRows hmacMaxTrackedNonces cleaned else cleaned

/-- A nonce history as the configuration stores it. -/
def historyDocument (history : Table String Int) : Document :=
  .object (history.rows.map fun row => (row.1, .number row.2))

def storeHistory (history : Table String Int) : CaseProcedure Unit := do
  let updatedAt ← readClock runtime.toRuntime
  changeConnector fun connector =>
    { connector with config := connector.config.set "hmac_nonce_history" (historyDocument history), updatedAt }

def assertHmacV1NotReplayed (nonce : String) (nowEpoch : Int) : CaseProcedure Unit := do
  let connector ← currentConnector
  let history := cleanHmacNonceHistory runtime connector.config nowEpoch
  if (history.get? nonce).isSome then do
    storeHistory runtime history
    raise (.http 401 "Connector HMAC nonce has already been used")
  else storeHistory runtime (history.set nonce nowEpoch)

/-- `not nonce or len(nonce) > 128` is false. -/
def acceptableNonce (nonce : Option String) : Bool :=
  match nonce with
  | some text => text != "" && decide (text.length ≤ 128)
  | none => false

/-- `int(time.time())` at a point in time. -/
def epochSeconds (now : Instant) : Int := ((now / 1000000 : Nat) : Int)

def authenticateHmacV1 (storedHash : String) (request : WebhookRequest) : CaseProcedure Unit := do
  demand (request.signatureVersion = some "v1") (.http 401 "Unsupported connector HMAC signature version")
  demand (Text.present request.signature = true) (.http 401 "Missing connector HMAC signature")
  demand (acceptableNonce request.nonce = true) (.http 401 "Invalid connector HMAC nonce")
  let nonce := request.nonce.getD ""
  let timestampEpoch ← parseUnixTimestamp runtime request.timestamp
  let now ← readClock runtime.toRuntime
  let nowEpoch := epochSeconds now
  demand (|nowEpoch - timestampEpoch| ≤ hmacTimestampToleranceSeconds) (.http 401 "Connector HMAC timestamp is stale")
  let expected := expectedHmacV1Signature runtime storedHash (toString timestampEpoch) nonce request.body
  demand (extractHmacSignature (request.signature.getD "") = expected) (.http 401 "Invalid connector HMAC signature")
  assertHmacV1NotReplayed runtime nonce nowEpoch

end Signature

section Authentication

/-- Record a failed authentication and raise. -/
def refuseAuth {α : Type} (reason detail : String) : CaseProcedure α := do
  recordConnectorAuthFailure runtime reason
  raise (.http 401 detail)

def secretConfigured (connector : AgentConnector) : Bool :=
  Text.present connector.secretRef && (connector.config.value "secret_hash").truthy

def authenticateBearer (storedHash : String) (request : WebhookRequest) : CaseProcedure Unit := do
  let authorization := request.authorization.getD ""
  if Text.startsWith authorization "Bearer " = false then
    refuseAuth runtime "missing bearer token" "Missing connector bearer token"
  else if storedHash ≠ runtime.hashSecret (Text.strip (removePrefix "Bearer " authorization)) then
    refuseAuth runtime "invalid bearer token" "Invalid connector bearer token"
  else pure ()

/-- The check of the credentials for a type of authentication. -/
def checkCredentials (authType : Option ConnectorAuthType) (storedHash : String) (request : WebhookRequest) :
    CaseProcedure Unit :=
  match authType with
  | some .bearer | some .apiKey => authenticateBearer runtime storedHash request
  | some .hmac =>
      (authenticateHmacV1 runtime storedHash request).rescue fun error => do
        recordConnectorAuthFailure runtime error.message
        raise error
  | _ => raise (.http 401 "Unsupported connector auth type")

def authenticateConnector (request : WebhookRequest) : CaseProcedure Unit := do
  let connector ← currentConnector
  if connector.status ≠ .enabled then refuseAuth runtime "connector disabled" "Connector is disabled"
  else if connector.authType = some .none then raise (.http 401 "Connector webhook auth type NONE is not allowed")
  else if secretConfigured connector = false then
    refuseAuth runtime "missing connector secret" "Connector secret is not configured"
  else do
    checkCredentials runtime connector.authType (strOf runtime (connector.config.value "secret_hash")) request
    recordConnectorAuthSuccess runtime

end Authentication

section Actions

def maxWebhookMetadataKeys : Nat := 50

/-- `_provider_for_connector`. -/
def providerForConnector (connector : AgentConnector) : AgentProvider :=
  match connector.providerLabel with
  | some .chatgpt => .chatgpt
  | some .claude => .claude
  | some .cursor => .cursor
  | some .codex => .codex
  | _ => .other

variable {σ : Type}

/-- `_assert_connector_action`; a null list of actions cannot be iterated. -/
def assertConnectorAction (connector : AgentConnector) (action : AgentAction) : Procedure σ Raised Unit := do
  let allowed ← found connector.allowedActions internalError
  demand (allowed.contains action = true) (.http 403 s!"Connector is not allowed to perform {action.value}")

def assertConnectorScope (connector : AgentConnector) (projectId repository : Option String) :
    Procedure σ Raised Unit := do
  demand (outsideAllowList projectId (connector.allowedProjectIds.getD []) = false)
    (.http 403 "Connector is not allowed for this project")
  demand (outsideAllowList repository (connector.allowedRepositories.getD []) = false)
    (.http 403 "Connector is not allowed for this repository")

/-- The metadata of a payload with what the connector adds to it. -/
def safeMetadata (connector : AgentConnector) (metadata : List (String × Document)) : Procedure σ Raised Config := do
  demand (metadata.length ≤ maxWebhookMetadataKeys) (.http 400 "Connector metadata has too many keys")
  let added : List (String × Document) :=
    [("connector_id", .text connector.id),
      ("connector_name", .ofText connector.name),
      ("connector_provider_label", .ofText (connector.providerLabel.map (·.value))),
      ("connector_type", .ofText (connector.connectorType.map (·.value))),
      ("connector_webhook", .flag true)]
  return (metadata ++ added).foldl (fun config field => config.set field.1 field.2) .empty

structure ConnectorWebhookResponse where
  action : AgentAction
  connectorId : String
  taskId : String
  eventId : String
  message : String

/-- File an event of a task under a new identifier. -/
def fileTaskEvent (taskId : String) (eventType : AgentTaskEventType) (message : String)
    (status : Option AgentTaskStatus) (actor : String) (metadata : List (String × Document)) :
    ConnectorProcedure String := do
  let createdAt ← readClock runtime.toRuntime
  .update fun store =>
    let id := runtime.newId "agent_task_event" store.agentTaskEvents.keys
    let event : AgentTaskEvent := { id, taskId, eventType, message, status, actor, metadata, createdAt }
    (id, { store with agentTaskEvents := store.agentTaskEvents.set id event })

def createTaskFromConnector (connector : AgentConnector) (payload : ConnectorWebhookPayload) :
    ConnectorProcedure ConnectorWebhookResponse := do
  assertConnectorAction connector .createAgentTask
  demand (Text.present payload.projectId = true) (.http 400 "project_id is required for CREATE_AGENT_TASK")
  let store ← Procedure.state
  demand (payload.projectId.getD "" ∈ store.projects) (.http 404 "Project not found")
  demand (Text.present payload.title = true ∧ Text.present payload.goal = true)
    (.http 400 "title and goal are required for CREATE_AGENT_TASK")
  assertConnectorScope connector payload.projectId payload.repository
  let metadata ← safeMetadata connector payload.metadata
  let createdAt ← readClock runtime.toRuntime
  let updatedAt ← readClock runtime.toRuntime
  let taskId ← Procedure.update fun store =>
    let id := runtime.newId "agent_task" store.agentTasks.keys
    let task : ConnectorTask :=
      { id
        provider := providerForConnector connector
        projectId := payload.projectId
        title := Text.strip (payload.title.getD "")
        goal := Text.strip (payload.goal.getD "")
        sourceUrl := payload.sourceUrl
        sourceSessionId := payload.sourceSessionId
        sourceTaskId := payload.sourceTaskId
        repository := payload.repository
        branchPreference := payload.branchPreference
        status := .received
        externalAgentId := some connector.id
        externalAgentName := connector.name
        approvalRequestId := none
        workerLeaseOwner := none
        workerLeaseExpiresAt := none
        workerLeaseToken := none
        createdAt
        updatedAt
        context := payload.context
        requestedAction := payload.requestedAction
        riskHint := payload.riskHint
        requiresApproval := payload.requiresApproval
        metadata
        createdByUserId := none }
    (id, { store with agentTasks := store.agentTasks.set id task })
  let eventId ← fileTaskEvent runtime taskId .taskCreated "AgentTask created by generic connector webhook."
    (some .received) ("connector:" ++ connector.id)
    [("connector_id", .text connector.id), ("connector_webhook", .flag true)]
  return { action := .createAgentTask, connectorId := connector.id, taskId, eventId, message := "AgentTask created" }

/-- The task belongs to the connector. -/
def ownsTask (connector : AgentConnector) (task : ConnectorTask) : Bool :=
  task.externalAgentId == some connector.id || task.metadata.value "connector_id" == .text connector.id

/-- `task.status = payload.status`, where the payload has one. -/
def assignStatus (taskId : String) : Option AgentTaskStatus → ConnectorProcedure Unit
  | some status => do
      let updatedAt ← readClock runtime.toRuntime
      .modify fun store =>
        { store with agentTasks := store.agentTasks.adjust taskId fun task => { task with status, updatedAt } }
  | none => pure ()

/-- The status is assigned before the metadata is checked. -/
def appendTaskEventFromConnector (connector : AgentConnector) (payload : ConnectorWebhookPayload) :
    ConnectorProcedure ConnectorWebhookResponse := do
  assertConnectorAction connector .appendAgentTaskEvent
  demand (Text.present payload.taskId = true) (.http 400 "task_id is required for APPEND_AGENT_TASK_EVENT")
  let taskId := payload.taskId.getD ""
  let store ← Procedure.state
  let task ← found (store.agentTasks.get? taskId) (.http 404 "Agent task not found")
  demand (ownsTask connector task = true) (.http 403 "Connector is not allowed for this task")
  assertConnectorScope connector task.projectId task.repository
  assignStatus runtime taskId payload.status
  let metadata ← safeMetadata connector payload.metadata
  let eventId ← fileTaskEvent runtime task.id payload.eventType payload.message payload.status
    ("connector:" ++ connector.id) metadata.rows
  return { action := .appendAgentTaskEvent, connectorId := connector.id, taskId := task.id, eventId
           message := "AgentTask event appended" }

end Actions

section Webhook

def connectorOr404 (connectorId : String) : ConnectorProcedure AgentConnector := do
  let store ← Procedure.state
  found (store.connectors.get? connectorId) (.http 404 "Connector not found")

/-- The action that a payload asks for; only the errors of the service itself are recorded. -/
def performAction (connectorId : String) (payload : ConnectorWebhookPayload) :
    ConnectorProcedure ConnectorWebhookResponse := do
  let connector ← connectorOr404 connectorId
  let action : ConnectorProcedure ConnectorWebhookResponse :=
    match payload.action with
    | .createAgentTask => createTaskFromConnector runtime connector payload
    | .appendAgentTaskEvent => appendTaskEventFromConnector runtime connector payload
    | other => raise (.http 403 s!"Connector webhook action is not supported: {other.value}")
  action.rescue fun error => do
    onlyIf (error ≠ internalError) (onConnector connectorId (recordConnectorAuthFailure runtime error.message))
    raise error

/-- The part of `handle_connector_webhook` behind authentication and rate limit. -/
def handlePayload (connectorId : String) (request : WebhookRequest) : ConnectorProcedure ConnectorWebhookResponse := do
  let connector ← connectorOr404 connectorId
  match (runtime.parseJson request.body).bind (readPayload runtime connector none) with
  | some payload => performAction runtime connectorId payload
  | none => do
      onConnector connectorId (recordConnectorAuthFailure runtime "invalid webhook payload")
      raise (.http 400 "Invalid connector webhook payload")

def admitRequest (request : WebhookRequest) : CaseProcedure Unit := do
  authenticateConnector runtime request
  enforceConnectorRateLimit runtime

/-- `connector_webhook` with `handle_connector_webhook`. -/
def handleConnectorWebhook (connectorId : String) (request : WebhookRequest) :
    ConnectorProcedure ConnectorWebhookResponse := do
  onConnector connectorId (admitRequest runtime request)
  handlePayload runtime connectorId request

end Webhook

end ControlTower.Connectors
