import ControlTower.Connector.Webhook
import ControlTower.Foundation.Machine

/-! The routes of the connectors. Creation validates the name and the addresses of a
connector; a change assigns whatever the looser request model accepts. -/

set_option autoImplicit false

namespace ControlTower.Connectors

open Foundation
open Foundation.Procedure

section Validators

def maxNameLength : Nat := 120

def maxUrlLength : Nat := 500

/-- A name as creation stores it. -/
structure ConnectorName (name : String) : Prop where
  trimmed : Text.strip name = name
  present : name ≠ ""
  short : name.length ≤ maxNameLength

def localOrSecure (url : String) : Bool :=
  Text.startsWith url "https://" || Text.startsWith url "http://localhost" || Text.startsWith url "http://127.0.0.1"

/-- An address as creation stores it. -/
structure ConnectorUrl (url : String) : Prop where
  trimmed : Text.strip url = url
  present : url ≠ ""
  short : url.length ≤ maxUrlLength
  reachable : localOrSecure url = true

theorem name_strip {name : String} (present : Text.strip name ≠ "") (short : (Text.strip name).length ≤ maxNameLength) :
    ConnectorName (Text.strip name) :=
  ⟨Text.strip_strip name, present, short⟩

theorem url_strip {url : String} (present : Text.strip url ≠ "") (short : (Text.strip url).length ≤ maxUrlLength)
    (reachable : localOrSecure (Text.strip url) = true) : ConnectorUrl (Text.strip url) :=
  ⟨Text.strip_strip url, present, short, reachable⟩

/-- A missing address. -/
theorem url_absent (url : String) (absent : (none : Option String) = some url) : ConnectorUrl url := by
  cases absent

theorem url_present {cleaned : String} (canonical : ConnectorUrl cleaned) (url : String)
    (same : some cleaned = some url) : ConnectorUrl url := by
  cases same
  exact canonical

def validateName (value : String) : Except String { name : String // ConnectorName name } :=
  if present : Text.strip value ≠ "" then
    if short : (Text.strip value).length ≤ maxNameLength then .ok ⟨Text.strip value, name_strip present short⟩
    else .error "Connector name is too long"
  else .error "Connector name is required"

abbrev CheckedUrl := { url : Option String // ∀ value, url = some value → ConnectorUrl value }

def validateUrl : Option String → Except String CheckedUrl
  | none => .ok ⟨none, url_absent⟩
  | some value =>
      if present : Text.strip value ≠ "" then
        if short : (Text.strip value).length ≤ maxUrlLength then
          if reachable : localOrSecure (Text.strip value) = true then
            .ok ⟨some (Text.strip value), url_present (url_strip present short reachable)⟩
          else .error "Connector URL must be https or local development HTTP"
        else .error "Connector URL is too long"
      else .ok ⟨none, url_absent⟩

end Validators

section Payloads

/-- A number of requests for each minute that both request models accept. -/
abbrev RateLimit := { limit : Int // 1 ≤ limit ∧ limit ≤ 1000 }

/-- The body of `POST /connectors` before its validators run. -/
structure ConnectorCreate where
  name : String
  connectorType : ConnectorType
  providerLabel : ConnectorProviderLabel
  endpointUrl : Option String
  callbackUrl : Option String
  authType : ConnectorAuthType
  allowedProjectIds : List String
  allowedRepositories : List String
  allowedActions : List AgentAction
  rateLimitPerMinute : RateLimit
  enabled : Bool
  config : Config

/-- The body of `PATCH /connectors/{id}`: a field is left out, null, or has a value. -/
structure ConnectorUpdate where
  name : Option (Option String)
  connectorType : Option (Option ConnectorType)
  providerLabel : Option (Option ConnectorProviderLabel)
  endpointUrl : Option (Option String)
  callbackUrl : Option (Option String)
  authType : Option (Option ConnectorAuthType)
  allowedProjectIds : Option (Option (List String))
  allowedRepositories : Option (Option (List String))
  allowedActions : Option (Option (List AgentAction))
  rateLimitPerMinute : Option (Option RateLimit)
  enabled : Option (Option Bool)
  config : Option (Option Config)

end Payloads

section Changes

variable (runtime : ConnectorRuntime)

/-- `{**first, **second}`. -/
def mergeConfig (first second : Config) : Config :=
  second.rows.foldl (fun config field => config.set field.1 field.2) first

/-- The loop over the fields that were sent. -/
def assignFields (payload : ConnectorUpdate) (connector : AgentConnector) : AgentConnector :=
  { connector with
    name := payload.name.getD connector.name
    connectorType := payload.connectorType.getD connector.connectorType
    providerLabel := payload.providerLabel.getD connector.providerLabel
    endpointUrl := payload.endpointUrl.getD connector.endpointUrl
    callbackUrl := payload.callbackUrl.getD connector.callbackUrl
    authType := payload.authType.getD connector.authType
    allowedProjectIds := payload.allowedProjectIds.getD connector.allowedProjectIds
    allowedRepositories := payload.allowedRepositories.getD connector.allowedRepositories
    allowedActions := payload.allowedActions.getD connector.allowedActions
    rateLimitPerMinute := (payload.rateLimitPerMinute.map fun limit => limit.map (·.val)).getD connector.rateLimitPerMinute
    status := match payload.enabled with
      | some value => if value.getD false then .enabled else .disabled
      | none => connector.status
    healthStatus := match payload.enabled with
      | some value => if value.getD false then .unknown else .disabled
      | none => connector.healthStatus
    config := match payload.config with
      | some value => mergeConfig connector.config (value.getD .empty)
      | none => connector.config }

/-- `_validate_scopes`. -/
def validateScopes (projectIds : List String) : ConnectorProcedure Unit := do
  let store ← Procedure.state
  demand (∀ projectId ∈ projectIds, projectId ∈ store.projects) (.http 404 "Project scope not found")

def validated {α : Type} (field : String) : Except String α → ConnectorProcedure α
  | .ok value => pure value
  | .error message => raise (.http 422 (field ++ ": " ++ message))

def createConnector (payload : ConnectorCreate) (user : AuthUser) : ConnectorProcedure AgentConnector := do
  let name ← validated "name" (validateName payload.name)
  let endpointUrl ← validated "endpoint_url" (validateUrl payload.endpointUrl)
  let callbackUrl ← validated "callback_url" (validateUrl payload.callbackUrl)
  validateScopes payload.allowedProjectIds
  let createdAt ← readClock runtime.toRuntime
  let updatedAt ← readClock runtime.toRuntime
  .update fun store =>
    let id := runtime.newId "connector" store.connectors.keys
    let connector : AgentConnector :=
      { id
        name := some name.val
        connectorType := some payload.connectorType
        providerLabel := some payload.providerLabel
        endpointUrl := endpointUrl.val
        callbackUrl := callbackUrl.val
        authType := some payload.authType
        status := if payload.enabled then .enabled else .disabled
        healthStatus := if payload.enabled then .unknown else .disabled
        allowedProjectIds := some payload.allowedProjectIds
        allowedRepositories := some payload.allowedRepositories
        allowedActions := some payload.allowedActions
        rateLimitPerMinute := some payload.rateLimitPerMinute.val
        secretRef := none
        lastUsedAt := none
        lastHealthCheckAt := none
        failedAuthCount := 0
        lastError := none
        createdByUserId := some user.id
        config := payload.config
        createdAt
        updatedAt }
    (connector, { store with connectors := store.connectors.set id connector })

def updateConnector (connectorId : String) (payload : ConnectorUpdate) : ConnectorProcedure Unit := do
  validateScopes ((payload.allowedProjectIds.getD none).getD [])
  onConnector connectorId do
    changeConnector (assignFields payload)
    let updatedAt ← readClock runtime.toRuntime
    changeConnector fun connector => { connector with updatedAt }

def disableConnector : CaseProcedure Unit := do
  let updatedAt ← readClock runtime.toRuntime
  changeConnector fun connector => { connector with status := .disabled, healthStatus := .disabled, updatedAt }

def enableConnector : CaseProcedure Unit := do
  let updatedAt ← readClock runtime.toRuntime
  changeConnector fun connector => { connector with status := .enabled, healthStatus := .unknown, updatedAt }

/-- The last eight characters of a secret. -/
def secretHint (secret : String) : String := String.ofList (secret.toList.drop (secret.length - 8))

/-- Issue a secret, or another one in the place of the first. -/
def issueConnectorSecret (secretId : String) : CaseProcedure String := do
  let token ← drawSecret runtime.toRuntime
  let rawSecret := "aixion_connector_" ++ token
  let rotatedAt ← readClock runtime.toRuntime
  let updatedAt ← readClock runtime.toRuntime
  changeConnector fun connector =>
    { connector with
      secretRef := some ("connector_secret_" ++ secretId)
      config := (((connector.config.set "secret_hash" (.text (runtime.hashSecret rawSecret))).set
        "secret_hint" (.text (secretHint rawSecret))).set "secret_revoked_at" .null).set
        "secret_rotated_at" (.text (runtime.isoformat rotatedAt))
      updatedAt }
  return rawSecret

def revokeConnectorSecret : CaseProcedure Unit := do
  let revokedAt ← readClock runtime.toRuntime
  let updatedAt ← readClock runtime.toRuntime
  changeConnector fun connector =>
    { connector with
      secretRef := none
      config := ((connector.config.set "secret_hash" .null).set "secret_hint" .null).set
        "secret_revoked_at" (.text (runtime.isoformat revokedAt))
      updatedAt }

def updateConnectorMapper (mapper : SchemaMapper) : CaseProcedure Unit := do
  changeConnector fun connector => { connector with config := connector.config.set "schema_mapper" mapper.dump }
  let updatedAt ← readClock runtime.toRuntime
  changeConnector fun connector => { connector with updatedAt }

def markConnectorSuccess : CaseProcedure Unit := do
  recordConnectorAuthSuccess runtime
  markConnectorHealthCheck runtime true ""

def markConnectorFailure (note : String) : CaseProcedure Unit := do
  let reason := Text.orElse note "manual health failure"
  recordConnectorAuthFailure runtime reason
  markConnectorHealthCheck runtime false reason

end Changes

/-- What the connector routes are asked for; a secret comes with the identifier it gets. -/
inductive ConnectorRequest where
  | create (payload : ConnectorCreate) (user : AuthUser)
  | update (connectorId : String) (payload : ConnectorUpdate)
  | disable (connectorId : String)
  | enable (connectorId : String)
  | issueSecret (connectorId secretId : String)
  | rotateSecret (connectorId secretId : String)
  | revokeSecret (connectorId : String)
  | setMapper (connectorId : String) (mapper : SchemaMapper)
  | healthSuccess (connectorId : String)
  | healthFailure (connectorId note : String)
  | webhook (connectorId : String) (request : WebhookRequest)

def ConnectorRequest.run (runtime : ConnectorRuntime) : ConnectorRequest → ConnectorProcedure Unit
  | .create payload user => do
      let _ ← createConnector runtime payload user
  | .update connectorId payload => updateConnector runtime connectorId payload
  | .disable connectorId => onConnector connectorId (disableConnector runtime)
  | .enable connectorId => onConnector connectorId (enableConnector runtime)
  | .issueSecret connectorId secretId | .rotateSecret connectorId secretId => do
      let _ ← onConnector connectorId (issueConnectorSecret runtime secretId)
  | .revokeSecret connectorId => onConnector connectorId (revokeConnectorSecret runtime)
  | .setMapper connectorId mapper => onConnector connectorId (updateConnectorMapper runtime mapper)
  | .healthSuccess connectorId => onConnector connectorId (markConnectorSuccess runtime)
  | .healthFailure connectorId note => onConnector connectorId (markConnectorFailure runtime note)
  | .webhook connectorId request => do
      let _ ← handleConnectorWebhook runtime connectorId request

def connectorMachine (runtime : ConnectorRuntime) : Machine ConnectorStore ConnectorRequest where
  initial store := store.connectors = .empty
  next store request := ((request.run runtime).run store).2

end ControlTower.Connectors
