import ControlTower.Foundation.Machine
import ControlTower.Durable.Store

/-! The connector routes over the durable store, with every other write of the
application as a request of its own. A connector is changed attribute by
attribute, without a validation; only loading validates it. -/

set_option autoImplicit false

namespace ControlTower.Durable

open Foundation
open Foundation.Procedure (demand found)

structure DurableState where
  ticks : Nat
  memory : DurableStore
  disk : KvStore

instance : Clocked DurableState where
  ticks := DurableState.ticks
  tick state := { state with ticks := state.ticks + 1 }

abbrev DurableProcedure := Procedure DurableState Raised

/-- A value of an enumeration. -/
abbrev OneOf (values : List String) := { value : String // value ∈ values }

/-- An object of a request body; JSON has no point in time. -/
abbrev JsonObject := { fields : List (String × Document) // Document.holdsInstantFields fields = false }

/-- The validated body of `POST /connectors`. -/
structure ConnectorCreate where
  name : String
  connectorType : OneOf connectorTypes
  providerLabel : OneOf connectorProviderLabels
  endpointUrl : Option String
  callbackUrl : Option String
  authType : OneOf connectorAuthTypes
  allowedProjectIds : List String
  allowedRepositories : List String
  allowedActions : List (OneOf agentActions)
  rateLimitPerMinute : Nat
  enabled : Bool
  config : JsonObject

/-- The validated body of `PATCH /connectors/{id}`: a field is left out, null, or has a value. -/
structure ConnectorUpdate where
  name : Option (Option String)
  connectorType : Option (Option (OneOf connectorTypes))
  providerLabel : Option (Option (OneOf connectorProviderLabels))
  endpointUrl : Option (Option String)
  callbackUrl : Option (Option String)
  authType : Option (Option (OneOf connectorAuthTypes))
  allowedProjectIds : Option (Option (List String))
  allowedRepositories : Option (Option (List String))
  allowedActions : Option (Option (List (OneOf agentActions)))
  rateLimitPerMinute : Option (Option Nat)
  enabled : Option (Option Bool)
  config : Option (Option JsonObject)

/-- A field of a dump that was sent. -/
def sent {α : Type} (name : String) (document : α → Document) : Option (Option α) → List (String × Document)
  | none => []
  | some none => [(name, .null)]
  | some (some value) => [(name, document value)]

def ofOneOf {values : List String} (value : OneOf values) : Document := .text value.val

def ofActions (actions : List (OneOf agentActions)) : Document := .ofTexts (actions.map (·.val))

def ofCount (count : Nat) : Document := .number count

def ofJson (json : JsonObject) : Document := .object json.val

/-- `payload.model_dump(exclude_unset=True)`. -/
def ConnectorUpdate.dump (update : ConnectorUpdate) : List (String × Document) :=
  sent "name" .text update.name ++ sent "connector_type" ofOneOf update.connectorType ++
    sent "provider_label" ofOneOf update.providerLabel ++ sent "endpoint_url" .text update.endpointUrl ++
    sent "callback_url" .text update.callbackUrl ++ sent "auth_type" ofOneOf update.authType ++
    sent "allowed_project_ids" .ofTexts update.allowedProjectIds ++
    sent "allowed_repositories" .ofTexts update.allowedRepositories ++
    sent "allowed_actions" ofActions update.allowedActions ++
    sent "rate_limit_per_minute" ofCount update.rateLimitPerMinute ++ sent "enabled" .flag update.enabled ++
    sent "config" ofJson update.config

/-- `setattr` on a record. -/
def assign (name : String) (value : Document) : Document → Document
  | .object fields => .object (fields.map fun field => if field.1 = name then (name, value) else field)
  | other => other

def getAttribute (record : Document) (name : String) : Document := (record.field name).getD .null

/-- `{**first, **second}`. -/
def mergeFields (first : List (String × Document)) : List (String × Document) → List (String × Document)
  | [] => first
  | (name, value) :: rest =>
      mergeFields
        (if (first.lookup name).isSome then
          first.map fun field => if field.1 = name then (name, value) else field
        else first ++ [(name, value)])
        rest

def fieldsOf : Document → List (String × Document)
  | .object fields => fields
  | _ => []

def enabledStatus (enabled : Bool) : Document := .text (if enabled then "ENABLED" else "DISABLED")

def enabledHealth (enabled : Bool) : Document := .text (if enabled then "UNKNOWN" else "DISABLED")

/-- The body of the loop over the sent fields. -/
def updateField (connector : Document) (field : String × Document) : Document :=
  if field.1 = "enabled" then
    assign "health_status" (enabledHealth field.2.truthy) (assign "status" (enabledStatus field.2.truthy) connector)
  else if field.1 = "config" then
    assign "config" (.object (mergeFields (fieldsOf (getAttribute connector "config")) (fieldsOf field.2))) connector
  else if (connector.field field.1).isSome then assign field.1 field.2 connector
  else connector

/-- `_connector_details`. -/
def connectorDetails (connector : Document) : List (String × Document) :=
  (["name", "connector_type", "provider_label", "auth_type", "status", "health_status", "allowed_project_ids",
      "allowed_repositories", "allowed_actions", "rate_limit_per_minute"].map fun name => (name, getAttribute connector name)) ++
    [("secret_configured", .flag ((getAttribute connector "secret_ref").truthy &&
      (((getAttribute connector "config").field "secret_hash").getD .null).truthy))]

def newConnector (id : String) (payload : ConnectorCreate) (user : AuthUser) (createdAt updatedAt : Instant) : Document :=
  .object [
    ("id", .text id),
    ("name", .text payload.name),
    ("connector_type", ofOneOf payload.connectorType),
    ("provider_label", ofOneOf payload.providerLabel),
    ("endpoint_url", .ofText payload.endpointUrl),
    ("callback_url", .ofText payload.callbackUrl),
    ("auth_type", ofOneOf payload.authType),
    ("status", enabledStatus payload.enabled),
    ("health_status", enabledHealth payload.enabled),
    ("allowed_project_ids", .ofTexts payload.allowedProjectIds),
    ("allowed_repositories", .ofTexts payload.allowedRepositories),
    ("allowed_actions", ofActions payload.allowedActions),
    ("rate_limit_per_minute", ofCount payload.rateLimitPerMinute),
    ("secret_ref", .null),
    ("last_used_at", .null),
    ("last_health_check_at", .null),
    ("failed_auth_count", .number 0),
    ("last_error", .null),
    ("created_by_user_id", .text user.id),
    ("config", .object payload.config.val),
    ("created_at", .instant createdAt),
    ("updated_at", .instant updatedAt)]

variable (runtime : Runtime) (dialect : Dialect)

def setRecord (kind : EntityType) (id : String) (record : Document) : DurableProcedure Unit :=
  .modify fun state => { state with
    memory := { state.memory with maps := Function.update state.memory.maps kind ((state.memory.maps kind).set id record) } }

/-- The identifier of the next entry of the audit log. -/
def nextAuditId (store : DurableStore) : String := runtime.newId "audit" (store.auditEvents.map (·.id))

/-- `_audit`. -/
def audit (eventType entityId : String) (details : List (String × Document)) (actor : String) :
    DurableProcedure Unit := do
  let createdAt ← readClock runtime
  .modify fun state => { state with
    memory := { state.memory with
      auditEvents := state.memory.auditEvents ++
        [{ id := nextAuditId runtime state.memory, eventType, actor, entityId, details, createdAt }] } }

/-- `store.persist()`; an error of the database leaves the tables as they were. -/
def persistStore : DurableProcedure Unit := do
  let state ← Procedure.state
  match persist dialect state.memory with
  | some rows => .modify fun state => { state with disk := rows }
  | none => .raise (.http 500 "Internal Server Error")

/-- `_validate_scopes`. -/
def validateScopes (projectIds : List String) : DurableProcedure Unit := do
  let state ← Procedure.state
  demand (projectIds.all fun id => ((state.memory.maps .project).get? id).isSome) (.http 404 "Project scope not found")

def getConnector (connectorId : String) : DurableProcedure Document := do
  let state ← Procedure.state
  found ((state.memory.maps .agentConnector).get? connectorId) (.http 404 "Connector not found")

def createConnector (payload : ConnectorCreate) (user : AuthUser) : DurableProcedure Unit := do
  validateScopes payload.allowedProjectIds
  let createdAt ← readClock runtime
  let updatedAt ← readClock runtime
  let state ← Procedure.state
  let id := runtime.newId "connector" (state.memory.maps .agentConnector).keys
  let connector := newConnector id payload user createdAt updatedAt
  setRecord .agentConnector id connector
  audit runtime "connector.created" id (connectorDetails connector) user.email
  persistStore dialect

def updateConnector (connectorId : String) (payload : ConnectorUpdate) (user : AuthUser) : DurableProcedure Unit := do
  validateScopes ((payload.allowedProjectIds.getD none).getD [])
  let connector ← getConnector connectorId
  let updatedAt ← readClock runtime
  let changed := assign "updated_at" (.instant updatedAt) (payload.dump.foldl updateField connector)
  setRecord .agentConnector connectorId changed
  audit runtime "connector.updated" connectorId
    [("previous_status", getAttribute connector "status"), ("new", .object (connectorDetails changed))] user.email
  persistStore dialect

/-- `POST /connectors/{id}/enable` and `POST /connectors/{id}/disable`. -/
def switchConnector (enabled : Bool) (connectorId : String) (user : AuthUser) : DurableProcedure Unit := do
  let connector ← getConnector connectorId
  let updatedAt ← readClock runtime
  let switched := assign "health_status" (enabledHealth enabled) (assign "status" (enabledStatus enabled) connector)
  setRecord .agentConnector connectorId (assign "updated_at" (.instant updatedAt) switched)
  audit runtime (if enabled then "connector.enabled" else "connector.disabled") connectorId
    [("previous_status", getAttribute connector "status"), ("new_status", enabledStatus enabled)] user.email
  persistStore dialect

/-- The requests: the connector routes, and single effects of all other routes. -/
inductive DurableRequest where
  | createConnector (payload : ConnectorCreate) (user : AuthUser)
  | updateConnector (connectorId : String) (payload : ConnectorUpdate) (user : AuthUser)
  | switchConnector (enabled : Bool) (connectorId : String) (user : AuthUser)
  /-- A route stores a record of a collection. -/
  | write (kind : EntityType) (id : String) (record : Document)
  | remove (kind : EntityType) (id : String)
  /-- A route appends to the audit log. -/
  | append (event : AuditEvent)
  | persist
  /-- The process starts again and loads the tables. -/
  | restart

def durableNext (state : DurableState) : DurableRequest → DurableState
  | .createConnector payload user => ((createConnector runtime dialect payload user).run state).2
  | .updateConnector connectorId payload user => ((updateConnector runtime dialect connectorId payload user).run state).2
  | .switchConnector enabled connectorId user => ((switchConnector runtime dialect enabled connectorId user).run state).2
  | .write kind id record => ((setRecord kind id record).run state).2
  | .remove kind id =>
      { state with
        memory := { state.memory with
          maps := Function.update state.memory.maps kind ((state.memory.maps kind).keep (· != id)) } }
  | .append event => { state with memory := { state.memory with auditEvents := state.memory.auditEvents ++ [event] } }
  | .persist => ((persistStore dialect).run state).2
  | .restart =>
      match load dialect state.disk with
      | some loaded => { state with memory := loaded }
      | none => state

/-- The first start of the application. -/
structure DurableState.Fresh (state : DurableState) : Prop where
  memory : state.memory = ⟨fun _ => .empty, []⟩
  disk : state.disk = .empty

def durableMachine : Machine DurableState DurableRequest where
  initial := DurableState.Fresh
  next := durableNext runtime dialect

end ControlTower.Durable
