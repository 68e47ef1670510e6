import ControlTower.Foundation.Table
import ControlTower.Foundation.Text
import ControlTower.Models
import ControlTower.Task.Event

/-! Connectors of outside tools. The attributes of a stored connector can be null,
because a change of a connector assigns what the request sent. -/

set_option autoImplicit false

namespace ControlTower.Connectors

open Foundation
open Foundation.Procedure

/-- A date and time in microseconds since the epoch, as the clock of its offset shows it. -/
structure DateTime where
  wall : Int
  /-- The offset from UTC in microseconds; a naive time has none. -/
  offset : Option Int
  deriving DecidableEq

/-- The runtime with the functions that connectors need besides. -/
structure ConnectorRuntime extends Runtime where
  /-- `hash_connector_secret`. -/
  hashSecret : String → String
  /-- `hashlib.sha256(body).hexdigest()`. -/
  sha256Body : List UInt8 → String
  /-- The HMAC of a text under a key, in hexadecimal digits. -/
  hmacSha256 : String → String → String
  /-- `request.json()`; none where it raises. -/
  parseJson : List UInt8 → Option Document
  /-- `datetime.fromisoformat`; none where it raises. -/
  fromIsoformat : String → Option DateTime
  /-- `int` of a text; none where it raises. -/
  intOfText : String → Option Int
  /-- What the validation library makes of a value of a flag field. -/
  flagOf : Document → Option Bool

section Plain

/-- The number that decimal digits write. -/
def decimal (text : String) : Option Nat :=
  if text ≠ "" ∧ text.toList.all (·.isDigit) = true then
    some (text.toList.foldl (fun value digit => 10 * value + (digit.toNat - '0'.toNat)) 0)
  else none

/-- The bytes of a text of ASCII characters. -/
def asciiBytes (text : String) : List UInt8 := text.toList.map fun letter => letter.toNat.toUInt8

/-- A runtime for runs of the model, where a body is read as the payload that it stands for. -/
def ConnectorRuntime.plain (bodies : List (String × Document)) : ConnectorRuntime where
  toRuntime := Runtime.plain true
  hashSecret secret := "hashed_" ++ secret
  sha256Body body := countingDigest (body.map fun byte => Char.ofNat byte.toNat)
  hmacSha256 key text := key ++ "|" ++ text
  parseJson body := (bodies.find? fun known => asciiBytes known.1 == body).map (·.2)
  fromIsoformat text := (decimal text).map fun wall => ⟨wall, some 0⟩
  intOfText text := (decimal text).map fun value => (value : Int)
  flagOf
    | .flag value => some value
    | _ => none

end Plain

section Records

inductive ConnectorType where
  | genericHttp | webhook | mcp | localBridge | gptActions | custom
  deriving DecidableEq, Repr

def ConnectorType.value : ConnectorType → String
  | .genericHttp => "GENERIC_HTTP"
  | .webhook => "WEBHOOK"
  | .mcp => "MCP"
  | .localBridge => "LOCAL_BRIDGE"
  | .gptActions => "GPT_ACTIONS"
  | .custom => "CUSTOM"

inductive ConnectorProviderLabel where
  | openclaw | antigravity | gemini | claude | cursor | chatgpt | codex | custom
  deriving DecidableEq, Repr

def ConnectorProviderLabel.value : ConnectorProviderLabel → String
  | .openclaw => "OPENCLAW"
  | .antigravity => "ANTIGRAVITY"
  | .gemini => "GEMINI"
  | .claude => "CLAUDE"
  | .cursor => "CURSOR"
  | .chatgpt => "CHATGPT"
  | .codex => "CODEX"
  | .custom => "CUSTOM"

inductive ConnectorAuthType where
  | none | apiKey | bearer | hmac
  deriving DecidableEq, Repr

inductive ConnectorStatus where
  | enabled | disabled
  deriving DecidableEq, Repr

inductive ConnectorHealthStatus where
  | unknown | healthy | degraded | failing | disabled
  deriving DecidableEq, Repr

/-- A JSON object under the keys of a record, in the order of insertion. -/
abbrev Config := Table String Document

structure AgentConnector where
  id : String
  name : Option String
  connectorType : Option ConnectorType
  providerLabel : Option ConnectorProviderLabel
  endpointUrl : Option String
  callbackUrl : Option String
  authType : Option ConnectorAuthType
  status : ConnectorStatus
  healthStatus : ConnectorHealthStatus
  allowedProjectIds : Option (List String)
  allowedRepositories : Option (List String)
  allowedActions : Option (List AgentAction)
  rateLimitPerMinute : Option Int
  secretRef : Option String
  lastUsedAt : Option Instant
  lastHealthCheckAt : Option Instant
  failedAuthCount : Nat
  lastError : Option String
  createdByUserId : Option String
  config : Config
  createdAt : Instant
  updatedAt : Instant

inductive AgentTaskRequestedAction where
  | createWorkOrder | createApproval | reviewArchitecture | generateDocs | other
  deriving DecidableEq, Repr

def AgentTaskRequestedAction.value : AgentTaskRequestedAction → String
  | .createWorkOrder => "CREATE_WORK_ORDER"
  | .createApproval => "CREATE_APPROVAL"
  | .reviewArchitecture => "REVIEW_ARCHITECTURE"
  | .generateDocs => "GENERATE_DOCS"
  | .other => "OTHER"

/-- An agent task with the attributes that connectors read and write besides. -/
structure ConnectorTask extends AgentTask where
  context : String
  requestedAction : AgentTaskRequestedAction
  riskHint : Option RiskLevel
  requiresApproval : Bool
  metadata : Config
  createdByUserId : Option String

end Records

section Store

structure ConnectorStore where
  ticks : Nat
  /-- Identifiers of the known projects. -/
  projects : List String
  connectors : Table String AgentConnector
  agentTasks : Table String ConnectorTask
  agentTaskEvents : Table String AgentTaskEvent

instance : Clocked ConnectorStore where
  ticks := ConnectorStore.ticks
  tick store := { store with ticks := store.ticks + 1 }

abbrev ConnectorProcedure := Procedure ConnectorStore Raised

/-- One connector on its own, with the count of clock readings. -/
structure ConnectorCase where
  ticks : Nat
  connector : AgentConnector

instance : Clocked ConnectorCase where
  ticks := ConnectorCase.ticks
  tick state := { state with ticks := state.ticks + 1 }

abbrev CaseProcedure := Procedure ConnectorCase Raised

/-- Work on the connector under an identifier and store it back, also when the work raises. -/
def onConnector {α : Type} (connectorId : String) (body : CaseProcedure α) : ConnectorProcedure α where
  run store := match store.connectors.get? connectorId with
    | some connector =>
        let outcome := body.run ⟨store.ticks, connector⟩
        (outcome.1, { store with
          ticks := outcome.2.ticks
          connectors := store.connectors.set connectorId outcome.2.connector })
    | none => (.error (.http 404 "Connector not found"), store)

def currentConnector : CaseProcedure AgentConnector := do
  let state ← Procedure.state
  return state.connector

def changeConnector (change : AgentConnector → AgentConnector) : CaseProcedure Unit :=
  .modify fun state => { state with connector := change state.connector }

@[simp] theorem ends_currentConnector {state : ConnectorCase} {post : Except Raised AgentConnector → ConnectorCase → Prop} :
    currentConnector.Ends state post ↔ post (.ok state.connector) state := Iff.rfl

@[simp] theorem ends_changeConnector {change : AgentConnector → AgentConnector} {state : ConnectorCase}
    {post : Except Raised Unit → ConnectorCase → Prop} :
    (changeConnector change).Ends state post ↔ post (.ok ()) { state with connector := change state.connector } := Iff.rfl

end Store

section Values

variable (runtime : ConnectorRuntime)

/-- `str(value)`. -/
def strOf : Document → String
  | .text value => value
  | other => runtime.render other

/-- `int(value)`; none where it raises. -/
def intOf : Document → Option Int
  | .flag value => some (if value then 1 else 0)
  | .number value => some value
  | .fraction numerator denominator => some (numerator.tdiv denominator)
  | .text value => runtime.intOfText value
  | _ => none

/-- `config.get(name)`. -/
def Config.value (config : Config) (name : String) : Document := (config.get? name).getD .null

/-- An unhandled error of the language. -/
def internalError : Raised := .http 500 "Internal Server Error"

end Values

section Health

variable (runtime : ConnectorRuntime)

def recordConnectorAuthSuccess : CaseProcedure Unit := do
  let lastUsedAt ← readClock runtime.toRuntime
  let updatedAt ← readClock runtime.toRuntime
  changeConnector fun connector =>
    { connector with
      lastUsedAt := some lastUsedAt
      lastError := none
      healthStatus := if connector.status = .enabled then .healthy else connector.healthStatus
      updatedAt }

def recordConnectorAuthFailure (reason : String) : CaseProcedure Unit := do
  let updatedAt ← readClock runtime.toRuntime
  changeConnector fun connector =>
    { connector with
      failedAuthCount := connector.failedAuthCount + 1
      lastError := some reason
      healthStatus :=
        if connector.status = .enabled then if connector.failedAuthCount + 1 < 3 then .degraded else .failing
        else connector.healthStatus
      updatedAt }

def markConnectorHealthCheck (healthy : Bool) (reason : String) : CaseProcedure Unit := do
  let lastHealthCheckAt ← readClock runtime.toRuntime
  let updatedAt ← readClock runtime.toRuntime
  changeConnector fun connector =>
    { connector with
      lastHealthCheckAt := some lastHealthCheckAt
      lastError := some (if healthy then "" else reason)
      healthStatus :=
        if connector.status = .disabled then .disabled else if healthy then .healthy else .degraded
      updatedAt }

end Health

end ControlTower.Connectors
