import ControlTower.Foundation.Table
import ControlTower.Models

/-! The MCP gateway's records: registered child servers with their tools, tool
calls, and the requests that wait for an approval. -/

set_option autoImplicit false

namespace ControlTower

open Foundation

structure MCPToolDefinition where
  name : String
  inputSchema : Document
  mutating : Bool
  deriving DecidableEq

structure MCPChildServer where
  id : String
  projectId : String
  name : String
  transport : String
  endpoint : String
  enabled : Bool
  tools : List MCPToolDefinition
  deriving DecidableEq

inductive MCPPendingStatus where
  | waitingForApproval | forwarding | forwarded | blockedByDecision | orphaned | deadLetter
  deriving DecidableEq, Repr

def MCPPendingStatus.value : MCPPendingStatus → String
  | .waitingForApproval => "WAITING_FOR_APPROVAL"
  | .forwarding => "FORWARDING"
  | .forwarded => "FORWARDED"
  | .blockedByDecision => "BLOCKED_BY_DECISION"
  | .orphaned => "ORPHANED"
  | .deadLetter => "DEAD_LETTER"

def finalPendingStatuses : List MCPPendingStatus := [.forwarded, .blockedByDecision, .orphaned, .deadLetter]

/-- The statuses from which the retry route refuses to bring a request back. -/
def closedPendingStatuses : List MCPPendingStatus := [.forwarded, .blockedByDecision, .orphaned]

structure MCPPendingRequest where
  id : String
  projectId : String
  approvalRequestId : String
  serverName : String
  toolName : String
  arguments : List (String × Document)
  sessionId : Option String
  requestedBy : String
  status : MCPPendingStatus
  attempts : Nat
  maxAttempts : Nat
  leaseOwner : Option String
  leaseExpiresAt : Option Instant
  lastError : Option String
  createdAt : Instant
  updatedAt : Instant
  deriving DecidableEq

structure MCPGatewayToolCall where
  serverName : String
  toolName : String
  arguments : List (String × Document)
  sessionId : Option String
  requestedBy : String
  mutating : Option Bool
  deriving DecidableEq

/-- `model_dump` of a tool call. -/
def MCPGatewayToolCall.document (call : MCPGatewayToolCall) : Document :=
  .object [
    ("arguments", .object call.arguments),
    ("mutating", match call.mutating with
      | some flag => .flag flag
      | none => .null),
    ("requested_by", .text call.requestedBy),
    ("server_name", .text call.serverName),
    ("session_id", .ofText call.sessionId),
    ("tool_name", .text call.toolName)]

structure MCPGatewayDecision where
  forwarded : Bool
  approvalRequired : Bool
  approvalRequestId : Option String
  status : Option ApprovalStatus
  result : Option Document
  reason : String
  deriving DecidableEq

/-- The collections that the MCP routes use, with the calls that the gateway of
each project keeps in memory under the identifier of their approval. -/
structure McpStore where
  ticks : Nat
  projects : List String
  mcpChildServers : Table String MCPChildServer
  approvalRequests : Table String ApprovalRequest
  mcpPendingRequests : Table String MCPPendingRequest
  gateways : Table String (Table String MCPGatewayToolCall)

instance : Clocked McpStore where
  ticks := McpStore.ticks
  tick store := { store with ticks := store.ticks + 1 }

abbrev McpProcedure := Procedure McpStore Raised

/-- The child server of a call: the first enabled server of that name in any project. -/
def McpStore.findRegisteredServer (store : McpStore) (serverName : String) : Option MCPChildServer :=
  store.mcpChildServers.values.find? fun server => server.name == serverName && server.enabled

/-- The registered server that receives a call. Without one the call goes to the
built-in test server; an unknown transport or a missing endpoint answers in the
place of the server. -/
def McpStore.reached (store : McpStore) (call : MCPGatewayToolCall) : Option MCPChildServer :=
  match store.findRegisteredServer call.serverName with
  | none => none
  | some server =>
      if server.transport = "test" then some server
      else if server.transport = "http" ∨ server.transport = "http-jsonrpc" then
        if server.endpoint = "" then none else some server
      else none

/-- Whether a server registers a tool of this name as mutating. -/
def MCPChildServer.registersMutating (server : MCPChildServer) (toolName : String) : Bool :=
  server.tools.any fun tool => tool.name == toolName && tool.mutating

/-- The first pending request of an approval. -/
def McpStore.pendingForApproval (store : McpStore) (approvalRequestId : String) : Option MCPPendingRequest :=
  store.mcpPendingRequests.values.find? fun pending => pending.approvalRequestId == approvalRequestId

end ControlTower
