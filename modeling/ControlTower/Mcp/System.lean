import ControlTower.Foundation.Machine
import ControlTower.Mcp.Gateway

/-! The MCP gateway as a machine. A resolve is two steps: its checks up to the
call of the child server, and later the record of the answer. Between the two
any other request may come. A history lists what went to child servers. -/

set_option autoImplicit false

namespace ControlTower

open Foundation

/-- A resolve that waits for the answer of the child server. -/
structure Flight where
  approvalRequestId : String
  call : MCPGatewayToolCall
  deriving DecidableEq

inductive ForwardEvent where
  /-- A call went to the child server without an approval. -/
  | direct (call : MCPGatewayToolCall) (recipient : Option MCPChildServer)
  /-- A call was held for an approval. -/
  | held (approvalRequestId : String) (call : MCPGatewayToolCall)
  /-- A resolve sent a call to the child server, with the approval it had read. -/
  | called (approvalRequestId : String) (approval : ApprovalRequest) (call : MCPGatewayToolCall)
      (recipient : Option MCPChildServer)
  /-- The child server answered a call of a resolve. -/
  | answered (approvalRequestId : String) (success : Bool)
  deriving DecidableEq

structure McpSystem where
  store : McpStore
  flights : List Flight
  history : List ForwardEvent

/-- New contents for the collections that other routes write: approvals with the
decisions on them, the registry of child servers, and the projects. -/
structure McpOutsideChange where
  approvalRequests : Table String ApprovalRequest
  filed : Filed approvalRequests
  mcpChildServers : Table String MCPChildServer
  projects : List String

inductive McpStep where
  | submitRequest (projectId : String) (call : MCPGatewayToolCall)
  | toolsCall (projectId : String) (params : List (String × Document))
  | resolve (approvalRequestId : String)
  /-- The child server answers a call in flight; none stands for an exception. -/
  | finish (flight : Flight) (answer : Option Document)
  | retry (pendingRequestId : String) (payload : PendingRetryRequest)
  | outside (change : McpOutsideChange)

def applyMcpOutside (change : McpOutsideChange) (store : McpStore) : McpStore :=
  { store with
    approvalRequests := change.approvalRequests
    mcpChildServers := change.mcpChildServers
    projects := change.projects }

namespace McpSystem

/-- What a submission leaves in the history. -/
def submitted (system : McpSystem) (outcome : Except Raised SubmitOutcome × McpStore) : McpSystem :=
  match outcome.1 with
  | .ok (.forward call) =>
      { system with
        store := outcome.2
        history := system.history ++ [.direct call (outcome.2.reached call)] }
  | .ok (.held approvalRequestId call _) =>
      { system with store := outcome.2, history := system.history ++ [.held approvalRequestId call] }
  | .error _ => { system with store := outcome.2 }

def resolved (system : McpSystem) (approvalRequestId : String) (outcome : Except Raised ResolveOutcome × McpStore) :
    McpSystem :=
  match outcome.1 with
  | .ok (.forward approval call) =>
      { store := outcome.2
        flights := ⟨approvalRequestId, call⟩ :: system.flights
        history := system.history ++ [.called approvalRequestId approval call (outcome.2.reached call)] }
  | _ => { system with store := outcome.2 }

def finished (runtime : Runtime) (system : McpSystem) (flight : Flight) (answer : Option Document) : McpSystem :=
  if flight ∈ system.flights then
    match answer with
    | none => { system with flights := system.flights.erase flight }
    | some result =>
        { store := ((recordForwardResult runtime flight.approvalRequestId result).run system.store).2
          flights := system.flights.erase flight
          history := system.history ++ [.answered flight.approvalRequestId (!forwardFailed result)] }
  else system

end McpSystem

def mcpNext (runtime : Runtime) (system : McpSystem) : McpStep → McpSystem
  | .submitRequest projectId call => system.submitted ((submitGatewayRequest runtime projectId call).run system.store)
  | .toolsCall projectId params => system.submitted ((handleToolsCall runtime projectId params).run system.store)
  | .resolve approvalRequestId =>
      system.resolved approvalRequestId ((resolveGatewayRequest runtime approvalRequestId).run system.store)
  | .finish flight answer => system.finished runtime flight answer
  | .retry pendingRequestId payload =>
      { system with store := ((retryPendingGatewayRequest runtime pendingRequestId payload).run system.store).2 }
  | .outside change => { system with store := applyMcpOutside change system.store }

/-- Nothing has been submitted yet. -/
structure McpSystem.Fresh (system : McpSystem) : Prop where
  pending : system.store.mcpPendingRequests = .empty
  gateways : system.store.gateways = .empty
  filed : Filed system.store.approvalRequests
  flights : system.flights = []
  history : system.history = []

def mcpMachine (runtime : Runtime) : Machine McpSystem McpStep where
  initial := McpSystem.Fresh
  next := mcpNext runtime

section Sample

def filesServer : MCPChildServer :=
  { id := "server_1"
    projectId := "project_1"
    name := "files"
    transport := "test"
    endpoint := ""
    enabled := true
    tools := [⟨"write_file", .object [], true⟩] }

/-- One project whose registered server has one mutating tool. -/
def registeredSystem : McpSystem where
  store := ⟨0, ["project_1"], Table.empty.set "server_1" filesServer, .empty, .empty, .empty⟩
  flights := []
  history := []

theorem registeredSystem_fresh : registeredSystem.Fresh where
  pending := rfl
  gateways := rfl
  filed := by simp [Filed, registeredSystem]
  flights := rfl
  history := rfl

/-- A call of the mutating tool. -/
def writeCall (mutating : Option Bool) : MCPGatewayToolCall :=
  { serverName := "files"
    toolName := "write_file"
    arguments := []
    sessionId := none
    requestedBy := "operator"
    mutating }

/-- The identifier that the approval of the first held call gets. -/
def heldApprovalId : String := "approval_"

/-- That approval after its approver has sealed it. -/
def approvedCall (runtime : Runtime) : ApprovalRequest :=
  let requested := newMcpApproval runtime registeredSystem.store "project_1" (writeCall none) 0 0
  { requested with
    status := .approved
    approvedPayloadHash := some (computeApprovalPayloadHash runtime requested) }

def approveCall (runtime : Runtime) : McpStep :=
  .outside {
    approvalRequests := Table.empty.set (approvedCall runtime).id (approvedCall runtime)
    filed := by
      intro approvalId approval found
      rw [Table.get?_set] at found
      split at found
      · next same =>
        cases found
        exact same.symm
      · cases found
    mcpChildServers := registeredSystem.store.mcpChildServers
    projects := registeredSystem.store.projects }

end Sample

end ControlTower
