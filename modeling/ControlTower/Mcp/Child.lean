import ControlTower.Mcp.Polling

/-! The child servers. An approved call goes to the transport of its registered
server; what the transport brings back is read as success or failure from the
member `ok` alone, and `resolve` records that reading. -/

set_option autoImplicit false

namespace ControlTower

open Foundation
open Foundation.Procedure

/-- What becomes of an HTTP request to a child server. -/
inductive HttpOutcome where
  /-- `URLError`, with its text. -/
  | urlError (reason : String)
  /-- Any other exception: a timeout of the reading, a broken connection, bytes that are no text. -/
  | exception
  | emptyBody
  /-- A body that is not JSON. -/
  | notJson (body : String)
  | json (value : Document)
  deriving DecidableEq

/-- `{"ok": ..., "server_name": ..., "tool_name": ...}` and one more field. -/
def childAnswer (ok : Bool) (serverName toolName : String) (more : List (String × Document)) : Document :=
  .object ([("ok", .flag ok), ("server_name", .text serverName), ("tool_name", .text toolName)] ++ more)

/-- `_post_json`; none stands for an exception that it lets pass. -/
def postJson (server : MCPChildServer) (call : MCPGatewayToolCall) : HttpOutcome → Option Document
  | .urlError reason => some (childAnswer false server.name call.toolName [("error", .text reason)])
  | .exception => none
  | .emptyBody => some (childAnswer true server.name call.toolName [])
  | .notJson body => some (childAnswer true server.name call.toolName [("raw_response", .text body)])
  | .json (.object fields) => some (.object fields)
  | .json value => some (.object [("ok", .flag true), ("response", value)])

/-- `_call_http_server`. -/
def callHttpServer (server : MCPChildServer) (call : MCPGatewayToolCall) (outcome : HttpOutcome) : Option Document :=
  if server.endpoint = "" then
    some (childAnswer false server.name call.toolName
      [("error", .text "HTTP MCP child server endpoint is not configured.")])
  else postJson server call outcome

/-- `response.get("error") is None`. -/
def reportsNoError (response : Document) : Bool :=
  response.field "error" == none || response.field "error" == some .null

/-- `_call_http_jsonrpc_server`. -/
def callHttpJsonrpcServer (server : MCPChildServer) (call : MCPGatewayToolCall) (outcome : HttpOutcome) :
    Option Document :=
  if server.endpoint = "" then
    some (childAnswer false server.name call.toolName
      [("error", .text "HTTP JSON-RPC MCP child server endpoint is not configured.")])
  else
    (postJson server call outcome).map fun response =>
      if (response.field "error").isSome ∧ (response.field "result").isNone then response
      else childAnswer (reportsNoError response) server.name call.toolName [("jsonrpc_response", response)]

/-- `ChildMCPTestServer.call_tool`, with the calls that this server has received by now. -/
def callTestServer (call : MCPGatewayToolCall) (receivedCount : Nat) : Document :=
  childAnswer true call.serverName call.toolName [("received_count", .number receivedCount)]

/-- `call_tool` after the search for the server; the HTTP outcome and the count of
a test server are given from outside. -/
def callServer (found : Option MCPChildServer) (call : MCPGatewayToolCall) (receivedCount : Nat) (outcome : HttpOutcome) :
    Option Document :=
  match found with
  | none => some (callTestServer call receivedCount)
  | some server =>
      if server.transport = "test" then some (callTestServer call receivedCount)
      else if server.transport = "http" then callHttpServer server call outcome
      else if server.transport = "http-jsonrpc" then callHttpJsonrpcServer server call outcome
      else some (childAnswer false server.name call.toolName
        [("error", .text ("Unsupported MCP child server transport: " ++ server.transport))])

def McpStore.callTool (store : McpStore) (call : MCPGatewayToolCall) (receivedCount : Nat) (outcome : HttpOutcome) :
    Option Document :=
  callServer (store.findRegisteredServer call.serverName) call receivedCount outcome

/-- An audit event of the gateway; its actor is "mcp-gateway". -/
structure GatewayAuditEvent where
  eventType : String
  entityId : String
  details : List (String × Document)
  deriving DecidableEq

def forwardedAfterApproval : String := "FORWARDED_AFTER_APPROVAL"

def mcpPendingForwardFailed : String := "MCP_PENDING_FORWARD_FAILED"

def mcpPendingDeadLettered : String := "MCP_PENDING_DEAD_LETTERED"

def ofCount (value : Option Nat) : Document :=
  match value with
  | some count => .number count
  | none => .null

/-- The event that `_handle_forward_failure` appends. -/
def forwardFailureEvent (runtime : Runtime) (approval : ApprovalRequest) (call : MCPGatewayToolCall) (result : Document)
    (pending : Option MCPPendingRequest) : GatewayAuditEvent where
  eventType :=
    if pending.map (·.status) = some .deadLetter then mcpPendingDeadLettered else mcpPendingForwardFailed
  entityId := approval.id
  details := [
    ("server_name", .text call.serverName),
    ("tool_name", .text call.toolName),
    ("attempts", ofCount (pending.map (·.attempts))),
    ("max_attempts", ofCount (pending.map (·.maxAttempts))),
    ("mcp_pending_request_id", .ofText (pending.map (·.id))),
    ("error", .text (forwardError runtime result))]

/-- The event of `_audit_forwarded_after_approval`. -/
def forwardedEvent (approval : ApprovalRequest) (call : MCPGatewayToolCall) (pending : Option MCPPendingRequest) :
    GatewayAuditEvent where
  eventType := forwardedAfterApproval
  entityId := approval.id
  details := [
    ("server_name", .text call.serverName),
    ("tool_name", .text call.toolName),
    ("approved_payload_hash", .ofText approval.approvedPayloadHash),
    ("mcp_pending_request_id", .ofText (pending.map (·.id))),
    ("attempts", ofCount (pending.map (·.attempts)))]

/-- The end of `resolve` after the call of the child server: the record of its
answer, the event that is appended and the decision. After an exception nothing
more happens. -/
def answerResolve (runtime : Runtime) (approval : ApprovalRequest) (call : MCPGatewayToolCall) :
    Option Document → McpProcedure (Option (MCPGatewayDecision × GatewayAuditEvent))
  | none => pure none
  | some result => do
      recordForwardResult runtime approval.id result
      let pending := (← Procedure.state).pendingForApproval approval.id
      let decision : MCPGatewayDecision :=
        { forwarded := !forwardFailed result
          approvalRequired := true
          approvalRequestId := some approval.id
          status := some approval.status
          result := some result
          reason :=
            if forwardFailed result = true then
              "MCP child forwarding failed; pending request was retained or dead-lettered."
            else "Mutating MCP tool call forwarded after approval." }
      let event :=
        if forwardFailed result = true then forwardFailureEvent runtime approval call result pending
        else forwardedEvent approval call pending
      return some (decision, event)

/-- The transport failed, or the reply of the child server carries an error. -/
def HttpOutcome.Fails : HttpOutcome → Prop
  | .urlError _ | .exception => True
  | .json (.object fields) => ∃ error, fields.lookup "error" = some error ∧ error ≠ .null
  | _ => False

/-- The status that a failed call leaves behind. -/
def MCPPendingRequest.retainedStatus (pending : MCPPendingRequest) : MCPPendingStatus :=
  if pending.maxAttempts ≤ pending.attempts then .deadLetter else .waitingForApproval

/-- The failure of a call is on record: the request is retained or given up, and
no event tells that it was forwarded. -/
def RecordsFailure (pending : MCPPendingRequest)
    (outcome : Except Raised (Option (MCPGatewayDecision × GatewayAuditEvent))) (after : McpStore) : Prop :=
  after.Shows pending.approvalRequestId pending.retainedStatus ∧
    ∀ decision event, outcome = .ok (some (decision, event)) → event.eventType ≠ forwardedAfterApproval

/-- The transport tells a failure as one: there is no endpoint, the request met a
`URLError`, or the error reply has a member `result` or says `"ok": false` itself.
After another exception the request must have been put back by somebody else. -/
def HttpOutcome.ToldAsFailure (server : MCPChildServer) (pending : MCPPendingRequest) (outcome : HttpOutcome) : Prop :=
  server.endpoint = "" ∨
    match outcome with
    | .urlError _ => True
    | .exception => pending.status = pending.retainedStatus
    | .json (.object fields) => (fields.lookup "result").isSome ∨ fields.lookup "ok" = some (.flag false)
    | _ => False

section Recording

variable {runtime : Runtime} {store after : McpStore}

@[simp] theorem forwardFailed_childAnswer (ok : Bool) (serverName toolName : String) (more : List (String × Document)) :
    forwardFailed (childAnswer ok serverName toolName more) = !ok := by
  cases ok <;> simp [forwardFailed, childAnswer, Document.field]

theorem forwardFailureEvent_type (approval : ApprovalRequest) (call : MCPGatewayToolCall) (result : Document)
    (pending : Option MCPPendingRequest) :
    (forwardFailureEvent runtime approval call result pending).eventType ≠ forwardedAfterApproval := by
  unfold forwardFailureEvent
  dsimp only
  split
  · decide
  · decide

/-- A failed call is put on record as its attempts say. -/
theorem recordForwardResult_fails (sound : store.Sound) {approvalRequestId : String} {pending : MCPPendingRequest}
    (found : store.pendingForApproval approvalRequestId = some pending) {result : Document}
    (failed : forwardFailed result = true) :
    (recordForwardResult runtime approvalRequestId result).Ends store fun outcome after =>
      outcome = .ok () ∧ after.Shows approvalRequestId pending.retainedStatus := by
  unfold recordForwardResult handleForwardFailure
  rw [if_pos failed]
  apply ends_read
  rw [found]
  refine (readClock_changePending_ends sound found
    (fun updatedAt pending => pending.failed updatedAt (forwardError runtime result))
    fun _ _ => ⟨rfl, rfl, rfl, rfl, rfl⟩).mono ?_
  rintro outcome after ⟨rfl, touches⟩
  refine ⟨rfl, touches.shows found ?_⟩
  rintro changed rfl
  rfl

theorem markPendingStatus_ok (approvalRequestId : String) (status : MCPPendingStatus) :
    (markPendingStatus runtime approvalRequestId status).Ends store fun outcome _ => outcome = .ok () := by
  unfold markPendingStatus
  apply ends_read
  cases store.pendingForApproval approvalRequestId with
  | none => rfl
  | some pending =>
    rw [ends_onlyIf]
    exact ⟨fun _ => rfl, fun _ => rfl⟩

/-- Every other answer is recorded as a forwarded call. -/
theorem answerResolve_forwards {approval : ApprovalRequest} {call : MCPGatewayToolCall} {result : Document}
    (passed : ¬ forwardFailed result = true) :
    (answerResolve runtime approval call (some result)).Ends store fun outcome _ => ∃ decision event,
      outcome = .ok (some (decision, event)) ∧ event.eventType = forwardedAfterApproval := by
  have marked : (recordForwardResult runtime approval.id result).Ends store fun outcome _ => outcome = .ok () := by
    unfold recordForwardResult
    rw [if_neg passed]
    exact markPendingStatus_ok approval.id .forwarded
  unfold answerResolve
  apply Ends.bind marked
  · intro _ after _
    apply ends_read
    refine ⟨_, _, rfl, ?_⟩
    rw [if_neg passed]
    rfl
  · intro error after impossible
    cases impossible

/-- The answer of a child server is on record as a failure exactly when it says `"ok": false`. -/
theorem answerResolve_records (sound : store.Sound) {approval : ApprovalRequest} {call : MCPGatewayToolCall}
    {pending : MCPPendingRequest} (found : store.pendingForApproval approval.id = some pending) (result : Document) :
    (answerResolve runtime approval call (some result)).Ends store (RecordsFailure pending) ↔
      forwardFailed result = true := by
  have named : pending.approvalRequestId = approval.id := (sound.pending_iff.mp found).2
  constructor
  · intro records
    by_contra passed
    have forwards : (answerResolve runtime approval call (some result)).Ends store fun outcome _ => ∃ decision event,
        outcome = .ok (some (decision, event)) ∧ event.eventType = forwardedAfterApproval := answerResolve_forwards passed
    obtain ⟨decision, event, same, forwarded⟩ := forwards
    exact records.2 decision event same forwarded
  · intro failed
    unfold answerResolve
    apply Ends.bind (recordForwardResult_fails sound found failed)
    · rintro _ after ⟨-, shows⟩
      apply ends_read
      simp only [failed, if_true, ends_pure]
      constructor
      · rw [named]
        exact shows
      · rintro decision event same
        cases same
        exact forwardFailureEvent_type approval call result _
    · rintro error after ⟨impossible, -⟩
      cases impossible

/-- After an exception the request stays as it is. -/
theorem answerResolve_exception (sound : store.Sound) {approval : ApprovalRequest} {call : MCPGatewayToolCall}
    {pending : MCPPendingRequest} (found : store.pendingForApproval approval.id = some pending) :
    (answerResolve runtime approval call none).Ends store (RecordsFailure pending) ↔
      pending.status = pending.retainedStatus := by
  have named : pending.approvalRequestId = approval.id := (sound.pending_iff.mp found).2
  constructor
  · rintro ⟨shows, -⟩
    rw [named] at shows
    exact McpStore.Shows.unique ⟨pending, found, rfl⟩ shows
  · intro retained
    constructor
    · rw [named]
      exact ⟨pending, found, retained⟩
    · rintro decision event same
      cases same

/-- What the JSON-RPC transport makes of an outcome that failed. -/
theorem callHttpJsonrpcServer_tells {server : MCPChildServer} {call : MCPGatewayToolCall} {pending : MCPPendingRequest}
    {outcome : HttpOutcome} (fails : outcome.Fails) :
    (∃ result, callHttpJsonrpcServer server call outcome = some result ∧
      (forwardFailed result = true ↔ outcome.ToldAsFailure server pending)) ∨
    (callHttpJsonrpcServer server call outcome = none ∧
      (pending.status = pending.retainedStatus ↔ outcome.ToldAsFailure server pending)) := by
  unfold callHttpJsonrpcServer HttpOutcome.ToldAsFailure
  by_cases configured : server.endpoint = ""
  · rw [if_pos configured]
    exact .inl ⟨_, rfl, by simp [configured]⟩
  rw [if_neg configured]
  cases outcome with
  | urlError reason =>
    refine .inl ⟨_, rfl, ?_⟩
    simp [childAnswer, Document.field, forwardFailed, List.lookup_cons]
  | exception => exact .inr ⟨rfl, by simp [configured]⟩
  | emptyBody => exact fails.elim
  | notJson body => exact fails.elim
  | json value =>
    cases value with
    | object fields =>
      obtain ⟨error, told, real⟩ := fails
      refine .inl ⟨_, rfl, ?_⟩
      -- an error reply without a result is handed on as it is
      cases result : fields.lookup "result" with
      | none => simp [Document.field, told, result, forwardFailed, configured]
      | some value => simp [Document.field, told, result, configured, reportsNoError, real]
    | _ => exact fails.elim

end Recording

/-- A failed call of a JSON-RPC child server is recorded as a failure exactly
where the transport tells it as one. -/
theorem child_failures_recorded (runtime : Runtime) (system : McpSystem)
    (reachable : (mcpMachine runtime).Reachable Machine.anything system) (approval : ApprovalRequest)
    (call : MCPGatewayToolCall) (pending : MCPPendingRequest)
    (found : system.store.pendingForApproval approval.id = some pending) (server : MCPChildServer)
    (routed : system.store.findRegisteredServer call.serverName = some server) (transport : server.transport = "http-jsonrpc")
    (receivedCount : Nat) (outcome : HttpOutcome) (fails : outcome.Fails) :
    (answerResolve runtime approval call (system.store.callTool call receivedCount outcome)).Ends system.store
      (RecordsFailure pending) ↔ outcome.ToldAsFailure server pending := by
  have «sound» := sound_reachable reachable
  have goes : system.store.callTool call receivedCount outcome = callHttpJsonrpcServer server call outcome := by
    simp [McpStore.callTool, callServer, routed, transport]
  rw [goes]
  rcases callHttpJsonrpcServer_tells fails with ⟨result, answers, tells⟩ | ⟨passes, tells⟩
  · rw [answers, answerResolve_records («sound») found, tells]
  · rw [passes, answerResolve_exception («sound») found, tells]

section Sample

def remoteServer : MCPChildServer :=
  { filesServer with transport := "http-jsonrpc", endpoint := "https://files.example/rpc" }

theorem filed_single (approval : ApprovalRequest) : Filed (Table.empty.set approval.id approval) := by
  intro approvalId other found
  rw [Table.get?_set] at found
  split at found
  · next same =>
    cases found
    exact same.symm
  · cases found

/-- The held call is approved, and its server is reached over JSON-RPC. -/
def approveRemoteCall (runtime : Runtime) : McpStep :=
  .outside {
    approvalRequests := Table.empty.set (approvedCall runtime).id (approvedCall runtime)
    filed := filed_single (approvedCall runtime)
    mcpChildServers := Table.empty.set remoteServer.id remoteServer
    projects := registeredSystem.store.projects }

/-- The resolve of that call waits for its child server. -/
def remoteCalled : McpSystem :=
  (mcpMachine (.plain false)).runAll registeredSystem [.submitRequest "project_1" (writeCall none),
    approveRemoteCall (.plain false), .resolve heldApprovalId]

theorem remoteCalled_reachable : (mcpMachine (.plain false)).Reachable Machine.anything remoteCalled :=
  ⟨registeredSystem, registeredSystem_fresh, Machine.follows_anything _ _⟩

/-- The reply of a JSON-RPC server that refuses a call. -/
def refusal : Document :=
  .object [("jsonrpc", .text "2.0"), ("id", .number 1), ("error", .object [("message", .text "denied")])]

theorem remoteCalled_runs : ∃ pending,
    remoteCalled.store.pendingForApproval (approvedCall (.plain false)).id = some pending ∧
      remoteCalled.store.findRegisteredServer (writeCall none).serverName = some remoteServer := by
  have runs : (remoteCalled.store.pendingForApproval (approvedCall (.plain false)).id).isSome = true ∧
      remoteCalled.store.findRegisteredServer (writeCall none).serverName = some remoteServer := by decide +kernel
  obtain ⟨pending, found⟩ := Option.isSome_iff_exists.mp runs.1
  exact ⟨pending, found, runs.2⟩

theorem child_failures_recorded_sample : ∃ pending,
    (answerResolve (.plain false) (approvedCall (.plain false)) (writeCall none)
      (remoteCalled.store.callTool (writeCall none) 0 (.urlError "refused"))).Ends remoteCalled.store
        (RecordsFailure pending) := by
  obtain ⟨pending, found, routed⟩ := remoteCalled_runs
  have recorded := child_failures_recorded (.plain false) remoteCalled remoteCalled_reachable (approvedCall (.plain false))
    (writeCall none) pending found remoteServer routed rfl 0 (.urlError "refused") trivial
  exact ⟨pending, recorded.mpr (.inr trivial)⟩

theorem error_reply_forwarded : ¬ ∀ (runtime : Runtime) (system : McpSystem),
    (mcpMachine runtime).Reachable Machine.anything system → ∀ (approval : ApprovalRequest) (call : MCPGatewayToolCall)
      (pending : MCPPendingRequest), system.store.pendingForApproval approval.id = some pending →
        ∀ server, system.store.findRegisteredServer call.serverName = some server → server.transport = "http-jsonrpc" →
          ∀ receivedCount outcome, HttpOutcome.Fails outcome →
            (answerResolve runtime approval call (system.store.callTool call receivedCount outcome)).Ends system.store
              (RecordsFailure pending) := by
  intro claim
  obtain ⟨pending, found, routed⟩ := remoteCalled_runs
  have recorded := claim (.plain false) remoteCalled remoteCalled_reachable (approvedCall (.plain false)) (writeCall none)
    pending found remoteServer routed rfl 0 (.json refusal) ⟨.object [("message", .text "denied")], by decide, by simp⟩
  have reply : remoteCalled.store.callTool (writeCall none) 0 (.json refusal) = some refusal := by
    unfold McpStore.callTool
    rw [routed]
    decide
  rw [reply] at recorded
  have told := (answerResolve_records (sound_reachable remoteCalled_reachable) found refusal).mp recorded
  exact absurd told (by decide)

end Sample

end ControlTower
