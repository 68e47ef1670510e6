import ControlTower.Mcp.Child
import ControlTower.Mcp.Policing

/-! The servers that get approved calls. A `tools/call` is checked against the
servers of its project; the approved call goes to the first enabled server of
that name in any project, and without one to the built-in test server. -/

set_option autoImplicit false

namespace ControlTower

open Foundation
open Foundation.Procedure

structure MCPChildServerCreate where
  projectId : String
  name : String
  transport : String
  endpoint : String
  enabled : Bool
  tools : List MCPToolDefinition

def newChildServer (runtime : Runtime) (store : McpStore) (payload : MCPChildServerCreate) : MCPChildServer where
  id := runtime.newId "mcp_server" store.mcpChildServers.keys
  projectId := payload.projectId
  name := payload.name
  transport := payload.transport
  endpoint := payload.endpoint
  enabled := payload.enabled
  tools := payload.tools

/-- `POST /mcp-registry/child-servers`. -/
def registerChildServer (runtime : Runtime) (payload : MCPChildServerCreate) : McpProcedure Unit := do
  let store ← Procedure.state
  demand (payload.projectId ∈ store.projects) (.http 404 "Project not found")
  demand ((store.mcpChildServers.values.find? fun server =>
      server.projectId == payload.projectId && server.name == payload.name) = none)
    (.http 409 "MCP child server name already exists for project")
  let server := newChildServer runtime store payload
  .modify fun store => { store with mcpChildServers := store.mcpChildServers.set server.id server }

/-- The enable and the disable route. -/
def setChildServerEnabled (enabled : Bool) (serverId : String) : McpProcedure Unit := do
  let store ← Procedure.state
  let _ ← found (store.mcpChildServers.get? serverId) (.http 404 "MCP child server not found")
  .modify fun store => { store with
    mcpChildServers := store.mcpChildServers.adjust serverId fun server => { server with enabled } }

def enableChildServer : String → McpProcedure Unit := setChildServerEnabled true

def disableChildServer : String → McpProcedure Unit := setChildServerEnabled false

/-- A call to a child server, with the record that the search for its name found. -/
structure Delivery where
  approvalRequestId : String
  call : MCPGatewayToolCall
  server : Option MCPChildServer
  deriving DecidableEq

/-- The gateway with the registry: the calls whose answer is outstanding, those
that were recorded as forwarded, and the server that each registry-checked call
was checked against, under its approval. -/
structure Dispatch where
  store : McpStore
  flights : List Delivery
  forwarded : List Delivery
  targets : String → Option String

inductive DispatchStep where
  | submitRequest (projectId : String) (call : MCPGatewayToolCall)
  | toolsCall (projectId : String) (params : List (String × Document))
  | resolve (approvalRequestId : String)
  | finish (delivery : Delivery) (receivedCount : Nat) (outcome : HttpOutcome)
  | retry (pendingRequestId : String) (payload : PendingRetryRequest)
  | registerServer (payload : MCPChildServerCreate)
  | enableServer (serverId : String)
  | disableServer (serverId : String)
  /-- Other routes: decisions on approvals and new projects. -/
  | decide (approvalRequests : Table String ApprovalRequest) (filed : Filed approvalRequests) (projects : List String)

/-- The server that the registry names for the parameters of a `tools/call`. -/
def McpStore.checkedServer (store : McpStore) (projectId : String) (params : List (String × Document)) : Option String :=
  match store.toolMatches projectId (calledTool params) (calledServer params) with
  | [(server, _)] => some server.id
  | _ => none

namespace Dispatch

variable (runtime : Runtime) (dispatch : Dispatch)

def called (projectId : String) (params : List (String × Document)) : Dispatch :=
  let outcome := (handleToolsCall runtime projectId params).run dispatch.store
  match outcome.1 with
  | .ok (.held approvalRequestId _ _) =>
      { dispatch with
        store := outcome.2
        targets := Function.update dispatch.targets approvalRequestId (dispatch.store.checkedServer projectId params) }
  | _ => { dispatch with store := outcome.2 }

def resolved (approvalRequestId : String) : Dispatch :=
  let outcome := (resolveGatewayRequest runtime approvalRequestId).run dispatch.store
  match outcome.1 with
  | .ok (.forward _ call) =>
      { dispatch with
        store := outcome.2
        flights := ⟨approvalRequestId, call, outcome.2.findRegisteredServer call.serverName⟩ :: dispatch.flights }
  | _ => { dispatch with store := outcome.2 }

def finished (delivery : Delivery) (receivedCount : Nat) (outcome : HttpOutcome) : Dispatch :=
  if delivery ∈ dispatch.flights then
    match callServer delivery.server delivery.call receivedCount outcome with
    | none => { dispatch with flights := dispatch.flights.erase delivery }
    | some result =>
        { dispatch with
          store := ((recordForwardResult runtime delivery.approvalRequestId result).run dispatch.store).2
          flights := dispatch.flights.erase delivery
          forwarded := if forwardFailed result = true then dispatch.forwarded else delivery :: dispatch.forwarded }
  else dispatch

def next : DispatchStep → Dispatch
  | .submitRequest projectId call =>
      { dispatch with store := ((submitGatewayRequest runtime projectId call).run dispatch.store).2 }
  | .toolsCall projectId params => dispatch.called runtime projectId params
  | .resolve approvalRequestId => dispatch.resolved runtime approvalRequestId
  | .finish delivery receivedCount outcome => dispatch.finished runtime delivery receivedCount outcome
  | .retry pendingRequestId payload =>
      { dispatch with store := ((retryPendingGatewayRequest runtime pendingRequestId payload).run dispatch.store).2 }
  | .registerServer payload => { dispatch with store := ((registerChildServer runtime payload).run dispatch.store).2 }
  | .enableServer serverId => { dispatch with store := ((enableChildServer serverId).run dispatch.store).2 }
  | .disableServer serverId => { dispatch with store := ((disableChildServer serverId).run dispatch.store).2 }
  | .decide approvalRequests _ projects => { dispatch with store := { dispatch.store with approvalRequests, projects } }

/-- No request and no server is there yet. -/
structure Fresh (dispatch : Dispatch) : Prop where
  servers : dispatch.store.mcpChildServers = .empty
  pending : dispatch.store.mcpPendingRequests = .empty
  gateways : dispatch.store.gateways = .empty
  filed : Filed dispatch.store.approvalRequests
  flights : dispatch.flights = []
  forwarded : dispatch.forwarded = []
  targets : dispatch.targets = fun _ => none

def machine : Machine Dispatch DispatchStep where
  initial := Fresh
  next dispatch step := dispatch.next runtime step

end Dispatch

/-- A server is enabled, and no enabled server of its name was registered before it. -/
def McpStore.Foremost (store : McpStore) (serverId : String) : Prop :=
  ∃ earlier server later, store.mcpChildServers.values = earlier ++ server :: later ∧ server.id = serverId ∧
    server.enabled = true ∧ ∀ other ∈ earlier, other.name = server.name → other.enabled = false

/-- When a resolve takes up a request, the server that its call was checked
against is enabled and comes first among the enabled servers of its name. -/
def Dispatch.Aimed (runtime : Runtime) (dispatch : Dispatch) : DispatchStep → Prop
  | .resolve approvalRequestId => ∀ pending serverId, dispatch.store.TakesUp runtime approvalRequestId pending →
      dispatch.targets approvalRequestId = some serverId → dispatch.store.Foremost serverId
  | _ => True

section Registry

variable {runtime : Runtime} {store after : McpStore}

/-- Server records stand under their identifiers. -/
def McpStore.ServersFiled (store : McpStore) : Prop :=
  ∀ serverId server, store.mcpChildServers.get? serverId = some server → server.id = serverId

/-- Server records stay, under their names, and nothing else changes. -/
structure Reregisters (before after : McpStore) : Prop where
  filed : before.ServersFiled → after.ServersFiled
  kept : ∀ serverId server, before.mcpChildServers.get? serverId = some server →
    ∃ changed, after.mcpChildServers.get? serverId = some changed ∧ changed.name = server.name
  «only» : ∃ mcpChildServers, after = { before with mcpChildServers }

theorem Reregisters.refl (store : McpStore) : Reregisters store store :=
  ⟨id, fun _ server found => ⟨server, found, rfl⟩, store.mcpChildServers, rfl⟩

theorem registerChildServer_ends (payload : MCPChildServerCreate) :
    (registerChildServer runtime payload).Ends store fun _ after => Reregisters store after := by
  unfold registerChildServer
  apply ends_read
  apply ends_guard
  · exact Reregisters.refl store
  intro _
  apply ends_guard
  · exact Reregisters.refl store
  intro _
  have fresh : (newChildServer runtime store payload).id ∉ store.mcpChildServers.keys :=
    runtime.newId_fresh "mcp_server" store.mcpChildServers.keys
  show Reregisters store { store with
      mcpChildServers := store.mcpChildServers.set (newChildServer runtime store payload).id
        (newChildServer runtime store payload) }
  constructor
  · intro filed serverId server found
    rw [Table.get?_set] at found
    split at found
    · next same =>
      cases found
      exact same.symm
    · exact filed serverId server found
  · intro serverId server found
    refine ⟨server, ?_, rfl⟩
    rw [Table.get?_set_other]
    · exact found
    · rintro rfl
      rw [Table.get?_of_fresh fresh] at found
      cases found
  · exact ⟨_, rfl⟩

theorem setChildServerEnabled_ends (enabled : Bool) (serverId : String) :
    (setChildServerEnabled enabled serverId).Ends store fun _ after => Reregisters store after := by
  unfold setChildServerEnabled
  apply ends_read
  apply ends_lookup
  · exact Reregisters.refl store
  intro _ _
  show Reregisters store { store with
    mcpChildServers := store.mcpChildServers.adjust serverId fun server => { server with enabled } }
  have looked : ∀ other, (store.mcpChildServers.adjust serverId fun server => { server with enabled }).get? other =
      (store.mcpChildServers.get? other).map fun server =>
        if other = serverId then { server with enabled } else server := by
    intro other
    rw [Table.get?_adjust]
    split
    · rfl
    · simp
  constructor
  · intro filed other server found
    rw [looked] at found
    obtain ⟨original, stored, rfl⟩ := Option.map_eq_some_iff.mp found
    split
    · exact filed other original stored
    · exact filed other original stored
  · intro other server found
    refine ⟨if other = serverId then { server with enabled } else server, ?_, ?_⟩
    · exact (looked other).trans (by rw [found, Option.map_some])
    · split <;> rfl
  · exact ⟨_, rfl⟩

/-- The first of the enabled servers of its name is the one that a search finds. -/
theorem findRegisteredServer_iff (filed : store.ServersFiled) {serverId : String} {server : MCPChildServer}
    (stored : store.mcpChildServers.get? serverId = some server) :
    (∃ located, store.findRegisteredServer server.name = some located ∧ located.id = serverId) ↔
      store.Foremost serverId := by
  -- a record of this identifier is the stored one, so the search can be compared by identifier
  have only : ∀ {other}, other ∈ store.mcpChildServers.values → other.id = serverId → other = server := by
    intro other member same
    obtain ⟨key, held⟩ := Table.mem_values.mp member
    have named := filed key other held
    rw [named.symm.trans same, stored] at held
    exact (Option.some.inj held).symm
  constructor
  · rintro ⟨located, found, same⟩
    obtain ⟨passes, earlier, later, order, first⟩ := List.find?_eq_some_iff_append.mp found
    have member : located ∈ store.mcpChildServers.values := by
      rw [order]
      simp
    have equal := only member same
    subst equal
    simp only [Bool.and_eq_true, beq_iff_eq] at passes
    refine ⟨earlier, located, later, order, same, passes.2, ?_⟩
    intro other before named
    have fails := first other before
    simpa [named] using fails
  · rintro ⟨earlier, located, later, order, same, enabled, first⟩
    have member : located ∈ store.mcpChildServers.values := by
      rw [order]
      simp
    have equal := only member same
    subst equal
    refine ⟨located, List.find?_eq_some_iff_append.mpr ⟨by simp [enabled], earlier, later, order, ?_⟩, same⟩
    intro other before
    by_cases named : other.name = located.name
    · simp [named, first other before named]
    · simp [named]

end Registry

/-- The gateway's own changes: the registry stays, every request keeps its
server, and no request becomes forwarded. -/
structure CarriesOver (before after : McpStore) : Prop where
  «sound» : after.Sound
  servers : after.mcpChildServers = before.mcpChildServers
  kept : ∀ approvalRequestId pending, before.pendingForApproval approvalRequestId = some pending →
    ∃ changed, after.pendingForApproval approvalRequestId = some changed ∧ changed.serverName = pending.serverName
  closes : ∀ approvalRequestId, after.Shows approvalRequestId .forwarded → before.Shows approvalRequestId .forwarded

section Carrying

variable {store after : McpStore} {approvalRequestId : String}

theorem Touches.kept {change : MCPPendingRequest → MCPPendingRequest → Prop}
    (touches : Touches approvalRequestId change store after) (other : String) (pending : MCPPendingRequest)
    (found : store.pendingForApproval other = some pending) :
    ∃ changed, after.pendingForApproval other = some changed ∧ changed.serverName = pending.serverName := by
  by_cases same : other = approvalRequestId
  · subst same
    obtain ⟨changed, present, alike, -⟩ := touches.present pending found
    exact ⟨changed, present, alike.2.2.1⟩
  · exact ⟨pending, (touches.others other same).trans found, rfl⟩

theorem Touches.closes {change : MCPPendingRequest → MCPPendingRequest → Prop}
    (touches : Touches approvalRequestId change store after)
    (opens : ∀ pending changed, store.pendingForApproval approvalRequestId = some pending → change pending changed →
      changed.status = .forwarded → pending.status = .forwarded)
    (other : String) (shows : after.Shows other .forwarded) : store.Shows other .forwarded := by
  obtain ⟨changed, present, forwarded⟩ := shows
  by_cases same : other = approvalRequestId
  · subst same
    obtain ⟨pending, found, -, moved⟩ := touches.exists_before present
    exact ⟨pending, found, opens pending changed found moved forwarded⟩
  · rw [touches.others other same] at present
    exact ⟨changed, present, forwarded⟩

theorem Touches.carries {change : MCPPendingRequest → MCPPendingRequest → Prop}
    (touches : Touches approvalRequestId change store after)
    (opens : ∀ pending changed, store.pendingForApproval approvalRequestId = some pending → change pending changed →
      changed.status = .forwarded → pending.status = .forwarded) : CarriesOver store after where
  «sound» := touches.sound
  servers := touches.servers
  kept := touches.kept
  closes := touches.closes opens

theorem Unmoved.carries (unmoved : Unmoved store after) : CarriesOver store after where
  «sound» := unmoved.sound
  servers := unmoved.servers
  kept other pending found := ⟨pending, (unmoved.pending other).trans found, rfl⟩
  closes other := by
    rintro ⟨pending, found, forwarded⟩
    rw [unmoved.pending] at found
    exact ⟨pending, found, forwarded⟩

theorem Adds.carries {call : MCPGatewayToolCall} (adds : Adds approvalRequestId call store after) : CarriesOver store after where
  «sound» := adds.sound
  servers := adds.servers
  kept other pending found := by
    refine ⟨pending, ?_, rfl⟩
    rw [adds.others other]
    · exact found
    · rintro rfl
      rw [adds.fresh] at found
      cases found
  closes other := by
    rintro ⟨pending, found, forwarded⟩
    by_cases same : other = approvalRequestId
    · subst same
      obtain ⟨added, present, -, waits⟩ := adds.added
      rw [found] at present
      cases present
      rw [waits] at forwarded
      cases forwarded
    · rw [adds.others other same] at found
      exact ⟨pending, found, forwarded⟩

theorem Submits.carries {call : MCPGatewayToolCall} {outcome : Except Raised SubmitOutcome}
    (submits : Submits call store outcome after) : CarriesOver store after := by
  rcases outcome with error | ⟨sent⟩ | ⟨heldId, sent, decision⟩
  · exact Unmoved.carries submits
  · exact submits.2.2.carries
  · exact submits.2.2.carries

theorem Resolves.carries {runtime : Runtime} {outcome : Except Raised ResolveOutcome}
    (resolves : Resolves runtime approvalRequestId store outcome after) : CarriesOver store after := by
  have settled : Touches approvalRequestId
      (fun pending changed => changed.status = pending.status ∨ store.Ready runtime pending ∧ Rests pending changed)
      store after → CarriesOver store after := by
    intro touches
    apply touches.carries
    rintro pending changed - (same | ⟨-, rests⟩) forwarded
    · rw [← same]
      exact forwarded
    · rw [Rests, forwarded] at rests
      simp at rests
  rcases outcome with error | ⟨decision⟩ | ⟨approval, call⟩
  · exact settled resolves
  · exact settled resolves
  · apply resolves.2.2.carries
    intro pending changed _ forwarding forwarded
    rw [forwarding] at forwarded
    cases forwarded

end Carrying

namespace Dispatch

variable {runtime : Runtime} {dispatch : Dispatch} {after : McpStore}

/-- A call for the request of an approval reached the server that it was checked against. -/
def Delivery.Hits (targets : String → Option String) (delivery : Delivery) : Prop :=
  ∀ serverId, targets delivery.approvalRequestId = some serverId →
    ∃ server, delivery.server = some server ∧ server.id = serverId ∧ server.enabled = true

/-- What holds between two steps of a run in which every resolve is aimed. -/
structure Aligned (dispatch : Dispatch) : Prop where
  «sound» : dispatch.store.Sound
  filed : dispatch.store.ServersFiled
  targeted : ∀ approvalRequestId serverId, dispatch.targets approvalRequestId = some serverId →
    ∃ pending server, dispatch.store.pendingForApproval approvalRequestId = some pending ∧
      dispatch.store.mcpChildServers.get? serverId = some server ∧ server.name = pending.serverName
  known : ∀ delivery ∈ dispatch.flights ++ dispatch.forwarded,
    ∃ pending, dispatch.store.pendingForApproval delivery.approvalRequestId = some pending
  hits : ∀ delivery ∈ dispatch.flights ++ dispatch.forwarded, Delivery.Hits dispatch.targets delivery
  received : ∀ delivery ∈ dispatch.forwarded, ∀ server, delivery.server = some server → server.Receives
  reported : ∀ approvalRequestId, dispatch.store.Shows approvalRequestId .forwarded →
    ∃ delivery ∈ dispatch.forwarded, delivery.approvalRequestId = approvalRequestId

theorem Aligned.carry (aligned : dispatch.Aligned) (carries : CarriesOver dispatch.store after) :
    ({ dispatch with store := after } : Dispatch).Aligned where
  «sound» := carries.sound
  filed := by
    unfold McpStore.ServersFiled
    rw [carries.servers]
    exact aligned.filed
  targeted approvalRequestId serverId aimed := by
    obtain ⟨pending, server, found, stored, named⟩ := aligned.targeted approvalRequestId serverId aimed
    obtain ⟨changed, present, same⟩ := carries.kept approvalRequestId pending found
    refine ⟨changed, server, present, ?_, named.trans same.symm⟩
    rw [carries.servers]
    exact stored
  known delivery member := by
    obtain ⟨pending, found⟩ := aligned.known delivery member
    obtain ⟨changed, present, -⟩ := carries.kept _ pending found
    exact ⟨changed, present⟩
  hits := aligned.hits
  received := aligned.received
  reported approvalRequestId shows := aligned.reported approvalRequestId (carries.closes approvalRequestId shows)

/-- The registry changes and the requests stay. -/
theorem Aligned.reregister (aligned : dispatch.Aligned) (changes : Reregisters dispatch.store after) :
    ({ dispatch with store := after } : Dispatch).Aligned := by
  obtain ⟨servers, rfl⟩ := changes.only
  constructor
  · exact ⟨aligned.sound.filed, aligned.sound.keyed, aligned.sound.single, aligned.sound.recalled⟩
  · exact changes.filed aligned.filed
  · intro approvalRequestId serverId aimed
    obtain ⟨pending, server, found, stored, named⟩ := aligned.targeted approvalRequestId serverId aimed
    obtain ⟨changed, present, same⟩ := changes.kept serverId server stored
    exact ⟨pending, changed, found, present, same.trans named⟩
  · exact aligned.known
  · exact aligned.hits
  · exact aligned.received
  · exact aligned.reported

theorem findRegisteredServer_of_servers {store : McpStore} (same : after.mcpChildServers = store.mcpChildServers)
    (serverName : String) : after.findRegisteredServer serverName = store.findRegisteredServer serverName := by
  unfold McpStore.findRegisteredServer
  rw [same]

theorem findRegisteredServer_enabled {store : McpStore} {serverName : String} {server : MCPChildServer}
    (found : store.findRegisteredServer serverName = some server) : server.enabled = true := by
  have passes := List.find?_some found
  simp only [Bool.and_eq_true] at passes
  exact passes.2

/-- A server that the check of a `tools/call` names stands in the registry under the name that the call gets. -/
theorem checkedServer_named {store : McpStore} (filed : store.ServersFiled) {projectId : String}
    {params : List (String × Document)} {call : MCPGatewayToolCall}
    (made : toolCallFromParams runtime store projectId params = .ok call) {serverId : String}
    (checked : store.checkedServer projectId params = some serverId) :
    ∃ server, store.mcpChildServers.get? serverId = some server ∧ server.name = call.serverName := by
  unfold McpStore.checkedServer at checked
  obtain ⟨-, ⟨bare, -⟩ | ⟨-, server, tool, single, named, -⟩⟩ := toolCallFromParams_ok made
  · have nothing : store.toolMatches projectId (calledTool params) (calledServer params) = [] := by
      simp [McpStore.toolMatches, bare]
    rw [nothing] at checked
    cases checked
  · rw [single] at checked
    cases checked
    have member : (server, tool) ∈ store.toolMatches projectId (calledTool params) (calledServer params) := by
      rw [single]
      exact List.mem_singleton_self _
    simp only [McpStore.toolMatches, McpStore.projectChildServers, List.mem_flatMap, List.mem_map, List.mem_filter] at member
    obtain ⟨other, ⟨⟨listed, -⟩, -⟩, _, -, pair⟩ := member
    cases pair
    obtain ⟨key, stored⟩ := Table.mem_values.mp listed
    have same := filed key server stored
    refine ⟨server, ?_, named.symm⟩
    rw [same]
    exact stored

/-- A held call gets its target. -/
theorem Aligned.target (aligned : dispatch.Aligned) {approvalRequestId : String} {call : MCPGatewayToolCall}
    (adds : Adds approvalRequestId call dispatch.store after) {target : Option String}
    (names : ∀ serverId, target = some serverId → ∃ server,
      dispatch.store.mcpChildServers.get? serverId = some server ∧ server.name = call.serverName) :
    ({ dispatch with store := after, targets := Function.update dispatch.targets approvalRequestId target } :
      Dispatch).Aligned := by
  have carried := aligned.carry adds.carries
  -- nothing is in flight for an approval that is new
  have away : ∀ delivery ∈ dispatch.flights ++ dispatch.forwarded, delivery.approvalRequestId ≠ approvalRequestId := by
    rintro delivery member rfl
    obtain ⟨pending, found⟩ := aligned.known delivery member
    rw [adds.fresh] at found
    cases found
  constructor
  · exact carried.sound
  · exact carried.filed
  · intro other serverId aimed
    by_cases same : other = approvalRequestId
    · subst same
      simp only [Function.update_self] at aimed
      obtain ⟨server, stored, named⟩ := names serverId aimed
      obtain ⟨pending, found, holds, -⟩ := adds.added
      refine ⟨pending, server, found, ?_, named.trans holds.1⟩
      show after.mcpChildServers.get? serverId = some server
      rw [adds.servers]
      exact stored
    · simp only [Function.update_of_ne same] at aimed
      exact carried.targeted other serverId aimed
  · exact carried.known
  · intro delivery member serverId aimed
    simp only [Function.update_of_ne (away delivery member)] at aimed
    exact carried.hits delivery member serverId aimed
  · exact carried.received
  · exact carried.reported

theorem Aligned.call (aligned : dispatch.Aligned) (projectId : String) (params : List (String × Document)) :
    (dispatch.called runtime projectId params).Aligned := by
  by_cases accepted : projectId ∈ dispatch.store.projects ∧
      ∃ call, toolCallFromParams runtime dispatch.store projectId params = .ok call
  · obtain ⟨listed, call, made⟩ := accepted
    have submits : Submits call dispatch.store _ _ :=
      @submitGatewayRequest_ends runtime dispatch.store aligned.sound projectId call
    unfold called
    rw [handleToolsCall_accepted listed made]
    generalize (submitGatewayRequest runtime projectId call).run dispatch.store = outcome at submits ⊢
    rcases outcome with ⟨error | ⟨sent⟩ | ⟨heldId, sent, decision⟩, after⟩
    · exact aligned.carry submits.carries
    · exact aligned.carry submits.carries
    · exact aligned.target submits.2.2 fun serverId checked => checkedServer_named aligned.filed made checked
  · have refused : projectId ∈ dispatch.store.projects → ∃ message,
        toolCallFromParams runtime dispatch.store projectId params = .error message := by
      intro listed
      cases made : toolCallFromParams runtime dispatch.store projectId params with
      | error message => exact ⟨message, rfl⟩
      | ok call => exact absurd ⟨listed, call, made⟩ accepted
    obtain ⟨error, stopped⟩ := handleToolsCall_refused refused
    unfold called
    rw [stopped]
    exact aligned

theorem Aligned.resolve (aligned : dispatch.Aligned) (approvalRequestId : String)
    (aimed : Aimed runtime dispatch (.resolve approvalRequestId)) :
    (dispatch.resolved runtime approvalRequestId).Aligned := by
  have resolves : Resolves runtime approvalRequestId dispatch.store _ _ := resolveGatewayRequest_ends aligned.sound
  have spends : Spends (∃ pending, dispatch.store.TakesUp runtime approvalRequestId pending) approvalRequestId
      dispatch.store _ _ := resolveGatewayRequest_spends aligned.sound
  unfold resolved
  generalize (resolveGatewayRequest runtime approvalRequestId).run dispatch.store = outcome at resolves spends ⊢
  have carried := aligned.carry resolves.carries
  rcases outcome with ⟨error | ⟨decision⟩ | ⟨approval, call⟩, after⟩
  · exact carried
  · exact carried
  · obtain ⟨-, ⟨pending, found, -, holds⟩, touches⟩ := resolves
    obtain ⟨other, takes⟩ := spends.forwards_iff.mp rfl
    dsimp only
    constructor
    · exact carried.sound
    · exact carried.filed
    · exact carried.targeted
    · intro delivery member
      rcases List.mem_cons.mp member with rfl | before
      · obtain ⟨changed, present, -⟩ := touches.present pending found
        exact ⟨changed, present⟩
      · exact carried.known delivery before
    · intro delivery member
      rcases List.mem_cons.mp member with rfl | before
      · -- the new call: its server is the one that the search finds now
        intro serverId target
        have foremost := aimed other serverId takes target
        obtain ⟨held, server, present, stored, named⟩ := aligned.targeted approvalRequestId serverId target
        rw [found] at present
        cases present
        obtain ⟨located, search, same⟩ := (findRegisteredServer_iff aligned.filed stored).mpr foremost
        refine ⟨located, ?_, same, findRegisteredServer_enabled search⟩
        show McpStore.findRegisteredServer after call.serverName = some located
        rw [findRegisteredServer_of_servers touches.servers, holds.1, ← named]
        exact search
      · exact carried.hits delivery before
    · exact carried.received
    · exact carried.reported

/-- A server that answers success has received the call. -/
theorem callServer_receives {server : MCPChildServer} {call : MCPGatewayToolCall} {receivedCount : Nat}
    {outcome : HttpOutcome} {result : Document}
    (answers : callServer (some server) call receivedCount outcome = some result)
    (passed : ¬ forwardFailed result = true) : server.Receives := by
  have refused : ∀ more, some (childAnswer false server.name call.toolName more) ≠ some result := by
    rintro more same
    rw [← Option.some.inj same, forwardFailed_childAnswer] at passed
    exact passed rfl
  unfold callServer at answers
  dsimp only at answers
  by_cases test : server.transport = "test"
  · exact .inl test
  rw [if_neg test] at answers
  by_cases http : server.transport = "http"
  · refine .inr ⟨.inl http, fun missing => ?_⟩
    rw [if_pos http, callHttpServer, if_pos missing] at answers
    exact refused _ answers
  rw [if_neg http] at answers
  by_cases rpc : server.transport = "http-jsonrpc"
  · refine .inr ⟨.inr rpc, fun missing => ?_⟩
    rw [if_pos rpc, callHttpJsonrpcServer, if_pos missing] at answers
    exact refused _ answers
  · rw [if_neg rpc] at answers
    exact absurd answers (refused _)

/-- A call that is in flight ends, and its answer is on record. -/
theorem Aligned.record (aligned : dispatch.Aligned) {delivery : Delivery} (flying : delivery ∈ dispatch.flights)
    {result : Document} (received : ¬ forwardFailed result = true → ∀ server, delivery.server = some server → server.Receives)
    (touches : Touches delivery.approvalRequestId (Records result) dispatch.store after) :
    ({ dispatch with
      store := after
      flights := dispatch.flights.erase delivery
      forwarded := if forwardFailed result = true then dispatch.forwarded else delivery :: dispatch.forwarded } :
        Dispatch).Aligned := by
  -- no call comes into flight, and only the answered one may go on record
  have remains : ∀ other ∈ dispatch.flights.erase delivery ++
      (if forwardFailed result = true then dispatch.forwarded else delivery :: dispatch.forwarded),
        other ∈ dispatch.flights ++ dispatch.forwarded := by
    intro other member
    rw [List.mem_append] at member ⊢
    rcases member with flight | record
    · exact .inl (List.mem_of_mem_erase flight)
    · split at record
      · exact .inr record
      · rcases List.mem_cons.mp record with rfl | old
        · exact .inl flying
        · exact .inr old
  constructor
  · exact touches.sound
  · unfold McpStore.ServersFiled
    rw [touches.servers]
    exact aligned.filed
  · intro approvalRequestId serverId aimed
    obtain ⟨pending, server, found, stored, named⟩ := aligned.targeted approvalRequestId serverId aimed
    obtain ⟨changed, present, same⟩ := touches.kept approvalRequestId pending found
    refine ⟨changed, server, present, ?_, named.trans same.symm⟩
    rw [touches.servers]
    exact stored
  · intro other member
    obtain ⟨pending, found⟩ := aligned.known other (remains other member)
    obtain ⟨changed, present, -⟩ := touches.kept _ pending found
    exact ⟨changed, present⟩
  · exact fun other member => aligned.hits other (remains other member)
  · intro other member
    dsimp only at member
    split at member
    · exact aligned.received other member
    · next passed =>
      rcases List.mem_cons.mp member with rfl | old
      · exact received passed
      · exact aligned.received other old
  · -- an approval whose request was forwarded has a delivery on record
    rintro approvalRequestId ⟨changed, present, forwarded⟩
    by_cases failed : forwardFailed result = true
    · -- a failure forwards nothing
      simp only [failed, if_true]
      apply aligned.reported approvalRequestId
      apply touches.closes _ approvalRequestId ⟨changed, present, forwarded⟩
      intro pending other _ records status
      rw [Records, if_pos failed, status] at records
      simp at records
    · simp only [failed]
      by_cases same : approvalRequestId = delivery.approvalRequestId
      · exact ⟨delivery, List.mem_cons_self, same.symm⟩
      · rw [touches.others approvalRequestId same] at present
        obtain ⟨other, member, named⟩ := aligned.reported approvalRequestId ⟨changed, present, forwarded⟩
        exact ⟨other, List.mem_cons_of_mem _ member, named⟩

theorem Aligned.finish (aligned : dispatch.Aligned) (delivery : Delivery) (receivedCount : Nat) (outcome : HttpOutcome) :
    (dispatch.finished runtime delivery receivedCount outcome).Aligned := by
  unfold finished
  by_cases flying : delivery ∈ dispatch.flights
  · rw [if_pos flying]
    cases answers : callServer delivery.server delivery.call receivedCount outcome with
    | none =>
      have remains : ∀ other ∈ dispatch.flights.erase delivery ++ dispatch.forwarded,
          other ∈ dispatch.flights ++ dispatch.forwarded := by
        intro other member
        rw [List.mem_append] at member ⊢
        exact member.imp List.mem_of_mem_erase id
      constructor
      · exact aligned.sound
      · exact aligned.filed
      · exact aligned.targeted
      · exact fun other member => aligned.known other (remains other member)
      · exact fun other member => aligned.hits other (remains other member)
      · exact aligned.received
      · exact aligned.reported
    | some result =>
      apply aligned.record flying
      · intro passed server named
        rw [named] at answers
        exact callServer_receives answers passed
      · exact recordForwardResult_ends aligned.sound result
  · rw [if_neg flying]
    exact aligned

theorem Aligned.retry (aligned : dispatch.Aligned) (pendingRequestId : String) (payload : PendingRetryRequest) :
    (dispatch.next runtime (.retry pendingRequestId payload)).Aligned := by
  have ends : (retryPendingGatewayRequest runtime pendingRequestId payload).Ends dispatch.store _ :=
    retryPendingGatewayRequest_ends aligned.sound pendingRequestId payload
  rcases ends with ⟨kept, -, servers, same⟩ | ⟨pending, -, -, touches⟩
  · have unmoved : Unmoved dispatch.store _ := ⟨kept, servers, same⟩
    exact aligned.carry unmoved.carries
  · apply aligned.carry
    apply touches.carries
    intro other changed _ waits forwarded
    rw [waits] at forwarded
    cases forwarded

theorem Aligned.next (aligned : dispatch.Aligned) (step : DispatchStep) (aimed : Aimed runtime dispatch step) :
    (dispatch.next runtime step).Aligned := by
  cases step with
  | submitRequest projectId call =>
    have submits : Submits call dispatch.store _ _ :=
      @submitGatewayRequest_ends runtime dispatch.store aligned.sound projectId call
    exact aligned.carry submits.carries
  | toolsCall projectId params => exact aligned.call projectId params
  | resolve approvalRequestId => exact aligned.resolve approvalRequestId aimed
  | finish delivery receivedCount outcome => exact aligned.finish delivery receivedCount outcome
  | retry pendingRequestId payload => exact aligned.retry pendingRequestId payload
  | registerServer payload => exact aligned.reregister (registerChildServer_ends payload)
  | enableServer serverId => exact aligned.reregister (setChildServerEnabled_ends true serverId)
  | disableServer serverId => exact aligned.reregister (setChildServerEnabled_ends false serverId)
  | decide approvalRequests filed projects =>
    constructor
    · exact ⟨filed, aligned.sound.keyed, aligned.sound.single, aligned.sound.recalled⟩
    · exact aligned.filed
    · exact aligned.targeted
    · exact aligned.known
    · exact aligned.hits
    · exact aligned.received
    · exact aligned.reported

theorem Fresh.aligned (fresh : dispatch.Fresh) : dispatch.Aligned := by
  have nothing : ∀ approvalRequestId, dispatch.store.pendingForApproval approvalRequestId = none := by
    intro approvalRequestId
    rw [McpStore.pendingForApproval, fresh.pending]
    rfl
  constructor
  · constructor
    · exact fresh.filed
    · simp [fresh.pending]
    · simp [fresh.pending]
    · intro projectId approvalId call present
      simp [McpStore.pendingCalls, fresh.gateways] at present
  · simp [McpStore.ServersFiled, fresh.servers]
  · simp [fresh.targets]
  · simp [fresh.flights, fresh.forwarded]
  · simp [fresh.flights, fresh.forwarded]
  · simp [fresh.forwarded]
  · rintro approvalRequestId ⟨pending, found, -⟩
    rw [nothing] at found
    cases found

theorem aligned_reachable (reachable : (machine runtime).Reachable (Aimed runtime) dispatch) : dispatch.Aligned :=
  reachable.invariant (fun _ fresh => fresh.aligned) fun _ step aligned aimed => aligned.next step aimed

end Dispatch

/-- In every run in which each resolve finds the checked server enabled and first
of its name, all calls for a registry-checked request go to that very server
while it is enabled, and a forwarded one was received by it. -/
theorem forwarded_to_checked_server (runtime : Runtime) (dispatch : Dispatch)
    (reachable : (Dispatch.machine runtime).Reachable (Dispatch.Aimed runtime) dispatch) (approvalRequestId serverId : String)
    (target : dispatch.targets approvalRequestId = some serverId) :
    (∀ delivery ∈ dispatch.flights ++ dispatch.forwarded, delivery.approvalRequestId = approvalRequestId →
      ∃ server, delivery.server = some server ∧ server.id = serverId ∧ server.enabled = true) ∧
    (dispatch.store.Shows approvalRequestId .forwarded → ∃ delivery ∈ dispatch.forwarded,
      delivery.approvalRequestId = approvalRequestId ∧
        ∃ server, delivery.server = some server ∧ server.id = serverId ∧ server.enabled = true ∧ server.Receives) := by
  have aligned := Dispatch.aligned_reachable reachable
  constructor
  · rintro delivery member rfl
    exact aligned.hits delivery member serverId target
  · intro shows
    obtain ⟨delivery, member, rfl⟩ := aligned.reported approvalRequestId shows
    obtain ⟨server, found, same, enabled⟩ :=
      aligned.hits delivery (List.mem_append_right _ member) serverId target
    exact ⟨delivery, member, rfl, server, found, same, enabled, aligned.received delivery member server found⟩

/-- A resolve that takes up a request while its server is disabled or not the
first of its name sends the call somewhere else. -/
theorem unaimed_misses {runtime : Runtime} {dispatch : Dispatch} (aligned : dispatch.Aligned)
    {approvalRequestId serverId : String} {pending : MCPPendingRequest}
    (takes : dispatch.store.TakesUp runtime approvalRequestId pending)
    (target : dispatch.targets approvalRequestId = some serverId) (misses : ¬ dispatch.store.Foremost serverId) :
    ∃ delivery ∈ (dispatch.next runtime (.resolve approvalRequestId)).flights,
      delivery.approvalRequestId = approvalRequestId ∧
        ∀ server, delivery.server = some server → server.id ≠ serverId := by
  have resolves : Resolves runtime approvalRequestId dispatch.store _ _ := resolveGatewayRequest_ends aligned.sound
  have spends : Spends (∃ pending, dispatch.store.TakesUp runtime approvalRequestId pending) approvalRequestId
      dispatch.store _ _ := resolveGatewayRequest_spends aligned.sound
  have forwards := spends.forwards_iff.mpr ⟨pending, takes⟩
  show ∃ delivery ∈ (dispatch.resolved runtime approvalRequestId).flights, _
  unfold Dispatch.resolved
  generalize (resolveGatewayRequest runtime approvalRequestId).run dispatch.store = outcome at resolves forwards ⊢
  rcases outcome with ⟨error | ⟨decision⟩ | ⟨approval, call⟩, after⟩
  · cases forwards
  · cases forwards
  · obtain ⟨-, ⟨other, found, -, holds⟩, touches⟩ := resolves
    obtain ⟨held, server, present, stored, named⟩ := aligned.targeted approvalRequestId serverId target
    rw [found] at present
    cases present
    refine ⟨_, List.mem_cons_self, rfl, ?_⟩
    intro located search same
    apply misses
    apply (findRegisteredServer_iff aligned.filed stored).mp
    refine ⟨located, ?_, same⟩
    rw [named, ← holds.1, ← Dispatch.findRegisteredServer_of_servers touches.servers]
    exact search

section Sample

/-- Two projects, and nothing registered yet. -/
def twoProjects : Dispatch where
  store := ⟨0, ["project_1", "project_2"], .empty, .empty, .empty, .empty⟩
  flights := []
  forwarded := []
  targets := fun _ => none

theorem twoProjects_fresh : twoProjects.Fresh where
  servers := rfl
  pending := rfl
  gateways := rfl
  filed := by simp [Filed, twoProjects]
  flights := rfl
  forwarded := rfl
  targets := rfl

def filesIn (projectId : String) : MCPChildServerCreate :=
  { projectId, name := "files", transport := "test", endpoint := "", enabled := true,
    tools := [⟨"write_file", .object [], true⟩] }

/-- What the gateway makes of a `tools/call` of the tool. -/
def checkedCall : MCPGatewayToolCall :=
  { serverName := "files", toolName := "write_file", arguments := [], sessionId := none,
    requestedBy := "mcp-jsonrpc-client", mutating := some true }

/-- Its approval, sealed. -/
def checkedApproval (runtime : Runtime) : ApprovalRequest :=
  let requested := newMcpApproval runtime twoProjects.store "project_1" checkedCall 0 0
  { requested with
    status := .approved
    approvedPayloadHash := some (computeApprovalPayloadHash runtime requested) }

def approveChecked (runtime : Runtime) : DispatchStep :=
  .decide (Table.empty.set (checkedApproval runtime).id (checkedApproval runtime)) (by
    intro approvalId approval found
    rw [Table.get?_set] at found
    split at found
    · next same =>
      cases found
      exact same.symm
    · cases found) twoProjects.store.projects

/-- The call of the tool in the first project, its approval and its delivery to a server record. -/
def deliverTo (runtime : Runtime) (server : MCPChildServer) : List DispatchStep :=
  [.toolsCall "project_1" [("name", .text "write_file")], approveChecked runtime, .resolve heldApprovalId,
    .finish ⟨heldApprovalId, checkedCall, some server⟩ 1 .emptyBody]

def firstServer (projectId : String) : MCPChildServer :=
  newChildServer (.plain false) twoProjects.store (filesIn projectId)

/-- Only the first project registers the server. -/
def wellAimed : Dispatch :=
  (Dispatch.machine (.plain false)).runAll twoProjects
    (.registerServer (filesIn "project_1") :: deliverTo (.plain false) (firstServer "project_1"))

theorem forwarded_to_checked_server_sample : ∃ serverId, wellAimed.targets heldApprovalId = some serverId ∧
    (wellAimed.store.Shows heldApprovalId .forwarded → ∃ delivery ∈ wellAimed.forwarded,
      delivery.approvalRequestId = heldApprovalId ∧ ∃ server, delivery.server = some server ∧ server.id = serverId ∧
        server.enabled = true ∧ server.Receives) := by
  have target : wellAimed.targets heldApprovalId = some "mcp_server_" := by decide +kernel
  refine ⟨"mcp_server_", target, (forwarded_to_checked_server (.plain false) wellAimed ?_ heldApprovalId _ target).2⟩
  refine ⟨twoProjects, twoProjects_fresh, Machine.follows_runAll _ _ ⟨trivial, trivial, trivial, ?_, trivial, trivial⟩⟩
  intro pending serverId _ checked
  have runs : ((Dispatch.machine (.plain false)).runAll twoProjects
      [.registerServer (filesIn "project_1"), .toolsCall "project_1" [("name", .text "write_file")],
        approveChecked (.plain false)]).targets heldApprovalId = some (firstServer "project_1").id ∧
      ((Dispatch.machine (.plain false)).runAll twoProjects
        [.registerServer (filesIn "project_1"), .toolsCall "project_1" [("name", .text "write_file")],
          approveChecked (.plain false)]).store.mcpChildServers.values = [firstServer "project_1"] := by decide +kernel
  have same : serverId = (firstServer "project_1").id := Option.some.inj (checked.symm.trans runs.1)
  exact ⟨[], firstServer "project_1", [], runs.2, same.symm, rfl, by simp⟩

/-- Another project has registered a server of the name before. -/
def misaimed : Dispatch :=
  (Dispatch.machine (.plain false)).runAll twoProjects
    (.registerServer (filesIn "project_2") :: .registerServer (filesIn "project_1") ::
      deliverTo (.plain false) (firstServer "project_2"))

theorem forwarded_to_other_project : ¬ ∀ (runtime : Runtime) (dispatch : Dispatch),
    (Dispatch.machine runtime).Reachable Machine.anything dispatch → ∀ approvalRequestId serverId,
      dispatch.targets approvalRequestId = some serverId → dispatch.store.Shows approvalRequestId .forwarded →
        ∃ delivery ∈ dispatch.forwarded, delivery.approvalRequestId = approvalRequestId ∧
          ∃ server, delivery.server = some server ∧ server.id = serverId ∧ server.enabled = true := by
  intro claim
  have runs : misaimed.targets heldApprovalId = some "mcp_server_xxxxxxxxxxx" ∧
      (misaimed.store.pendingForApproval heldApprovalId).map (·.status) = some .forwarded ∧
      misaimed.forwarded.map (fun delivery => delivery.server.map (·.id)) = [some "mcp_server_"] := by decide +kernel
  obtain ⟨target, status, served⟩ := runs
  obtain ⟨pending, found, forwarded⟩ := Option.map_eq_some_iff.mp status
  obtain ⟨delivery, member, -, server, given, named, -⟩ := claim (.plain false) misaimed
    ⟨twoProjects, twoProjects_fresh, Machine.follows_anything _ _⟩ heldApprovalId _ target ⟨pending, found, forwarded⟩
  have identifier : delivery.server.map (·.id) ∈ [some "mcp_server_"] := by
    rw [← served]
    exact List.mem_map_of_mem member
  rw [given, Option.map_some, named] at identifier
  exact absurd identifier (by decide)

end Sample

end ControlTower
