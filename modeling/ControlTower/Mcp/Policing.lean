import ControlTower.Mcp.Effects

/-! Which submissions keep to the registry. A call that a registered server has
down as mutating is to be held before it is forwarded. The gateway decides by
the flag of the call, so a submission keeps to the registry when its flag does. -/

set_option autoImplicit false

namespace ControlTower

open Foundation

/-- Whether calls to a server leave the gateway. -/
def MCPChildServer.Receives (server : MCPChildServer) : Prop :=
  server.transport = "test" ∨
    ((server.transport = "http" ∨ server.transport = "http-jsonrpc") ∧ server.endpoint ≠ "")

/-- The server that answers to a name registers a tool as mutating. -/
def McpStore.Guards (store : McpStore) (serverName toolName : String) : Prop :=
  ∃ server, store.findRegisteredServer serverName = some server ∧ server.Receives ∧
    server.registersMutating toolName = true

/-- A call went to a server that registers its tool as mutating. -/
def ReachesMutating (call : MCPGatewayToolCall) (recipient : Option MCPChildServer) : Prop :=
  ∃ server, recipient = some server ∧ server.registersMutating call.toolName = true

theorem reachesMutating_iff {store : McpStore} {call : MCPGatewayToolCall} :
    ReachesMutating call (store.reached call) ↔ store.Guards call.serverName call.toolName := by
  unfold ReachesMutating McpStore.Guards McpStore.reached
  cases store.findRegisteredServer call.serverName with
  | none => simp
  | some server =>
    by_cases test : server.transport = "test"
    · simp [MCPChildServer.Receives, test]
    · by_cases http : server.transport = "http" ∨ server.transport = "http-jsonrpc"
      · by_cases empty : server.endpoint = ""
        · simp [MCPChildServer.Receives, test, http, empty]
        · simp [MCPChildServer.Receives, test, http, empty]
      · simp [MCPChildServer.Receives, test, http]

section Conditions

variable (params : List (String × Document))

/-- The tool that the parameters of a `tools/call` name. -/
def calledTool : String :=
  match params.lookup "name" with
  | some (.text name) => name
  | _ => ""

/-- The server that they ask for. -/
def calledServer : Option String :=
  match params.lookup "server_name" with
  | some (.text name) => some name
  | _ => none

/-- They mark the call as mutating, or leave that to a built-in name. -/
def DeclaresMutating : Prop :=
  params.lookup "mutating" = some (.flag true) ∨
    ((params.lookup "mutating" = none ∨ params.lookup "mutating" = some .null) ∧
      calledTool params ∈ mcpMutatingToolNames)

/-- The parameters, or the registry of the project, mark as mutating what the
server that gets the call registers so. -/
def KeepsRegistry (store : McpStore) (projectId : String) : Prop :=
  if store.projectChildServers projectId = [] then
    store.Guards (Text.orElse ((calledServer params).getD "") "child-test-server") (calledTool params) →
      DeclaresMutating params
  else ∀ server tool, (server, tool) ∈ store.toolMatches projectId (calledTool params) (calledServer params) →
    store.Guards server.name tool.name → tool.mutating = true

end Conditions

/-- The submissions that keep to the registry in the state they meet. -/
def Policed (runtime : Runtime) (system : McpSystem) : McpStep → Prop
  | .submitRequest projectId call => projectId ∈ system.store.projects →
      system.store.Guards call.serverName call.toolName → call.isMutating = true
  | .toolsCall projectId params => projectId ∈ system.store.projects →
      (toolCallFromParams runtime system.store projectId params).isOk = true → KeepsRegistry params system.store projectId
  | _ => True

/-- A step forwards a call at once to a server that registers its tool as mutating. -/
def Bypasses (runtime : Runtime) (system : McpSystem) (step : McpStep) : Prop :=
  ∃ call recipient, (mcpNext runtime system step).history = system.history ++ [.direct call recipient] ∧
    ReachesMutating call recipient

section Parameters

variable {params : List (String × Document)}

/-- A computation that succeeds succeeds in its first part. -/
theorem bind_ok {α β : Type} {first : Except String α} {next : α → Except String β} {result : β}
    (made : (first >>= next) = .ok result) : ∃ value, first = .ok value ∧ next value = .ok result := by
  cases first with
  | error message => cases made
  | ok value => exact ⟨value, rfl, made⟩

theorem optionalText_calledServer {message : String} {value : Option String}
    (read : optionalText params "server_name" message = .ok value) : value = calledServer params := by
  unfold optionalText at read
  unfold calledServer
  generalize params.lookup "server_name" = given at read
  cases given with
  | none => cases read; rfl
  | some other =>
    cases other with
    | null => cases read; rfl
    | text name => cases read; rfl
    | _ => cases read

/-- What the parameters say about the flag decides what the call does. -/
theorem mutatingOf_isMutating {call : MCPGatewayToolCall} (read : mutatingOf params = .ok call.mutating)
    (named : call.toolName = calledTool params) : call.isMutating = true ↔ DeclaresMutating params := by
  unfold mutatingOf at read
  unfold MCPGatewayToolCall.isMutating DeclaresMutating
  rw [named]
  generalize call.mutating = flag at read
  generalize params.lookup "mutating" = given at read
  cases given with
  | none => cases read; simp
  | some other =>
    cases other with
    | null => cases read; simp
    | flag given => cases read; simp
    | _ => cases read

/-- The name of the tool, once it was accepted. -/
theorem toolNameOf_calledTool {name : String} (read : toolNameOf params = .ok name) : name = calledTool params := by
  unfold toolNameOf at read
  unfold calledTool
  generalize params.lookup "name" = given at read
  cases given with
  | none => cases read
  | some other =>
    cases other with
    | text word =>
      simp only at read
      split at read
      · cases read
      · cases read
        rfl
    | _ => cases read

theorem registeredToolPolicy_ok {store : McpStore} {projectId toolName : String} {requested : Option String}
    {policy : Option (String × Bool × Document)}
    (found : store.registeredToolPolicy projectId toolName requested = .ok policy) :
    (store.projectChildServers projectId = [] ∧ policy = none) ∨
      (store.projectChildServers projectId ≠ [] ∧ ∃ server tool,
        store.toolMatches projectId toolName requested = [(server, tool)] ∧
          policy = some (server.name, tool.mutating, tool.inputSchema)) := by
  unfold McpStore.registeredToolPolicy at found
  by_cases bare : store.projectChildServers projectId = []
  · rw [if_pos bare] at found
    cases found
    exact .inl ⟨bare, rfl⟩
  · rw [if_neg bare] at found
    generalize store.toolMatches projectId toolName requested = matching at found
    match matching, found with
    | [(server, tool)], found =>
      cases found
      exact .inr ⟨bare, server, tool, rfl, rfl⟩

/-- Where the server and the flag of an accepted call come from. -/
theorem toolCallFromParams_ok {runtime : Runtime} {store : McpStore} {projectId : String} {call : MCPGatewayToolCall}
    (made : toolCallFromParams runtime store projectId params = .ok call) :
    call.toolName = calledTool params ∧
      ((store.projectChildServers projectId = [] ∧
          call.serverName = Text.orElse ((calledServer params).getD "") "child-test-server" ∧
          mutatingOf params = .ok call.mutating) ∨
        (store.projectChildServers projectId ≠ [] ∧ ∃ server tool,
          store.toolMatches projectId (calledTool params) (calledServer params) = [(server, tool)] ∧
            call.serverName = server.name ∧ call.mutating = some tool.mutating)) := by
  unfold toolCallFromParams at made
  obtain ⟨toolName, named, made⟩ := bind_ok made
  obtain ⟨arguments, -, made⟩ := bind_ok made
  obtain ⟨requested, asked, made⟩ := bind_ok made
  obtain ⟨sessionId, -, made⟩ := bind_ok made
  obtain ⟨requestedBy, -, made⟩ := bind_ok made
  obtain ⟨flag, flagged, made⟩ := bind_ok made
  obtain ⟨policy, found, made⟩ := bind_ok made
  have tool := toolNameOf_calledTool named
  have server := optionalText_calledServer asked
  subst tool server
  rcases registeredToolPolicy_ok found with ⟨bare, rfl⟩ | ⟨registered, server, tool, matching, rfl⟩
  · cases made
    refine ⟨rfl, .inl ⟨bare, ?_, flagged⟩⟩
    cases given : calledServer params with
    | none => simp [Text.present, Text.orElse]
    | some name => by_cases empty : name = "" <;> simp [Text.present, Text.orElse, empty]
  · obtain ⟨_, -, made⟩ := bind_ok made
    cases made
    exact ⟨rfl, .inr ⟨registered, server, tool, matching, rfl, rfl⟩⟩

/-- The parameters keep to the registry exactly when the call made of them does. -/
theorem keepsRegistry_iff {runtime : Runtime} {store : McpStore} {projectId : String} {call : MCPGatewayToolCall}
    (made : toolCallFromParams runtime store projectId params = .ok call) :
    KeepsRegistry params store projectId ↔ (store.Guards call.serverName call.toolName → call.isMutating = true) := by
  obtain ⟨named, ⟨bare, server, flagged⟩ | ⟨registered, server, tool, matching, served, flagged⟩⟩ :=
    toolCallFromParams_ok made
  · rw [KeepsRegistry, if_pos bare, named, server, mutatingOf_isMutating flagged named]
  · have sameName : tool.name = calledTool params := by
      have member : (server, tool) ∈ store.toolMatches projectId (calledTool params) (calledServer params) := by
        rw [matching]
        exact List.mem_singleton_self _
      simp only [McpStore.toolMatches, List.mem_flatMap, List.mem_map, List.mem_filter] at member
      obtain ⟨_, -, _, ⟨-, same⟩, pair⟩ := member
      cases pair
      simpa using same
    rw [KeepsRegistry, if_neg registered, matching, named, served]
    simp [MCPGatewayToolCall.isMutating, flagged, sameName]

end Parameters

section Submissions

open Foundation.Procedure

variable {runtime : Runtime} {system : McpSystem} {projectId : String}

theorem submitGatewayRequest_forwards {store : McpStore} {call : MCPGatewayToolCall}
    (known : projectId ∈ store.projects) (harmless : call.isMutating = false) :
    ((submitGatewayRequest runtime projectId call).run store).1 = .ok (.forward call) := by
  by_cases made : store.gateways.get? projectId = none <;>
    simp [submitGatewayRequest, gatewayForProject, submitToolCall, run_bind, demand, onlyIf, known, harmless, made]

theorem submitGatewayRequest_unknown {store : McpStore} {call : MCPGatewayToolCall}
    (unknown : projectId ∉ store.projects) : (submitGatewayRequest runtime projectId call).run store =
      (.error (.http 404 "Project not found"), store) := by
  simp [submitGatewayRequest, gatewayForProject, run_bind, demand, unknown]

theorem handleToolsCall_accepted {store : McpStore} {params : List (String × Document)} {call : MCPGatewayToolCall}
    (known : projectId ∈ store.projects) (made : toolCallFromParams runtime store projectId params = .ok call) :
    (handleToolsCall runtime projectId params).run store = (submitGatewayRequest runtime projectId call).run store := by
  simp [handleToolsCall, run_bind, demand, known, made]

/-- A submission that is turned away changes nothing. -/
theorem handleToolsCall_refused {store : McpStore} {params : List (String × Document)}
    (refused : projectId ∈ store.projects → ∃ message, toolCallFromParams runtime store projectId params = .error message) :
    ∃ error, (handleToolsCall runtime projectId params).run store = (.error error, store) := by
  by_cases known : projectId ∈ store.projects
  · obtain ⟨message, failed⟩ := refused known
    exact ⟨.valueError message, by simp [handleToolsCall, run_bind, demand, known, failed]⟩
  · exact ⟨.http 404 "Project not found", by simp [handleToolsCall, run_bind, demand, known]⟩

theorem reached_of_servers {before after : McpStore} (same : after.mcpChildServers = before.mcpChildServers)
    (call : MCPGatewayToolCall) : after.reached call = before.reached call := by
  simp only [McpStore.reached, McpStore.findRegisteredServer, same]

/-- A history does not end in two ways at once. -/
theorem history_ne_concat (history : List ForwardEvent) (event : ForwardEvent) : history ≠ history ++ [event] := by
  intro same
  have lengths := congrArg List.length same
  simp at lengths

/-- A submitted call bypasses the registry when its flag is off and its server registers its tool as mutating. -/
theorem submitted_bypasses_iff («sound» : system.store.Sound) (call : MCPGatewayToolCall) :
    (∃ sent recipient, (system.submitted ((submitGatewayRequest runtime projectId call).run system.store)).history =
        system.history ++ [.direct sent recipient] ∧ ReachesMutating sent recipient) ↔
      projectId ∈ system.store.projects ∧ system.store.Guards call.serverName call.toolName ∧ call.isMutating = false := by
  have ends : (submitGatewayRequest runtime projectId call).Ends system.store (Submits call system.store) :=
    submitGatewayRequest_ends («sound») projectId call
  unfold Ends at ends
  constructor
  · rintro ⟨sent, recipient, written, reaches⟩
    generalize outcome : (submitGatewayRequest runtime projectId call).run system.store = result at written ends
    have known : projectId ∈ system.store.projects := by
      by_contra unknown
      rw [submitGatewayRequest_unknown unknown] at outcome
      subst outcome
      exact absurd written (history_ne_concat _ _)
    rcases result with ⟨error | ⟨other⟩ | ⟨heldId, other, decision⟩, after⟩
    · exact absurd written (history_ne_concat _ _)
    · obtain ⟨rfl, harmless, unmoved⟩ := ends
      have event := List.append_cancel_left written
      simp only [List.cons.injEq, ForwardEvent.direct.injEq, and_true] at event
      obtain ⟨rfl, rfl⟩ := event
      rw [reached_of_servers unmoved.servers, reachesMutating_iff] at reaches
      exact ⟨known, reaches, harmless⟩
    · have event := List.append_cancel_left written
      simp at event
  · rintro ⟨known, guards, harmless⟩
    have forwards : ((submitGatewayRequest runtime projectId call).run system.store).1 = _ :=
      submitGatewayRequest_forwards known harmless
    generalize (submitGatewayRequest runtime projectId call).run system.store = result at forwards ends
    rcases result with ⟨answer, after⟩
    cases forwards
    refine ⟨call, after.reached call, rfl, ?_⟩
    rw [reached_of_servers ends.2.2.servers]
    exact reachesMutating_iff.mpr guards

/-- A step that writes no direct call bypasses nothing. -/
theorem not_bypasses {step : McpStep} (written : ∀ call recipient,
    (mcpNext runtime system step).history ≠ system.history ++ [.direct call recipient]) :
    ¬ Bypasses runtime system step := by
  rintro ⟨call, recipient, direct, -⟩
  exact written call recipient direct

/-- The condition is exact: a step bypasses the registry if and only if it does not keep to it. -/
theorem bypasses_iff («sound» : system.store.Sound) (step : McpStep) :
    ¬ Bypasses runtime system step ↔ Policed runtime system step := by
  cases step with
  -- only a submission and a tools/call can forward a call at once
  | submitRequest projectId call =>
    rw [Bypasses, mcpNext, submitted_bypasses_iff («sound») call, Policed]
    grind
  | toolsCall projectId params =>
    rw [Bypasses, mcpNext, Policed]
    by_cases known : projectId ∈ system.store.projects
    · cases made : toolCallFromParams runtime system.store projectId params with
      | error message =>
        obtain ⟨error, refused⟩ := handleToolsCall_refused fun _ => ⟨message, made⟩
        rw [refused]
        simp [McpSystem.submitted, Except.isOk, Except.toBool]
      | ok call =>
        rw [handleToolsCall_accepted known made, submitted_bypasses_iff («sound») call, keepsRegistry_iff made]
        simp [known, Except.isOk, Except.toBool]
    · have refused : ∃ error, (handleToolsCall runtime projectId params).run system.store = (.error error, system.store) :=
        handleToolsCall_refused fun here => absurd here known
      obtain ⟨error, refused⟩ := refused
      rw [refused]
      simp [McpSystem.submitted, known]
  -- a resolve forwards on an approval, which bypasses nothing
  | resolve approvalRequestId =>
    refine iff_of_true (not_bypasses ?_) trivial
    intro call recipient
    rw [mcpNext, McpSystem.resolved]
    split <;> simp
  | finish flight answer =>
    refine iff_of_true (not_bypasses ?_) trivial
    intro call recipient
    show (system.finished runtime flight answer).history ≠ _
    unfold McpSystem.finished
    split
    · cases answer <;> simp
    · simp
  | retry pendingRequestId payload => exact iff_of_true (not_bypasses (by simp [mcpNext])) trivial
  | outside change => exact iff_of_true (not_bypasses (by simp [mcpNext])) trivial

end Submissions

/-- Where a call left the gateway, and what it asked for. -/
def ForwardEvent.reaches : ForwardEvent → Option (MCPGatewayToolCall × Option MCPChildServer)
  | .direct call recipient | .called _ _ call recipient => some (call, recipient)
  | .held _ _ | .answered _ _ => none

/-- Two calls of the same tool with the same arguments. -/
def MCPGatewayToolCall.Asks (first second : MCPGatewayToolCall) : Prop :=
  second.serverName = first.serverName ∧ second.toolName = first.toolName ∧ second.arguments = first.arguments

/-- An event that reaches a server which registers its tool as mutating is the
call of a resolve on an approved approval for which the same call was held before. -/
def Mediated (runtime : Runtime) (before : List ForwardEvent) (event : ForwardEvent) : Prop :=
  ∀ call recipient, event.reaches = some (call, recipient) → ReachesMutating call recipient →
    ∃ approvalRequestId approval first, event = .called approvalRequestId approval call recipient ∧
      approval.IsApproved runtime ∧ .held approvalRequestId first ∈ before ∧ first.Asks call

/-- Every event of a history is mediated by the events before it. -/
def AllMediated (runtime : Runtime) (history : List ForwardEvent) : Prop :=
  ∀ before event rest, history = before ++ event :: rest → Mediated runtime before event

theorem AllMediated.concat {runtime : Runtime} {history : List ForwardEvent} (all : AllMediated runtime history)
    {event : ForwardEvent} (mediated : Mediated runtime history event) : AllMediated runtime (history ++ [event]) := by
  intro before other rest split
  rcases List.eq_nil_or_concat rest with rfl | ⟨middle, last, rfl⟩
  · obtain ⟨rfl, same⟩ := List.append_inj' split rfl
    cases same
    exact mediated
  · have parts : history ++ [event] = (before ++ other :: middle) ++ [last] := by simpa using split
    obtain ⟨rfl, -⟩ := List.append_inj' parts rfl
    exact all before other middle rfl

/-- What holds between two steps: every pending request was announced, and every event is mediated. -/
structure McpSystem.Policing (runtime : Runtime) (system : McpSystem) : Prop where
  «sound» : system.store.Sound
  announced : ∀ approvalRequestId pending, system.store.pendingForApproval approvalRequestId = some pending →
    ∃ first, .held approvalRequestId first ∈ system.history ∧ pending.Holds first
  mediated : AllMediated runtime system.history

section Invariant

variable {runtime : Runtime} {system : McpSystem} {after : McpStore} {approvalRequestId : String}

/-- Every pending request of a store stands for one of an earlier store. -/
def Retraces (before after : McpStore) : Prop :=
  ∀ approvalRequestId changed, after.pendingForApproval approvalRequestId = some changed →
    ∃ pending, before.pendingForApproval approvalRequestId = some pending ∧ pending.SameCall changed

theorem Touches.retraces {change : MCPPendingRequest → MCPPendingRequest → Prop} {before : McpStore}
    (touches : Touches approvalRequestId change before after) : Retraces before after := by
  intro other changed found
  by_cases same : other = approvalRequestId
  · subst same
    obtain ⟨pending, stored, alike, -⟩ := touches.exists_before found
    exact ⟨pending, stored, alike⟩
  · rw [touches.others other same] at found
    exact ⟨changed, found, SameCall.refl changed⟩

theorem Unmoved.retraces {before : McpStore} (unmoved : Unmoved before after) : Retraces before after := by
  intro other changed found
  rw [unmoved.pending] at found
  exact ⟨changed, found, SameCall.refl changed⟩

namespace McpSystem.Policing

variable {events : List ForwardEvent} {flights : List Flight}

/-- The store changes, and events follow that are mediated. -/
theorem move (policing : system.Policing runtime) («sound» : after.Sound) (retraces : Retraces system.store after) :
    ({ system with store := after } : McpSystem).Policing runtime where
  «sound» := «sound»
  announced other changed found := by
    obtain ⟨pending, stored, alike⟩ := retraces other changed found
    obtain ⟨first, held, holds⟩ := policing.announced other pending stored
    refine ⟨first, held, ?_⟩
    exact ⟨holds.1.trans alike.2.2.1.symm, holds.2.1.trans alike.2.2.2.1.symm, holds.2.2.trans alike.2.2.2.2.symm⟩
  mediated := policing.mediated

theorem record (policing : system.Policing runtime) (flights : List Flight) {event : ForwardEvent}
    (mediated : Mediated runtime system.history event) :
    ({ system with flights, history := system.history ++ [event] } : McpSystem).Policing runtime where
  «sound» := policing.sound
  announced other pending found := by
    obtain ⟨first, held, holds⟩ := policing.announced other pending found
    exact ⟨first, List.mem_append_left _ held, holds⟩
  mediated := policing.mediated.concat mediated

/-- An event that reaches no server is mediated. -/
theorem mediated_silent {before : List ForwardEvent} {event : ForwardEvent} (silent : event.reaches = none) :
    Mediated runtime before event := by
  intro call recipient reaches
  rw [silent] at reaches
  cases reaches

theorem submit (policing : system.Policing runtime) {call : MCPGatewayToolCall}
    {outcome : Except Raised SubmitOutcome × McpStore} (submits : Submits call system.store outcome.1 outcome.2)
    (keeps : ¬ ∃ sent recipient, (system.submitted outcome).history = system.history ++ [.direct sent recipient] ∧
      ReachesMutating sent recipient) : (system.submitted outcome).Policing runtime := by
  unfold McpSystem.submitted at keeps ⊢
  rcases outcome with ⟨error | ⟨sent⟩ | ⟨heldId, sent, decision⟩, after⟩
  · have unmoved : Unmoved system.store after := submits
    exact policing.move unmoved.sound unmoved.retraces
  · obtain ⟨rfl, -, unmoved⟩ := submits
    apply (policing.move unmoved.sound unmoved.retraces).record
    rintro call recipient ⟨⟩ reaches
    exact absurd ⟨sent, after.reached sent, rfl, reaches⟩ keeps
  · obtain ⟨rfl, -, adds⟩ := submits
    constructor
    · exact adds.sound
    · intro other pending found
      by_cases same : other = heldId
      · subst same
        obtain ⟨added, stored, holds, -⟩ := adds.added
        have twin : added = pending := Option.some.inj (stored.symm.trans found)
        subst twin
        exact ⟨sent, by simp, holds⟩
      · have old := (adds.others other same).symm.trans found
        obtain ⟨first, held, holds⟩ := policing.announced other pending old
        exact ⟨first, List.mem_append_left _ held, holds⟩
    · exact policing.mediated.concat (mediated_silent rfl)

theorem resolve (policing : system.Policing runtime) {outcome : Except Raised ResolveOutcome × McpStore}
    (resolves : Resolves runtime approvalRequestId system.store outcome.1 outcome.2) :
    (system.resolved approvalRequestId outcome).Policing runtime := by
  unfold McpSystem.resolved
  rcases outcome with ⟨error | ⟨decision⟩ | ⟨approval, call⟩, after⟩
  · have touches : Touches approvalRequestId _ system.store after := resolves
    exact policing.move touches.sound touches.retraces
  · have touches : Touches approvalRequestId _ system.store after := resolves
    exact policing.move touches.sound touches.retraces
  · obtain ⟨approved, ⟨pending, found, -, asks⟩, forwards⟩ := resolves
    obtain ⟨first, held, holds⟩ := policing.announced approvalRequestId pending found
    apply (policing.move forwards.sound forwards.retraces).record
    rintro sent recipient ⟨⟩ -
    refine ⟨approvalRequestId, approval, first, rfl, approved, held, ?_⟩
    exact ⟨asks.1.trans holds.1.symm, asks.2.1.trans holds.2.1.symm, asks.2.2.trans holds.2.2.symm⟩

theorem finish (policing : system.Policing runtime) (flight : Flight) (answer : Option Document) :
    (system.finished runtime flight answer).Policing runtime := by
  unfold McpSystem.finished
  split
  · cases answer with
    | none => exact ⟨policing.sound, policing.announced, policing.mediated⟩
    | some result =>
      have touches : (recordForwardResult runtime flight.approvalRequestId result).Ends system.store fun _ after =>
          Touches flight.approvalRequestId (Records result) system.store after :=
        recordForwardResult_ends policing.sound result
      unfold Procedure.Ends at touches
      exact (policing.move touches.sound touches.retraces).record _ (mediated_silent rfl)
  · exact policing

/-- Every step that keeps to the registry keeps the policing. -/
theorem step (policing : system.Policing runtime) (step : McpStep) (policed : Policed runtime system step) :
    (mcpNext runtime system step).Policing runtime := by
  have keeps := (bypasses_iff policing.sound step).mpr policed
  cases step with
  | submitRequest projectId call =>
    exact policing.submit (submitGatewayRequest_ends policing.sound projectId call) keeps
  | toolsCall projectId params =>
    by_cases accepted : projectId ∈ system.store.projects ∧
        ∃ call, toolCallFromParams runtime system.store projectId params = .ok call
    · obtain ⟨known, call, made⟩ := accepted
      rw [Bypasses, mcpNext, handleToolsCall_accepted known made] at keeps
      rw [mcpNext, handleToolsCall_accepted known made]
      exact policing.submit (submitGatewayRequest_ends policing.sound projectId call) keeps
    · have refused : projectId ∈ system.store.projects →
          ∃ message, toolCallFromParams runtime system.store projectId params = .error message := by
        intro known
        cases made : toolCallFromParams runtime system.store projectId params with
        | error message => exact ⟨message, rfl⟩
        | ok call => exact absurd ⟨known, call, made⟩ accepted
      obtain ⟨error, stopped⟩ := handleToolsCall_refused refused
      rw [mcpNext, stopped]
      exact policing
  | resolve approvalRequestId => exact policing.resolve (resolveGatewayRequest_ends policing.sound)
  | finish flight answer => exact policing.finish flight answer
  | retry pendingRequestId payload =>
    have retried : (retryPendingGatewayRequest runtime pendingRequestId payload).Ends system.store _ :=
      retryPendingGatewayRequest_ends policing.sound pendingRequestId payload
    rcases retried with ⟨kept, -, servers, same⟩ | ⟨pending, -, -, touches⟩
    · exact policing.move kept (Unmoved.retraces ⟨kept, servers, same⟩)
    · exact policing.move touches.sound touches.retraces
  | outside change =>
    exact ⟨⟨change.filed, policing.sound.keyed, policing.sound.single, policing.sound.recalled⟩, policing.announced,
      policing.mediated⟩

end McpSystem.Policing

theorem McpSystem.Fresh.policing (fresh : system.Fresh) : system.Policing runtime where
  «sound» := fresh.sound
  announced := by simp [McpStore.pendingForApproval, fresh.pending, Table.values, Table.empty]
  mediated := by simp [AllMediated, fresh.history]

end Invariant

/-- A step bypasses the registry exactly where it does not keep to it; and where
every step keeps to it, a call that reaches a server which registers its tool as
mutating was held first and went out by a resolve on its approved approval. -/
theorem mcp_policy_holds (runtime : Runtime) :
    (∀ system, (mcpMachine runtime).Reachable Machine.anything system →
      ∀ step, ¬ Bypasses runtime system step ↔ Policed runtime system step) ∧
    ∀ system, (mcpMachine runtime).Reachable (Policed runtime) system → AllMediated runtime system.history := by
  constructor
  · intro system reachable step
    exact bypasses_iff (sound_reachable reachable) step
  · intro system reachable
    have policing : system.Policing runtime :=
      reachable.invariant (fun _ fresh => fresh.policing) fun _ step policing policed => policing.step step policed
    exact policing.mediated

section Sample

/-- A call that is held, approved and forwarded. -/
def forwardedOnApproval : McpSystem :=
  (mcpMachine (.plain false)).runAll registeredSystem [.submitRequest "project_1" (writeCall none),
    approveCall (.plain false), .resolve heldApprovalId]

theorem mcp_policy_holds_sample : forwardedOnApproval.history.length = 2 ∧
    AllMediated (.plain false) forwardedOnApproval.history := by
  refine ⟨by decide +kernel, (mcp_policy_holds (.plain false)).2 _ ⟨registeredSystem, registeredSystem_fresh, ?_⟩⟩
  apply Machine.follows_runAll
  exact ⟨fun _ _ => by decide, trivial, trivial, trivial⟩

/-- A client marks its call of a registered mutating tool as harmless. -/
def forwardedAtOnce : McpSystem :=
  (mcpMachine (.plain false)).runAll registeredSystem [.submitRequest "project_1" (writeCall (some false))]

theorem client_flag_bypasses_registry : ¬ ∀ (runtime : Runtime) (system : McpSystem),
    (mcpMachine runtime).Reachable Machine.anything system → AllMediated runtime system.history := by
  intro claim
  have mediated := claim (.plain false) forwardedAtOnce
    ⟨registeredSystem, registeredSystem_fresh, Machine.follows_anything _ _⟩
  have direct : forwardedAtOnce.history = [.direct (writeCall (some false)) (some filesServer)] := by decide
  obtain ⟨_, _, _, called, -⟩ := mediated [] _ [] direct _ _ rfl ⟨filesServer, rfl, by decide⟩
  cases called

end Sample

end ControlTower
