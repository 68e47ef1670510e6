import ControlTower.Connector.Credentials
import ControlTower.Connector.Simulator

/-! The simulator against the live webhook. Both permit the same payloads; the live
webhook also asks for a way to authenticate, bounds the metadata and reads the state of
its rate limit. -/

set_option autoImplicit false

namespace ControlTower.Connectors

open Foundation
open Foundation.Procedure

section Permission

/-- The project and the repository are in the scope of a connector. -/
structure InScope (connector : AgentConnector) (projectId repository : Option String) : Prop where
  project : outsideAllowList projectId (connector.allowedProjectIds.getD []) = false
  repository : outsideAllowList repository (connector.allowedRepositories.getD []) = false

/-- A task that a connector may create. -/
structure MayCreate (store : ConnectorStore) (connector : AgentConnector) (payload : ConnectorWebhookPayload) : Prop where
  action : ∃ allowed, connector.allowedActions = some allowed ∧ allowed.contains .createAgentTask = true
  projectId : Text.present payload.projectId = true
  project : payload.projectId.getD "" ∈ store.projects
  named : Text.present payload.title = true ∧ Text.present payload.goal = true
  scope : InScope connector payload.projectId payload.repository

/-- An event that a connector may append. -/
structure MayAppend (store : ConnectorStore) (connector : AgentConnector) (payload : ConnectorWebhookPayload) : Prop where
  action : ∃ allowed, connector.allowedActions = some allowed ∧ allowed.contains .appendAgentTaskEvent = true
  taskId : Text.present payload.taskId = true
  task : ∃ task, store.agentTasks.get? (payload.taskId.getD "") = some task ∧ ownsTask connector task = true ∧
    InScope connector task.projectId task.repository

/-- What a connector may ask for, whatever its credentials. -/
def Permitted (store : ConnectorStore) (connector : AgentConnector) (payload : ConnectorWebhookPayload) : Prop :=
  match payload.action with
  | .createAgentTask => MayCreate store connector payload
  | .appendAgentTaskEvent => MayAppend store connector payload
  | _ => False

end Permission

section Simulator

theorem noteIf_eq_nil {condition : Bool} {message : String} : noteIf condition message = [] ↔ condition = false := by
  cases condition <;> simp [noteIf]

theorem scopeErrors_eq_nil {connector : AgentConnector} {projectId repository : Option String} :
    scopeErrors connector projectId repository = [] ↔ InScope connector projectId repository := by
  unfold scopeErrors
  rw [List.append_eq_nil_iff, noteIf_eq_nil, noteIf_eq_nil]
  exact ⟨fun both => ⟨both.1, both.2⟩, fun scope => ⟨scope.project, scope.repository⟩⟩

theorem previewUnless_ok {errors : List String} {preview : List (String × Document)} :
    (∃ shown, previewUnless errors preview = .ok shown) ↔ errors = [] := by
  unfold previewUnless
  split
  · rename_i none
    exact ⟨fun _ => none, fun _ => ⟨_, rfl⟩⟩
  · rename_i some
    constructor
    · rintro ⟨shown, impossible⟩
      cases impossible
    · exact fun none => absurd none some

theorem projectErrors_eq_nil {store : ConnectorStore} {projectId : Option String} :
    (if Text.present projectId = false then ["project_id is required for CREATE_AGENT_TASK."]
      else noteIf (!store.projects.contains (projectId.getD "")) "Project not found.") = [] ↔
      Text.present projectId = true ∧ projectId.getD "" ∈ store.projects := by
  cases Text.present projectId with
  | false => simp
  | true => simp [noteIf_eq_nil]

theorem simulateCreateTask_ok (store : ConnectorStore) (connector : AgentConnector) (payload : ConnectorWebhookPayload) :
    (∃ preview, simulateCreateTask store connector payload = some (.ok preview)) ↔ MayCreate store connector payload := by
  unfold simulateCreateTask
  -- without allowed actions the preview raises
  cases actions : connector.allowedActions with
  | none =>
    constructor
    · rintro ⟨preview, impossible⟩
      cases impossible
    · intro may
      obtain ⟨allowed, same, _⟩ := may.action
      rw [actions] at same
      cases same
  | some allowed =>
    -- a preview is shown exactly when it has no errors
    have shown (errors : List String) (preview : List (String × Document)) :
        (∃ other, (some (previewUnless errors preview) : Simulated) = some (.ok other)) ↔ errors = [] := by
      simp only [Option.some.injEq]
      exact previewUnless_ok
    refine (shown _ _).trans ?_
    rw [List.append_eq_nil_iff, List.append_eq_nil_iff, List.append_eq_nil_iff, noteIf_eq_nil, noteIf_eq_nil,
      scopeErrors_eq_nil, projectErrors_eq_nil]
    constructor
    · rintro ⟨⟨⟨action, present, known⟩, named⟩, scope⟩
      exact
        { action := ⟨allowed, actions, by simpa using action⟩
          projectId := present
          project := known
          named := by simpa using named
          scope }
    · intro may
      obtain ⟨held, same, contained⟩ := may.action
      rw [actions] at same
      cases same
      exact ⟨⟨⟨by simpa using contained, may.projectId, may.project⟩, by simpa using may.named⟩, may.scope⟩

theorem simulateAppendEvent_ok (store : ConnectorStore) (connector : AgentConnector) (payload : ConnectorWebhookPayload) :
    (∃ preview, simulateAppendEvent store connector payload = some (.ok preview)) ↔ MayAppend store connector payload := by
  unfold simulateAppendEvent
  cases actions : connector.allowedActions with
  | none =>
    constructor
    · rintro ⟨preview, impossible⟩
      cases impossible
    · intro may
      obtain ⟨allowed, same, _⟩ := may.action
      rw [actions] at same
      cases same
  | some allowed =>
    have shown (errors : List String) (preview : List (String × Document)) :
        (∃ other, (some (previewUnless errors preview) : Simulated) = some (.ok other)) ↔ errors = [] := by
      simp only [Option.some.injEq]
      exact previewUnless_ok
    dsimp only [Option.bind_eq_bind, Option.bind_some]
    -- without a task id nothing is read
    by_cases present : Text.present payload.taskId = false
    · rw [if_pos present]
      constructor
      · rintro ⟨preview, impossible⟩
        cases impossible
      · intro may
        rw [may.taskId] at present
        cases present
    · rw [if_neg present]
      -- without the task the preview ends at once
      cases found : store.agentTasks.get? (payload.taskId.getD "") with
      | none =>
        constructor
        · rintro ⟨preview, impossible⟩
          cases impossible
        · intro may
          obtain ⟨task, stored, _⟩ := may.task
          rw [found] at stored
          cases stored
      | some task =>
        refine (shown _ _).trans ?_
        rw [List.append_eq_nil_iff, List.append_eq_nil_iff, noteIf_eq_nil, noteIf_eq_nil, scopeErrors_eq_nil]
        constructor
        · rintro ⟨⟨action, owned⟩, scope⟩
          exact
            { action := ⟨allowed, actions, by simpa using action⟩
              taskId := by simpa using present
              task := ⟨task, found, by simpa using owned, scope⟩ }
        · intro may
          obtain ⟨held, same, contained⟩ := may.action
          rw [actions] at same
          cases same
          obtain ⟨other, stored, owned, scope⟩ := may.task
          rw [found] at stored
          cases stored
          exact ⟨⟨by simpa using contained, by simpa using owned⟩, scope⟩

variable (runtime : ConnectorRuntime)

/-- The simulator answers that a payload would be accepted. -/
def SimulatorAccepts (store : ConnectorStore) (connector : AgentConnector) (payload : List (String × Document)) : Prop :=
  ∃ response, simulateConnectorWebhook runtime store connector ⟨payload, none, true⟩ = some response ∧
    response.accepted = true

/-- The connector is ready, and permits what the payload is read as. -/
structure Admissible (store : ConnectorStore) (connector : AgentConnector) (payload : List (String × Document))
    (read : ConnectorWebhookPayload) : Prop where
  enabled : connector.status = .enabled
  configured : secretConfigured connector = true
  readable : readPayload runtime connector none (.object payload) = some read
  permitted : Permitted store connector read

theorem authWarnings_ready (connector : AgentConnector) :
    (authWarnings connector true).1 = true ↔ connector.status = .enabled ∧ secretConfigured connector = true := by
  unfold authWarnings
  simp

/-- A simulated action is answered as accepted when it has a preview and authentication is ready. -/
theorem answered_accepts {simulated : Simulated} {answered : SimulationResponse}
    {place : SimulationResponse → List (String × Document) → SimulationResponse}
    (placed : ∀ preview, (place { answered with accepted := answered.authReady, scopeReady := true } preview).accepted =
      answered.authReady)
    (refused : answered.accepted = false) :
    (∃ response, simulated.map (answerSimulated answered place) = some response ∧ response.accepted = true) ↔
      answered.authReady = true ∧ ∃ preview, simulated = some (.ok preview) := by
  rcases simulated with _ | errors | preview
  · constructor
    · rintro ⟨response, impossible, _⟩
      cases impossible
    · rintro ⟨_, preview, impossible⟩
      cases impossible
  · constructor
    · rintro ⟨response, same, accepted⟩
      cases same
      rw [show (answerSimulated answered place (.error errors)).accepted = answered.accepted from rfl, refused] at accepted
      cases accepted
    · rintro ⟨_, preview, impossible⟩
      cases impossible
  · constructor
    · rintro ⟨response, same, accepted⟩
      cases same
      exact ⟨(placed preview).symm.trans accepted, preview, rfl⟩
    · rintro ⟨ready, _⟩
      exact ⟨_, rfl, (placed preview).trans ready⟩

/-- The simulator accepts exactly what is admissible. -/
theorem simulator_accepts_iff (store : ConnectorStore) (connector : AgentConnector) (payload : List (String × Document)) :
    SimulatorAccepts runtime store connector payload ↔ ∃ read, Admissible runtime store connector payload read := by
  unfold SimulatorAccepts simulateConnectorWebhook
  dsimp only
  cases readable : readPayload runtime connector none (.object payload) with
  | none =>
    constructor
    · rintro ⟨response, answered, accepted⟩
      cases answered
      cases accepted
    · rintro ⟨read, admissible⟩
      have present := admissible.readable
      rw [readable] at present
      cases present
  | some read =>
    have reads (other : ConnectorWebhookPayload) : Admissible runtime store connector payload other ↔
        other = read ∧ (authWarnings connector true).1 = true ∧ Permitted store connector read := by
      rw [authWarnings_ready]
      constructor
      · intro admissible
        have present := admissible.readable
        rw [readable] at present
        cases present
        exact ⟨rfl, ⟨admissible.enabled, admissible.configured⟩, admissible.permitted⟩
      · rintro ⟨rfl, ready, permitted⟩
        exact ⟨ready.1, ready.2, readable, permitted⟩
    simp only [reads, exists_eq_left]
    unfold Permitted
    cases read.action with
    | createAgentTask =>
      rw [← simulateCreateTask_ok]
      exact answered_accepts (fun _ => rfl) rfl
    | appendAgentTaskEvent =>
      rw [← simulateAppendEvent_ok]
      exact answered_accepts (fun _ => rfl) rfl
    -- the simulator handles no other action
    | createApproval | createWorkOrder | readAgentTask | executeGithub =>
      constructor
      · rintro ⟨response, answered, accepted⟩
        cases answered
        cases accepted
      · rintro ⟨_, impossible⟩
        exact impossible.elim

end Simulator

section Live

/-- The work ends with an answer. -/
def Answers {σ α : Type} (body : Procedure σ Raised α) (state : σ) : Prop := body.Ends state fun outcome _ => outcome.isOk = true

variable {σ α β : Type} {state : σ}

theorem answers_pure (value : α) : Answers (pure value : Procedure σ Raised α) state := rfl

theorem answers_demand {condition : Prop} [Decidable condition] {error : Raised} {next : Unit → Procedure σ Raised α} :
    Answers (demand condition error >>= next) state ↔ condition ∧ Answers (next ()) state := by
  unfold Answers
  rw [ends_bind, ends_demand]
  constructor
  · rintro ⟨passes, refused⟩
    by_cases holds : condition
    · exact ⟨holds, passes holds⟩
    · exact absurd (refused holds) (by simp [Except.isOk, Except.toBool])
  · rintro ⟨holds, answers⟩
    exact ⟨fun _ => answers, fun fails => absurd holds fails⟩

theorem answers_last {condition : Prop} [Decidable condition] {error : Raised} :
    Answers (demand condition error) state ↔ condition := by
  unfold Answers
  rw [ends_demand]
  by_cases holds : condition
  · simp [holds, Except.isOk, Except.toBool]
  · simp [holds, Except.isOk, Except.toBool]

theorem answers_found {value : Option β} {error : Raised} {next : β → Procedure σ Raised α} :
    Answers (found value error >>= next) state ↔ ∃ present, value = some present ∧ Answers (next present) state := by
  unfold Answers
  rw [ends_bind, ends_found]
  cases value with
  | none =>
    constructor
    · rintro ⟨_, refused⟩
      exact absurd (refused rfl) (by simp [Except.isOk, Except.toBool])
    · rintro ⟨present, impossible, _⟩
      cases impossible
  | some present =>
    constructor
    · rintro ⟨passes, _⟩
      exact ⟨present, rfl, passes present rfl⟩
    · rintro ⟨other, same, answers⟩
      cases same
      exact ⟨fun value same => by cases same; exact answers, fun impossible => by cases impossible⟩

/-- A first part that always answers and does not look at what the rest asks for. -/
theorem answers_bind {first : Procedure σ Raised β} {next : β → Procedure σ Raised α} :
    Answers (first >>= next) state ↔
      ∃ value after, first.run state = (.ok value, after) ∧ Answers (next value) after := by
  unfold Answers Ends
  rw [run_bind]
  rcases first.run state with ⟨error | value, after⟩
  · constructor
    · intro impossible
      cases impossible
    · rintro ⟨value, after, impossible, _⟩
      cases impossible
  · constructor
    · exact fun answers => ⟨value, after, rfl, answers⟩
    · rintro ⟨value, after, same, answers⟩
      cases same
      exact answers

theorem answers_assoc {γ : Type} {first : Procedure σ Raised γ} {second : γ → Procedure σ Raised β}
    {next : β → Procedure σ Raised α} :
    Answers ((first >>= second) >>= next) state ↔ Answers (first >>= fun value => second value >>= next) state := by
  unfold Answers
  exact ends_assoc.symm

theorem answers_read {next : σ → Procedure σ Raised α} :
    Answers (Procedure.state >>= next) state ↔ Answers (next state) state := Iff.rfl

theorem answers_current {state : ConnectorCase} {next : AgentConnector → CaseProcedure α} :
    Answers (currentConnector >>= next) state ↔ Answers (next state.connector) state := Iff.rfl

theorem answers_clock {runtime : Runtime} {state : ConnectorCase} {next : Instant → CaseProcedure α} :
    Answers (readClock runtime >>= next) state ↔
      Answers (next (runtime.clock state.ticks)) { state with ticks := state.ticks + 1 } := Iff.rfl

theorem answers_change {change : AgentConnector → AgentConnector} {state : ConnectorCase} :
    Answers (changeConnector change) state := rfl

theorem answers_action {connector : AgentConnector} {action : AgentAction} {next : Unit → Procedure σ Raised α} :
    Answers (assertConnectorAction connector action >>= next) state ↔
      (∃ allowed, connector.allowedActions = some allowed ∧ allowed.contains action = true) ∧ Answers (next ()) state := by
  unfold assertConnectorAction
  rw [answers_assoc, answers_found]
  simp only [answers_demand]
  constructor
  · rintro ⟨allowed, same, contained, answers⟩
    exact ⟨⟨allowed, same, contained⟩, answers⟩
  · rintro ⟨⟨allowed, same, contained⟩, answers⟩
    exact ⟨allowed, same, contained, answers⟩

theorem answers_scope {connector : AgentConnector} {projectId repository : Option String}
    {next : Unit → Procedure σ Raised α} :
    Answers (assertConnectorScope connector projectId repository >>= next) state ↔
      InScope connector projectId repository ∧ Answers (next ()) state := by
  unfold assertConnectorScope
  rw [answers_assoc, answers_demand, answers_demand]
  constructor
  · rintro ⟨project, repository, answers⟩
    exact ⟨⟨project, repository⟩, answers⟩
  · rintro ⟨scope, answers⟩
    exact ⟨scope.project, scope.repository, answers⟩

/-- The bound on the metadata is all that the rest of an action asks for. -/
theorem answers_metadata {connector : AgentConnector} {metadata : List (String × Document)}
    {next : Config → Procedure σ Raised α} (rest : ∀ config, Answers (next config) state) :
    Answers (safeMetadata connector metadata >>= next) state ↔ metadata.length ≤ maxWebhookMetadataKeys := by
  unfold safeMetadata
  rw [answers_assoc, answers_demand]
  exact ⟨fun both => both.1, fun short => ⟨short, rest _⟩⟩

variable (runtime : ConnectorRuntime)

theorem createTask_answers (store : ConnectorStore) (connector : AgentConnector) (payload : ConnectorWebhookPayload) :
    Answers (createTaskFromConnector runtime connector payload) store ↔
      MayCreate store connector payload ∧ payload.metadata.length ≤ maxWebhookMetadataKeys := by
  unfold createTaskFromConnector
  rw [answers_action, answers_demand, answers_read, answers_demand, answers_demand, answers_scope]
  constructor
  · rintro ⟨action, projectId, project, named, scope, answers⟩
    exact ⟨⟨action, projectId, project, named, scope⟩, (answers_metadata (by intro _; rfl)).mp answers⟩
  · rintro ⟨may, short⟩
    exact ⟨may.action, may.projectId, may.project, may.named, may.scope, (answers_metadata (by intro _; rfl)).mpr short⟩

theorem appendEvent_answers (store : ConnectorStore) (connector : AgentConnector) (payload : ConnectorWebhookPayload) :
    Answers (appendTaskEventFromConnector runtime connector payload) store ↔
      MayAppend store connector payload ∧ payload.metadata.length ≤ maxWebhookMetadataKeys := by
  have rest (task : ConnectorTask) (state : ConnectorStore) :
      Answers (do
        assignStatus runtime (payload.taskId.getD "") payload.status
        let metadata ← safeMetadata connector payload.metadata
        let eventId ← fileTaskEvent runtime task.id payload.eventType payload.message payload.status
          ("connector:" ++ connector.id) metadata.rows
        return ({ action := .appendAgentTaskEvent, connectorId := connector.id, taskId := task.id, eventId
                  message := "AgentTask event appended" } : ConnectorWebhookResponse)) state ↔
        payload.metadata.length ≤ maxWebhookMetadataKeys := by
    rw [answers_bind]
    constructor
    · rintro ⟨_, after, _, answers⟩
      exact (answers_metadata (by intro _; rfl)).mp answers
    · intro short
      cases payload.status with
      | none => exact ⟨(), state, rfl, (answers_metadata (by intro _; rfl)).mpr short⟩
      | some status => exact ⟨(), _, rfl, (answers_metadata (by intro _; rfl)).mpr short⟩
  unfold appendTaskEventFromConnector
  rw [answers_action, answers_demand, answers_read, answers_found]
  simp only [answers_demand, answers_scope, rest]
  constructor
  · rintro ⟨action, taskId, task, stored, owned, scope, short⟩
    exact ⟨⟨action, taskId, task, stored, owned, scope⟩, short⟩
  · rintro ⟨may, short⟩
    obtain ⟨task, stored, owned, scope⟩ := may.task
    exact ⟨may.action, may.taskId, task, stored, owned, scope, short⟩

/-- An action answers exactly where it does without the records of its errors. -/
theorem answers_rescue {body : Procedure σ Raised α} {record : Raised → Procedure σ Raised Unit} :
    Answers (body.rescue fun error => record error >>= fun _ => raise error) state ↔ Answers body state := by
  unfold Answers
  rw [ends_rescue]
  unfold Ends
  rcases body.run state with ⟨error | value, after⟩
  · constructor
    · intro answers
      have handled : Answers (record error >>= fun _ => raise error : Procedure σ Raised α) after := answers
      obtain ⟨_, later, _, impossible⟩ := answers_bind.mp handled
      cases impossible
    · intro impossible
      cases impossible
  · exact Iff.rfl

theorem performAction_answers {store : ConnectorStore} {connectorId : String} {connector : AgentConnector}
    (stored : store.connectors.get? connectorId = some connector) (payload : ConnectorWebhookPayload) :
    Answers (performAction runtime connectorId payload) store ↔
      Permitted store connector payload ∧ payload.metadata.length ≤ maxWebhookMetadataKeys := by
  have found : Answers (performAction runtime connectorId payload) store ↔
      Answers (match payload.action with
        | .createAgentTask => createTaskFromConnector runtime connector payload
        | .appendAgentTaskEvent => appendTaskEventFromConnector runtime connector payload
        | other => raise (.http 403 s!"Connector webhook action is not supported: {other.value}")) store := by
    unfold performAction connectorOr404
    rw [answers_assoc, answers_read, answers_found]
    constructor
    · rintro ⟨other, same, answers⟩
      rw [stored] at same
      cases same
      exact answers_rescue.mp answers
    · intro answers
      exact ⟨connector, stored, answers_rescue.mpr answers⟩
  rw [found]
  unfold Permitted
  cases payload.action with
  | createAgentTask => exact createTask_answers runtime store connector payload
  | appendAgentTaskEvent => exact appendEvent_answers runtime store connector payload
  | createApproval | createWorkOrder | readAgentTask | executeGithub =>
    constructor
    · intro impossible
      cases impossible
    · rintro ⟨impossible, _⟩
      exact impossible.elim

end Live

section RateLimit

variable (runtime : ConnectorRuntime)

/-- Whether the rate limit lets a request through at a time; none where its state cannot be read. -/
def rateVerdict (config : Config) (limit : Option Int) (now : Instant) : Option Bool := do
  let count ← requestCount runtime config
  let starts ← windowStarts runtime config now
  if starts then some true
  else do
    let limit ← limit
    some (decide (count < limit))

theorem rateLimit_answers (state : ConnectorCase) :
    Answers (enforceConnectorRateLimit runtime) state ↔
      rateVerdict runtime state.connector.config state.connector.rateLimitPerMinute (runtime.clock state.ticks) = some true := by
  unfold enforceConnectorRateLimit
  rw [answers_current, answers_clock, answers_found]
  simp only [answers_found]
  unfold rateVerdict
  cases requestCount runtime state.connector.config with
  | none => simp
  | some count =>
    cases windowStarts runtime state.connector.config (runtime.clock state.ticks) with
    | none => simp
    | some starts =>
      cases starts with
      | true => simpa using answers_change
      | false =>
        simp only [Option.some.injEq, exists_eq_left']
        rw [if_neg (by decide), answers_found]
        change _ ↔ (state.connector.rateLimitPerMinute.bind fun limit => some (decide (count < limit))) = some true
        cases state.connector.rateLimitPerMinute with
        | none => simp
        | some limit =>
          constructor
          · rintro ⟨other, same, answers⟩
            cases same
            exact congrArg some (decide_eq_true (answers_last.mp answers))
          · intro passes
            have below : count < limit := by simpa using passes
            exact ⟨limit, rfl, answers_last.mpr below⟩

/-- The verdict only reads what an authentication does not write. -/
theorem rateVerdict_same {before after : AgentConnector} (same : SameSetup ["hmac_nonce_history"] before after)
    (now : Instant) :
    rateVerdict runtime after.config after.rateLimitPerMinute now =
      rateVerdict runtime before.config before.rateLimitPerMinute now := by
  unfold rateVerdict requestCount windowStarts Config.value
  rw [same.config "rate_limit_request_count" (by decide), same.config "rate_limit_window_started_at" (by decide),
    same.rateLimitPerMinute]

end RateLimit

section Agreement

variable (runtime : ConnectorRuntime)

/-- The webhook answers that it accepted a request. -/
def LiveAccepts (store : ConnectorStore) (connectorId : String) (request : WebhookRequest) : Prop :=
  Answers (handleConnectorWebhook runtime connectorId request) store

/-- What the rate limit says of a request that authentication lets through. -/
def rateVerdictAt (store : ConnectorStore) (connector : AgentConnector) : Option Bool :=
  rateVerdict runtime connector.config connector.rateLimitPerMinute
    (runtime.clock (store.ticks + authenticationReadings connector))

/-- What the live webhook asks for and the simulator does not look at. -/
structure LiveOnly (store : ConnectorStore) (connector : AgentConnector) (read : ConnectorWebhookPayload) : Prop where
  takes : TakesCredentials connector
  short : read.metadata.length ≤ maxWebhookMetadataKeys
  readable : rateVerdictAt runtime store connector ≠ none

theorem permitted_same {store after : ConnectorStore} {before later : AgentConnector} {written : List String}
    (same : SameSetup written before later) (projects : after.projects = store.projects)
    (tasks : after.agentTasks = store.agentTasks) (payload : ConnectorWebhookPayload) :
    Permitted after later payload ↔ Permitted store before payload := by
  have owned (task : ConnectorTask) : ownsTask later task = ownsTask before task := by
    unfold ownsTask
    rw [same.id]
  have scope (projectId repository : Option String) :
      InScope later projectId repository ↔ InScope before projectId repository := by
    rw [← scopeErrors_eq_nil, ← scopeErrors_eq_nil]
    unfold scopeErrors
    rw [same.allowedProjectIds, same.allowedRepositories]
  unfold Permitted
  cases payload.action with
  | createAgentTask =>
    constructor
    · intro may
      exact ⟨same.allowedActions ▸ may.action, may.projectId, projects ▸ may.project, may.named, (scope _ _).mp may.scope⟩
    · intro may
      exact ⟨same.allowedActions ▸ may.action, may.projectId, projects ▸ may.project, may.named, (scope _ _).mpr may.scope⟩
  | appendAgentTaskEvent =>
    constructor
    · intro may
      obtain ⟨task, stored, owns, within⟩ := may.task
      exact ⟨same.allowedActions ▸ may.action, may.taskId, task, tasks ▸ stored, owned task ▸ owns, (scope _ _).mp within⟩
    · intro may
      obtain ⟨task, stored, owns, within⟩ := may.task
      exact ⟨same.allowedActions ▸ may.action, may.taskId, task, tasks ▸ stored, (owned task).symm ▸ owns,
        (scope _ _).mpr within⟩
  | createApproval | createWorkOrder | readAgentTask | executeGithub => exact Iff.rfl

theorem readPayload_same {before later : AgentConnector} (same : SameSetup webhookKeys before later) (payload : Document) :
    readPayload runtime later none payload = readPayload runtime before none payload := by
  have mapper : mapperFromConnector runtime later = mapperFromConnector runtime before := by
    unfold mapperFromConnector Config.value
    rw [same.config "schema_mapper" (by decide)]
  unfold readPayload normalizeConnectorPayload activeMapper
  simp only [mapper]

/-- Authentication and rate limit let valid credentials through exactly where the
connector is ready, takes credentials and is within its limit. -/
theorem admit_answers {store : ConnectorStore} {connector : AgentConnector} {request : WebhookRequest}
    (credentials : ValidCredentials runtime connector (runtime.clock store.ticks) request) :
    Answers (admitRequest runtime request) ⟨store.ticks, connector⟩ ↔
      (connector.status = .enabled ∧ secretConfigured connector = true ∧ TakesCredentials connector) ∧
        rateVerdictAt runtime store connector = some true := by
  have kept := (@same_setup_authenticate ["hmac_nonce_history"] runtime (by decide) request).ends ⟨store.ticks, connector⟩
  unfold admitRequest
  rw [answers_bind]
  simp only [rateLimit_answers]
  constructor
  · rintro ⟨_, after, ran, verdict⟩
    -- a webhook that is barred never gets to its rate limit
    have ready : connector.status = .enabled ∧ secretConfigured connector = true ∧ TakesCredentials connector := by
      by_contra unready
      have barred : connector.status ≠ .enabled ∨ secretConfigured connector = false ∨ ¬ TakesCredentials connector := by
        by_cases enabled : connector.status = .enabled
        · by_cases configured : secretConfigured connector = true
          · exact .inr (.inr fun takes => unready ⟨enabled, configured, takes⟩)
          · exact .inr (.inl (Bool.eq_false_iff.mpr configured))
        · exact .inl enabled
      have refused := @authenticate_refuses runtime connector request store.ticks barred
      exact Ends.of_run refused ran rfl
    have passes := @authenticate_passes runtime connector request store.ticks ready.1 ready.2.1 ready.2.2 credentials
    -- the authentication changes nothing that the rate limit reads
    have later := (Ends.of_run passes ran).2
    have same := (Ends.of_run kept ran).1
    rw [rateVerdict_same runtime same, later] at verdict
    exact ⟨ready, verdict⟩
  · rintro ⟨⟨enabled, configured, takes⟩, verdict⟩
    have passes := @authenticate_passes runtime connector request store.ticks enabled configured takes credentials
    rcases ran : (authenticateConnector runtime request).run ⟨store.ticks, connector⟩ with ⟨outcome, after⟩
    obtain ⟨passed, later⟩ := Ends.of_run passes ran
    have same := (Ends.of_run kept ran).1
    refine ⟨(), after, by rw [passed], ?_⟩
    rw [rateVerdict_same runtime same, later]
    exact verdict

theorem onConnector_run {α : Type} {store : ConnectorStore} {connectorId : String} {connector : AgentConnector}
    (stored : store.connectors.get? connectorId = some connector) (body : CaseProcedure α) :
    (onConnector connectorId body).run store =
      ((body.run ⟨store.ticks, connector⟩).1,
        { store with
          ticks := (body.run ⟨store.ticks, connector⟩).2.ticks
          connectors := store.connectors.set connectorId (body.run ⟨store.ticks, connector⟩).2.connector }) := by
  unfold onConnector
  dsimp only
  rw [stored]

/-- Behind authentication the webhook answers what it permits with metadata of a bounded size. -/
theorem handlePayload_answers {store : ConnectorStore} {connectorId : String} {connector : AgentConnector}
    (stored : store.connectors.get? connectorId = some connector) {request : WebhookRequest} {payload : Document}
    (sent : runtime.parseJson request.body = some payload) :
    Answers (handlePayload runtime connectorId request) store ↔
      ∃ read, readPayload runtime connector none payload = some read ∧ Permitted store connector read ∧
        read.metadata.length ≤ maxWebhookMetadataKeys := by
  unfold handlePayload connectorOr404
  rw [answers_assoc, answers_read, answers_found]
  simp only [stored, Option.some.injEq, exists_eq_left', sent, Option.bind_some]
  cases readPayload runtime connector none payload with
  | none =>
    constructor
    · intro answers
      obtain ⟨_, _, _, impossible⟩ := answers_bind.mp answers
      cases impossible
    · rintro ⟨read, impossible, _⟩
      cases impossible
  | some read =>
    refine (performAction_answers runtime stored read).trans ?_
    constructor
    · exact fun both => ⟨read, rfl, both⟩
    · rintro ⟨other, same, both⟩
      cases same
      exact both

/-- The live webhook accepts what is admissible and meets its own conditions. -/
theorem live_accepts_iff {store : ConnectorStore} {connectorId : String} {connector : AgentConnector}
    (stored : store.connectors.get? connectorId = some connector) {request : WebhookRequest}
    {payload : List (String × Document)} (sent : runtime.parseJson request.body = some (.object payload))
    (credentials : ValidCredentials runtime connector (runtime.clock store.ticks) request) :
    LiveAccepts runtime store connectorId request ↔
      TakesCredentials connector ∧ rateVerdictAt runtime store connector = some true ∧
        ∃ read, Admissible runtime store connector payload read ∧ read.metadata.length ≤ maxWebhookMetadataKeys := by
  have admitted := admit_answers runtime credentials
  have kept := (same_setup_admitted runtime request).ends ⟨store.ticks, connector⟩
  unfold LiveAccepts handleConnectorWebhook
  rw [answers_bind, onConnector_run stored]
  rcases ran : (admitRequest runtime request).run ⟨store.ticks, connector⟩ with ⟨outcome, after⟩
  have same := (Ends.of_run kept ran).1
  have placed : (store.connectors.set connectorId after.connector).get? connectorId = some after.connector :=
    Table.get?_set_self _ _ _
  -- the payload is handled in the store that admission leaves; what it reads is the same
  have permits (read : ConnectorWebhookPayload) : Permitted
      { store with ticks := after.ticks, connectors := store.connectors.set connectorId after.connector } after.connector
        read ↔ Permitted store connector read := by
    apply permitted_same same
    · rfl
    · rfl
  have answers : Answers (handlePayload runtime connectorId request)
      { store with ticks := after.ticks, connectors := store.connectors.set connectorId after.connector } ↔
      ∃ read, readPayload runtime connector none (.object payload) = some read ∧ Permitted store connector read ∧
        read.metadata.length ≤ maxWebhookMetadataKeys := by
    rw [handlePayload_answers runtime placed sent]
    simp only [readPayload_same runtime same, permits]
  -- the admission inside the request is the admission on its own
  have outcomes : outcome = .ok () ↔ Answers (admitRequest runtime request) ⟨store.ticks, connector⟩ := by
    unfold Answers Ends
    rw [ran]
    rcases outcome with error | _
    · simp [Except.isOk, Except.toBool]
    · simp [Except.isOk, Except.toBool]
  constructor
  · rintro ⟨_, middle, both, rest⟩
    cases both
    obtain ⟨⟨enabled, configured, takes⟩, verdict⟩ := admitted.mp (outcomes.mp rfl)
    obtain ⟨read, readable, permitted, short⟩ := answers.mp rest
    exact ⟨takes, verdict, read, ⟨enabled, configured, readable, permitted⟩, short⟩
  · rintro ⟨takes, verdict, read, admissible, short⟩
    have passed := outcomes.mpr (admitted.mpr ⟨⟨admissible.enabled, admissible.configured, takes⟩, verdict⟩)
    subst passed
    exact ⟨(), _, rfl, answers.mpr ⟨read, admissible.readable, admissible.permitted, short⟩⟩

/-- With valid credentials and within the rate limit the simulator predicts the live
webhook exactly where everything admissible also meets the conditions of the webhook alone. -/
theorem simulator_agrees_iff {store : ConnectorStore} {connectorId : String} {connector : AgentConnector}
    (stored : store.connectors.get? connectorId = some connector) {request : WebhookRequest}
    {payload : List (String × Document)} (sent : runtime.parseJson request.body = some (.object payload))
    (credentials : ValidCredentials runtime connector (runtime.clock store.ticks) request)
    (within : rateVerdictAt runtime store connector ≠ some false) :
    (SimulatorAccepts runtime store connector payload ↔ LiveAccepts runtime store connectorId request) ↔
      ∀ read, Admissible runtime store connector payload read → LiveOnly runtime store connector read := by
  rw [simulator_accepts_iff, live_accepts_iff runtime stored sent credentials]
  constructor
  · rintro agree read admissible
    obtain ⟨takes, verdict, other, held, short⟩ := agree.mp ⟨read, admissible⟩
    have same := held.readable
    rw [admissible.readable] at same
    cases same
    exact ⟨takes, short, by rw [verdict]; exact Option.some_ne_none _⟩
  · intro every
    constructor
    · rintro ⟨read, admissible⟩
      have live := every read admissible
      have verdict : rateVerdictAt runtime store connector = some true := by
        rcases seen : rateVerdictAt runtime store connector with _ | _ | _
        · exact absurd seen live.readable
        · exact absurd seen within
        · rfl
      exact ⟨live.takes, verdict, read, admissible, live.short⟩
    · rintro ⟨_, _, read, admissible, _⟩
      exact ⟨read, admissible⟩

end Agreement

section Sample

def taskPayload : List (String × Document) :=
  [("project_id", .text "project_1"), ("title", .text "Greeting"), ("goal", .text "Change it")]

def taskBody : String := "\x7b\"project_id\": \"project_1\", \"title\": \"Greeting\", \"goal\": \"Change it\"\x7d"

def bridgeRuntime : ConnectorRuntime := .plain [(taskBody, .object taskPayload)]

/-- A connector with a secret, for a way to authenticate. -/
def bridgeConnector (authType : ConnectorAuthType) : AgentConnector where
  id := "connector_1"
  name := some "bridge"
  connectorType := some .webhook
  providerLabel := some .custom
  endpointUrl := none
  callbackUrl := none
  authType := some authType
  status := .enabled
  healthStatus := .unknown
  allowedProjectIds := some []
  allowedRepositories := some []
  allowedActions := some [.createAgentTask]
  rateLimitPerMinute := some 60
  secretRef := some "connector_secret_1"
  lastUsedAt := none
  lastHealthCheckAt := none
  failedAuthCount := 0
  lastError := none
  createdByUserId := none
  config := Table.empty.set "secret_hash" (.text "hashed_s3cret")
  createdAt := 0
  updatedAt := 0

def bridgeStore (authType : ConnectorAuthType) : ConnectorStore :=
  ⟨0, ["project_1"], Table.empty.set "connector_1" (bridgeConnector authType), .empty, .empty⟩

def bearerRequest : WebhookRequest where
  body := asciiBytes taskBody
  authorization := some "Bearer s3cret"
  signature := none
  signatureVersion := none
  timestamp := none
  nonce := none

theorem bearerRequest_sent : bridgeRuntime.parseJson bearerRequest.body = some (.object taskPayload) := by
  change ((([(taskBody, Document.object taskPayload)] : List (String × Document)).find?
    fun known => asciiBytes known.1 == asciiBytes taskBody).map (·.2)) = _
  simp

theorem bridge_admissible (authType : ConnectorAuthType) :
    ∃ read, Admissible bridgeRuntime (bridgeStore authType) (bridgeConnector authType) taskPayload read ∧
      read.metadata = [] := by
  refine ⟨_, ⟨rfl, rfl, rfl, ?_⟩, rfl⟩
  exact
    { action := ⟨_, rfl, rfl⟩
      projectId := rfl
      project := List.mem_singleton.mpr rfl
      named := ⟨rfl, rfl⟩
      scope := ⟨rfl, rfl⟩ }

theorem bridge_verdict (authType : ConnectorAuthType) :
    rateVerdictAt bridgeRuntime (bridgeStore authType) (bridgeConnector authType) = some true := rfl

/-- A bearer connector: what the simulator predicts, the webhook accepts. -/
theorem bridge_agrees : SimulatorAccepts bridgeRuntime (bridgeStore .bearer) (bridgeConnector .bearer) taskPayload ∧
    LiveAccepts bridgeRuntime (bridgeStore .bearer) "connector_1" bearerRequest := by
  obtain ⟨read, admissible, empty⟩ := bridge_admissible .bearer
  have stored : (bridgeStore .bearer).connectors.get? "connector_1" = some (bridgeConnector .bearer) := rfl
  have credentials : ValidCredentials bridgeRuntime (bridgeConnector .bearer)
      (bridgeRuntime.clock (bridgeStore .bearer).ticks) bearerRequest := ⟨by decide, by decide +kernel⟩
  have within : rateVerdictAt bridgeRuntime (bridgeStore .bearer) (bridgeConnector .bearer) ≠ some false := by
    rw [bridge_verdict]
    decide
  have agree := (simulator_agrees_iff bridgeRuntime stored bearerRequest_sent credentials within).mpr (by
    intro other held
    have same := held.readable
    rw [admissible.readable] at same
    cases same
    exact ⟨.inl rfl, by rw [empty]; decide, by rw [bridge_verdict]; decide⟩)
  have simulated := (simulator_accepts_iff bridgeRuntime (bridgeStore .bearer) (bridgeConnector .bearer) taskPayload).mpr
    ⟨read, admissible⟩
  exact ⟨simulated, agree.mp simulated⟩

/-- For a connector without authentication the simulator accepts what the webhook refuses. -/
theorem simulator_overpromises : ¬ ∀ (runtime : ConnectorRuntime) (store : ConnectorStore) (connectorId : String)
    (connector : AgentConnector), store.connectors.get? connectorId = some connector →
      ∀ (request : WebhookRequest) (payload : List (String × Document)),
        runtime.parseJson request.body = some (.object payload) →
        ValidCredentials runtime connector (runtime.clock store.ticks) request →
        rateVerdictAt runtime store connector ≠ some false →
        (SimulatorAccepts runtime store connector payload ↔ LiveAccepts runtime store connectorId request) := by
  intro always
  have stored : (bridgeStore .none).connectors.get? "connector_1" = some (bridgeConnector .none) := rfl
  have within : rateVerdictAt bridgeRuntime (bridgeStore .none) (bridgeConnector .none) ≠ some false := by
    rw [bridge_verdict]
    decide
  have agree := always bridgeRuntime (bridgeStore .none) "connector_1" (bridgeConnector .none) stored bearerRequest
    taskPayload bearerRequest_sent trivial within
  obtain ⟨read, admissible, _⟩ := bridge_admissible .none
  have simulated := (simulator_accepts_iff bridgeRuntime (bridgeStore .none) (bridgeConnector .none) taskPayload).mpr
    ⟨read, admissible⟩
  have credentials : ValidCredentials bridgeRuntime (bridgeConnector .none)
      (bridgeRuntime.clock (bridgeStore .none).ticks) bearerRequest := trivial
  obtain ⟨takes, _⟩ := (live_accepts_iff bridgeRuntime stored bearerRequest_sent credentials).mp (agree.mp simulated)
  revert takes
  unfold TakesCredentials bridgeConnector
  decide

end Sample

end ControlTower.Connectors
